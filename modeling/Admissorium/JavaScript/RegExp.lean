import Admissorium.JavaScript.Values
import Mathlib.Computability.Language

/-!
# Regular expressions as a backtracking matcher

A pattern is run at a cursor and lists the cursors it can stop at, in the order
the engine tries them; the first of them is the match. `test` asks whether any
start position has one and `replaceAll` rewrites the leftmost matches.

A pattern without assertions has a language in the usual sense, and the cursors
it stops at are those that consume a word of it (`mem_run_iff`). Anchored at both
ends it therefore accepts exactly that language (`test_anchored`).
-/
namespace Admissorium.JavaScript
set_option autoImplicit false

def lineTerminators : List Char := ['\n', '\r', '\u2028', '\u2029']

/-- The characters `\s` matches. -/
def whiteSpace : List Char :=
  ['\t', '\n', '\u000b', '\u000c', '\r', ' ', '\u00a0', '\u1680', '\u2000', '\u2001', '\u2002',
    '\u2003', '\u2004', '\u2005', '\u2006', '\u2007', '\u2008', '\u2009', '\u200a', '\u2028',
    '\u2029', '\u202f', '\u205f', '\u3000', '\ufeff']

/-- A set of characters as a pattern writes it. -/
inductive CharSet where
  | char (c : Char)
  | dot
  | space
  | range (lo hi : Char)
  | union (a b : CharSet)
  | compl (a : CharSet)
  deriving DecidableEq, Repr

def CharSet.member : CharSet → Char → Bool
  | char c, x => x = c
  | dot, x => x ∉ lineTerminators
  | space, x => x ∈ whiteSpace
  | range lo hi, x => lo ≤ x && x ≤ hi
  | union a b, x => a.member x || b.member x
  | compl a, x => !a.member x

inductive Assertion where
  | inputStart
  | inputEnd
  | wordBoundary
  deriving DecidableEq, Repr

/-- Only sets are starred, which is all the program's patterns need. -/
inductive RegExp where
  | empty
  | set (s : CharSet)
  | star (s : CharSet) (reluctant : Bool)
  | opt (r : RegExp) (reluctant : Bool)
  | seq (a b : RegExp)
  | alt (a b : RegExp)
  | assert (k : Assertion)
  deriving DecidableEq, Repr

/-- The input around a position; what lies before it is kept reversed. -/
structure Cursor where
  before : List Char
  after : List Char
  deriving DecidableEq, Repr

def isWordChar (c : Char) : Bool := c.isAlphanum || c = '_'

def Assertion.holds : Assertion → Cursor → Bool
  | inputStart, c => c.before.isEmpty
  | inputEnd, c => c.after.isEmpty
  | wordBoundary, c => c.before.head?.any isWordChar != c.after.head?.any isWordChar

namespace RegExp

/-- The positions a starred set can stop at: the furthest first, unless reluctant. -/
def starEnds (s : CharSet) (reluctant : Bool) : List Char → List Char → List Cursor
  | before, [] => [⟨before, []⟩]
  | before, c :: rest =>
      if s.member c then
        if reluctant then ⟨before, c :: rest⟩ :: starEnds s reluctant (c :: before) rest
        else starEnds s reluctant (c :: before) rest ++ [⟨before, c :: rest⟩]
      else [⟨before, c :: rest⟩]

/-- Where the pattern can stop from a cursor, in the order the engine tries. -/
def run : RegExp → Cursor → List Cursor
  | empty, p => [p]
  | set s, p =>
      match p.after with
      | [] => []
      | c :: rest => if s.member c then [⟨c :: p.before, rest⟩] else []
  | star s reluctant, p => starEnds s reluctant p.before p.after
  | opt r reluctant, p => if reluctant then p :: run r p else run r p ++ [p]
  | seq a b, p => (run a p).flatMap (run b)
  | alt a b, p => run a p ++ run b p
  | assert k, p => if k.holds p then [p] else []

/-- Try every start position from here on. -/
def search (r : RegExp) : List Char → List Char → Bool
  | before, [] => !(r.run ⟨before, []⟩).isEmpty
  | before, c :: rest => !(r.run ⟨before, c :: rest⟩).isEmpty || search r (c :: before) rest

/-- `pattern.test(text)`. -/
def test (r : RegExp) (text : String) : Bool := r.search [] text.toList

/-- The length of the first match at a cursor. -/
def matchLength (r : RegExp) (p : Cursor) : Option Nat :=
  (r.run p).head?.map (fun stop => p.after.length - stop.after.length)

/-- Copy the input, writing `replacement` for each leftmost match; `skip`
counts the characters of the last match still to be passed over. -/
def replaceFrom (r : RegExp) (replacement : List Char) :
    Nat → List Char → List Char → List Char
  | _ + 1, _, [] => []
  | skip + 1, before, c :: rest => replaceFrom r replacement skip (c :: before) rest
  | 0, before, [] => if (r.matchLength ⟨before, []⟩).isSome then replacement else []
  | 0, before, c :: rest =>
      match r.matchLength ⟨before, c :: rest⟩ with
      | none => c :: replaceFrom r replacement 0 (c :: before) rest
      | some 0 => replacement ++ c :: replaceFrom r replacement 0 (c :: before) rest
      | some (n + 1) => replacement ++ replaceFrom r replacement n (c :: before) rest

/-- `text.replace(pattern, replacement)` with the global flag and a replacement
in which no `$` occurs. -/
def replaceAll (r : RegExp) (replacement text : String) : String :=
  String.ofList (replaceFrom r replacement.toList 0 [] text.toList)

/-- Patterns written side by side. -/
def concat : List RegExp → RegExp := List.foldr seq empty

/-- A text to be matched as it stands. -/
def literal (text : String) : RegExp := concat (text.toList.map (fun c => set (.char c)))

/-- `s+`. -/
def plus (s : CharSet) : RegExp := seq (set s) (star s false)

/-! ## The language of a pattern without assertions -/

def plain : RegExp → Bool
  | empty | set _ | star _ _ => true
  | opt r _ => plain r
  | seq a b | alt a b => plain a && plain b
  | assert _ => false

/-- The words a pattern can consume; meant for `plain` patterns. -/
def lang : RegExp → Language Char
  | empty => 1
  | set s => {w | ∃ c, s.member c = true ∧ w = [c]}
  | star s _ => {w | ∀ c ∈ w, s.member c = true}
  | opt r _ => lang r + 1
  | seq a b => lang a * lang b
  | alt a b => lang a + lang b
  | assert _ => 0

/-- `q` is reached from `p` by consuming `w`. -/
def Consumes (w : List Char) (p q : Cursor) : Prop :=
  p.after = w ++ q.after ∧ q.before = w.reverse ++ p.before

theorem consumes_nil (p q : Cursor) : Consumes [] p q ↔ q = p := by
  constructor
  · intro h
    obtain ⟨ha, hb⟩ := h
    cases p; cases q
    simp_all
  · rintro rfl
    exact ⟨rfl, rfl⟩

theorem consumes_append (u v : List Char) (p q : Cursor) :
    Consumes (u ++ v) p q ↔ ∃ m, Consumes u p m ∧ Consumes v m q := by
  constructor
  · intro h
    obtain ⟨ha, hb⟩ := h
    refine ⟨⟨u.reverse ++ p.before, v ++ q.after⟩, ⟨by simp [ha], rfl⟩, rfl, ?_⟩
    simp [hb]
  · intro h
    obtain ⟨m, ⟨ha, hb⟩, hc, hd⟩ := h
    exact ⟨by rw [ha, hc, List.append_assoc], by rw [hd, hb]; simp⟩

theorem mem_starEnds_iff (s : CharSet) (reluctant : Bool) (q : Cursor) :
    ∀ before after, q ∈ starEnds s reluctant before after ↔
      ∃ w, (∀ c ∈ w, s.member c = true) ∧ Consumes w ⟨before, after⟩ q := by
  intro before after
  induction after generalizing before with
  | nil =>
      simp only [starEnds, List.mem_singleton]
      constructor
      · rintro rfl
        exact ⟨[], by simp, rfl, rfl⟩
      · intro h
        obtain ⟨w, _, ha, hb⟩ := h
        obtain ⟨rfl, hq⟩ := List.append_eq_nil_iff.mp ha.symm
        cases q
        simp_all
  | cons c rest ih =>
      have hstop : (∃ w, (∀ x ∈ w, s.member x = true) ∧ Consumes w ⟨before, c :: rest⟩ q) ↔
          q = ⟨before, c :: rest⟩ ∨ (s.member c = true ∧
            ∃ w, (∀ x ∈ w, s.member x = true) ∧ Consumes w ⟨c :: before, rest⟩ q) := by
        constructor
        · intro h
          obtain ⟨w, hw, hc⟩ := h
          cases w with
          | nil => exact Or.inl ((consumes_nil _ _).mp hc)
          | cons x w =>
              obtain ⟨m, hx, hrest⟩ := (consumes_append [x] w _ _).mp hc
              obtain ⟨ha, hb⟩ := hx
              obtain ⟨rfl, htail⟩ := List.cons.inj ha
              have hm : m = ⟨c :: before, rest⟩ := by cases m; simp_all
              subst hm
              exact Or.inr ⟨hw c (by simp), w, fun y hy => hw y (by simp [hy]), hrest⟩
        · intro h
          rcases h with rfl | ⟨hc, w, hw, hrest⟩
          · exact ⟨[], by simp, rfl, rfl⟩
          · refine ⟨c :: w, by simpa [hc] using hw, ?_⟩
            exact (consumes_append [c] w _ _).mpr ⟨_, ⟨rfl, rfl⟩, hrest⟩
      rw [hstop, ← ih]
      by_cases hc : s.member c = true
      · cases reluctant <;> simp [starEnds, hc, or_comm]
      · simp [starEnds, hc]

/-- A plain pattern stops exactly where it has consumed a word of its language. -/
theorem mem_run_iff {r : RegExp} (hr : r.plain = true) (p q : Cursor) :
    q ∈ r.run p ↔ ∃ w ∈ r.lang, Consumes w p q := by
  induction r generalizing p q with
  | empty =>
      simp only [run, List.mem_singleton, lang, Language.mem_one, exists_eq_left]
      exact (consumes_nil p q).symm
  | set s =>
      obtain ⟨before, after⟩ := p
      cases after with
      | nil =>
          simp only [run, List.not_mem_nil, false_iff]
          intro hcase
          obtain ⟨w, ⟨c, _, rfl⟩, ha, _⟩ := hcase
          cases ha
      | cons c rest =>
          simp only [run]
          constructor
          · intro h
            split at h
            · obtain rfl := List.mem_singleton.mp h
              exact ⟨[c], ⟨c, ‹_›, rfl⟩, rfl, rfl⟩
            · cases h
          · intro hcase
            obtain ⟨w, ⟨x, hx, rfl⟩, ha, hb⟩ := hcase
            obtain ⟨rfl, htail⟩ := List.cons.inj ha
            rw [if_pos hx]
            cases q
            simp_all
  | star s reluctant => exact mem_starEnds_iff s reluctant q p.before p.after
  | opt r reluctant ih =>
      have hempty : (∃ w ∈ lang (opt r reluctant), Consumes w p q) ↔
          (∃ w ∈ lang r, Consumes w p q) ∨ q = p := by
        simp only [lang, Language.mem_add, Language.mem_one, or_and_right, exists_or,
          exists_eq_left, consumes_nil]
      rw [hempty, ← ih hr]
      cases reluctant <;> simp [run, or_comm]
  | seq a b iha ihb =>
      simp only [plain, Bool.and_eq_true] at hr
      simp only [run, List.mem_flatMap, lang, Language.mem_mul]
      constructor
      · intro hcase
        obtain ⟨m, hm, hq⟩ := hcase
        obtain ⟨u, hu, hpm⟩ := (iha hr.1 p m).mp hm
        obtain ⟨v, hv, hmq⟩ := (ihb hr.2 m q).mp hq
        exact ⟨u ++ v, ⟨u, hu, v, hv, rfl⟩, (consumes_append u v p q).mpr ⟨m, hpm, hmq⟩⟩
      · intro hcase
        obtain ⟨w, ⟨u, hu, v, hv, rfl⟩, hw⟩ := hcase
        obtain ⟨m, hpm, hmq⟩ := (consumes_append u v p q).mp hw
        exact ⟨m, (iha hr.1 p m).mpr ⟨u, hu, hpm⟩, (ihb hr.2 m q).mpr ⟨v, hv, hmq⟩⟩
  | alt a b iha ihb =>
      simp only [plain, Bool.and_eq_true] at hr
      simp only [run, List.mem_append, lang, Language.mem_add, or_and_right, exists_or,
        iha hr.1, ihb hr.2]
  | assert k => cases hr

/-! ## Concatenated patterns -/

@[simp] theorem concat_cons (r : RegExp) (rs : List RegExp) :
    concat (r :: rs) = seq r (concat rs) := rfl

@[simp] theorem plain_concat (rs : List RegExp) : (concat rs).plain = rs.all plain := by
  induction rs with
  | nil => rfl
  | cons r rs ih => simp [plain, ih]

theorem run_concat_append (rs ss : List RegExp) (p : Cursor) :
    (concat (rs ++ ss)).run p = ((concat rs).run p).flatMap (concat ss).run := by
  induction rs generalizing p with
  | nil => simp [concat, run]
  | cons r rs ih =>
      have htail : (concat (rs ++ ss)).run = fun q => ((concat rs).run q).flatMap (concat ss).run :=
        funext ih
      simp only [List.cons_append, concat_cons, run, htail, List.flatMap_assoc]

theorem lang_concat_append (rs ss : List RegExp) :
    (concat (rs ++ ss)).lang = (concat rs).lang * (concat ss).lang := by
  induction rs with
  | nil => exact (one_mul _).symm
  | cons r rs ih => simp [lang, ih, mul_assoc]

theorem mem_lang_chars (text w : List Char) :
    w ∈ (concat (text.map (fun c => set (.char c)))).lang ↔ w = text := by
  induction text generalizing w with
  | nil => exact Iff.rfl
  | cons c text ih =>
      simp only [List.map_cons, concat_cons, lang]
      constructor
      · intro h
        obtain ⟨u, ⟨x, hx, rfl⟩, v, hv, rfl⟩ := h
        rw [(ih v).mp hv]
        simpa [CharSet.member] using hx
      · rintro rfl
        exact ⟨[c], ⟨c, by simp [CharSet.member], rfl⟩, text, (ih text).mpr rfl, rfl⟩

/-! ## Patterns anchored at both ends -/

/-- `^…$`. -/
def anchored (body : List RegExp) : RegExp :=
  concat (assert .inputStart :: (body ++ [assert .inputEnd]))

theorem run_anchored_of_before (body : List RegExp) (c : Char) (before after : List Char) :
    (anchored body).run ⟨c :: before, after⟩ = [] := by
  simp [anchored, run, Assertion.holds]

theorem search_anchored_of_before (body : List RegExp) (c : Char) (before after : List Char) :
    (anchored body).search (c :: before) after = false := by
  induction after generalizing c before with
  | nil => simp [search, run_anchored_of_before]
  | cons d rest ih => simp [search, run_anchored_of_before, ih]

/-- Anchoring leaves one start position to try. -/
theorem search_anchored_eq (body : List RegExp) (text : List Char) :
    (anchored body).search [] text = !((anchored body).run ⟨[], text⟩).isEmpty := by
  cases text with
  | nil => rfl
  | cons c rest => simp [search, search_anchored_of_before]

theorem mem_run_inputEnd (p q : Cursor) :
    q ∈ (concat [assert .inputEnd]).run p ↔ q = p ∧ p.after = [] := by
  cases h : p.after <;> simp [concat, run, Assertion.holds, h]

/-- Anchored at both ends, a plain pattern accepts exactly its language. -/
theorem search_anchored {body : List RegExp} (hr : body.all plain = true) (text : List Char) :
    (anchored body).search [] text = true ↔ text ∈ (concat body).lang := by
  have hrun : (anchored body).run ⟨[], text⟩ =
      ((concat body).run ⟨[], text⟩).flatMap (concat [assert .inputEnd]).run := by
    rw [← run_concat_append]
    simp [anchored, run, Assertion.holds]
  have hplain : (concat body).plain = true := by rw [plain_concat]; exact hr
  rw [search_anchored_eq, hrun, Bool.not_eq_true', List.isEmpty_eq_false_iff_exists_mem]
  simp only [List.mem_flatMap, mem_run_iff hplain, mem_run_inputEnd]
  constructor
  · intro h
    obtain ⟨q, m, ⟨w, hw, ha, _⟩, rfl, hend⟩ := h
    rw [hend, List.append_nil] at ha
    change text = w at ha
    rw [ha]
    exact hw
  · intro hw
    exact ⟨⟨text.reverse, []⟩, ⟨text.reverse, []⟩, ⟨text, hw, by simp, by simp⟩, rfl, rfl⟩

theorem test_anchored {body : List RegExp} (hr : body.all plain = true) (text : String) :
    (anchored body).test text = true ↔ text.toList ∈ (concat body).lang :=
  search_anchored hr text.toList

end RegExp
end Admissorium.JavaScript
