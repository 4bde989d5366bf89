import Admissorium.JavaScript.RegExp
import Mathlib.Data.List.DropRight

/-!
# Text methods and pattern sources

The methods of `String.prototype` the program calls, and `new RegExp(source)`
for the sources it builds: assertions at the ends, characters, escaped
characters, `.`, one-character negated sets, and the quantifiers `*` and `?`
with their reluctant forms. Without the flag `u` all of these are about single
code units, so that `?` after a character that takes two makes the second one
optional. A quantifier with nothing before it is a syntax
error, as in the language; other syntax is not produced by the program and is
rejected here.
-/
namespace Admissorium.JavaScript
set_option autoImplicit false

/-- What holds of every character of a list is decided along the list. -/
instance (priority := high) decidableForallMem (p : Char → Prop) [DecidablePred p]
    (l : List Char) : Decidable (∀ c ∈ l, p c) := List.decidableBAll p l

namespace Text

/-- `text.startsWith(head)`. -/
def startsWith (text head : String) : Bool := head.toList.isPrefixOf text.toList

/-- `text.endsWith(tail)`. -/
def endsWith (text tail : String) : Bool := tail.toList.isSuffixOf text.toList

def occursIn (part : List Char) : List Char → Bool
  | [] => part.isEmpty
  | c :: rest => part.isPrefixOf (c :: rest) || occursIn part rest

/-- `text.includes(part)`. -/
def includes (text part : String) : Bool := occursIn part.toList text.toList

/-- Copy the input, writing `replacement` for each leftmost occurrence of a
nonempty `part`; `skip` counts the characters of it still to be passed over. -/
def replaceFrom (part replacement : List Char) : Nat → List Char → List Char
  | _, [] => []
  | skip + 1, _ :: rest => replaceFrom part replacement skip rest
  | 0, c :: rest =>
      if part.isPrefixOf (c :: rest) then
        replacement ++ replaceFrom part replacement (part.length - 1) rest
      else c :: replaceFrom part replacement 0 rest

/-- `text.replaceAll(part, replacement)` for a nonempty part, and `replace` with
a global pattern that spells the part out. -/
def replaceAll (text part replacement : String) : String :=
  String.ofList (replaceFrom part.toList replacement.toList 0 text.toList)

/-- `text.split(separator)` for a one-character separator. -/
def split (text : String) (separator : Char) : List String :=
  (text.toList.splitOn separator).map String.ofList

/-- `text.trim()`. -/
def trim (text : String) : String :=
  String.ofList (((text.toList.dropWhile (· ∈ whiteSpace)).reverse.dropWhile
    (· ∈ whiteSpace)).reverse)

/-- The UTF-16 code units of a character. -/
def charUnits (c : Char) : List Nat :=
  if c.toNat < 0x10000 then [c.toNat]
  else [0xD800 + (c.toNat - 0x10000) / 0x400, 0xDC00 + (c.toNat - 0x10000) % 0x400]

/-- The code units of a text, in which the language measures and compares it. -/
def units (text : String) : List Nat := text.toList.flatMap charUnits

/-- The code units of a character as symbols a pattern can be run over. A surrogate is no
character; one beyond the basic plane, where no code unit lies, stands for it (`map_unit_halves`). -/
def halves (c : Char) : List Char :=
  if c.toNat < 0x10000 then [c]
  else [Char.ofNat (0x10000 + (c.toNat - 0x10000) / 0x400),
    Char.ofNat (0x10400 + (c.toNat - 0x10000) % 0x400)]

theorem charUnits_ne_nil (c : Char) : charUnits c ≠ [] := by
  unfold charUnits
  split <;> simp

/-- The code units of a character tell it from every other, whatever follows: a unit in the
surrogate range opens a pair, any other one stands alone. -/
theorem charUnits_inj {c d : Char} {u v : List Nat} (h : charUnits c ++ u = charUnits d ++ v) :
    c = d ∧ u = v := by
  have hrange : ∀ c : Char, c.toNat < 0xD800 ∨ 0xDFFF < c.toNat ∧ c.toNat < 0x110000 :=
    fun c => c.valid
  have hcr := hrange c
  have hdr := hrange d
  unfold charUnits at h
  by_cases hc : c.toNat < 0x10000
  · by_cases hd : d.toNat < 0x10000
    · rw [if_pos hc, if_pos hd] at h
      obtain ⟨hcd, huv⟩ := List.cons.inj h
      exact ⟨Char.toNat_inj.mp hcd, huv⟩
    · rw [if_pos hc, if_neg hd] at h
      have hhead := (List.cons.inj h).1
      omega
  · by_cases hd : d.toNat < 0x10000
    · rw [if_neg hc, if_pos hd] at h
      have hhead := (List.cons.inj h).1
      omega
    · rw [if_neg hc, if_neg hd] at h
      obtain ⟨hhigh, htail⟩ := List.cons.inj h
      obtain ⟨hlow, huv⟩ := List.cons.inj htail
      have hcd : c.toNat = d.toNat := by omega
      exact ⟨Char.toNat_inj.mp hcd, huv⟩

theorem flatMap_charUnits_inj {a b : List Char} (h : a.flatMap charUnits = b.flatMap charUnits) :
    a = b := by
  induction a generalizing b with
  | nil =>
      cases b with
      | nil => rfl
      | cons d b => exact absurd (List.append_eq_nil_iff.mp h.symm).1 (charUnits_ne_nil d)
  | cons c a ih =>
      cases b with
      | nil => exact absurd (List.append_eq_nil_iff.mp h).1 (charUnits_ne_nil c)
      | cons d b =>
          rw [List.flatMap_cons, List.flatMap_cons] at h
          obtain ⟨rfl, hrest⟩ := charUnits_inj h
          rw [ih hrest]

/-- Texts with the same code units are the same. -/
theorem units_injective : Function.Injective units :=
  fun _ _ h => String.toList_inj.mp (flatMap_charUnits_inj h)

/-- `text.length`. -/
def length (text : String) : Nat := (units text).length

/-- What a pattern with the flag `i` compares: the upper case of a code unit, unless that
is no single one or turns a letter outside ASCII into one inside. -/
def canonicalize (rt : Runtime) (c : Char) : Char :=
  if 0x10000 ≤ c.toNat then c
  else
    match (rt.toUpperCase (String.singleton c)).toList with
    | [upper] => if 128 ≤ c.toNat ∧ upper.toNat < 128 then c else upper
    | _ => c

/-- `/part/i.test(text)` for a pattern that spells the part out. -/
def includesIgnoreCase (rt : Runtime) (text part : String) : Bool :=
  occursIn (part.toList.map (canonicalize rt)) (text.toList.map (canonicalize rt))

/-- The trimmed text starts and ends where `trim` stops. -/
theorem trim_trim (text : String) : trim (trim text) = trim text := by
  have htrim : ∀ s : String, (trim s).toList =
      (s.toList.dropWhile (· ∈ whiteSpace)).rdropWhile (· ∈ whiteSpace) := by
    intro s
    simp [trim, List.rdropWhile]
  apply String.toList_inj.mp
  rw [htrim (trim text), htrim text]
  generalize hstart : text.toList.dropWhile (· ∈ whiteSpace) = start
  have hself : (start.rdropWhile (· ∈ whiteSpace)).dropWhile (· ∈ whiteSpace) =
      start.rdropWhile (· ∈ whiteSpace) := by
    rw [List.dropWhile_eq_self_iff]
    intro hlength
    have hshorter := List.rdropWhile_prefix (· ∈ whiteSpace) start
    rw [hshorter.getElem hlength]
    have hdrop : start.dropWhile (· ∈ whiteSpace) = start := by
      rw [← hstart, List.dropWhile_idempotent]
    exact List.dropWhile_eq_self_iff.mp hdrop _
  rw [hself, List.rdropWhile_idempotent]

theorem occursIn_iff (part text : List Char) : occursIn part text = true ↔ part <:+: text := by
  induction text with
  | nil => simp [occursIn]
  | cons c rest ih =>
      rw [occursIn, Bool.or_eq_true, List.isPrefixOf_iff_prefix, ih, List.infix_cons_iff]

theorem includes_iff (text part : String) :
    includes text part = true ↔ part.toList <:+: text.toList :=
  occursIn_iff part.toList text.toList

theorem includes_append_left {a part : String} (h : includes a part = true) (b : String) :
    includes (a ++ b) part = true := by
  rw [includes_iff] at h ⊢
  rw [String.toList_append]
  exact h.trans (List.prefix_append _ _).isInfix

theorem includes_append_right {b part : String} (h : includes b part = true) (a : String) :
    includes (a ++ b) part = true := by
  rw [includes_iff] at h ⊢
  rw [String.toList_append]
  exact h.trans (List.suffix_append _ _).isInfix

theorem includes_self (text : String) : includes text text = true := by rw [includes_iff]

/-! ## Splitting -/

theorem split_append (separator : Char) (a b : String) :
    split (a ++ String.singleton separator ++ b) separator =
      split a separator ++ split b separator := by
  have hlist : (a ++ String.singleton separator ++ b).toList =
      a.toList ++ separator :: b.toList := by
    rw [String.toList_append, String.toList_append, List.append_assoc, String.toList_singleton]
    rfl
  rw [split, split, split, hlist, List.splitOn_append_cons_self, List.map_append]

theorem split_eq_singleton {separator : Char} {text : String} (h : separator ∉ text.toList) :
    split text separator = [text] := by
  rw [split, List.splitOn_eq_singleton h, List.map_singleton, String.ofList_toList]

/-- A text put together with separators splits into the pieces of its parts. -/
theorem split_intercalate {parts : List String} (hne : parts ≠ []) (separator : Char) :
    split ((String.singleton separator).intercalate parts) separator =
      parts.flatMap (fun part => split part separator) := by
  induction parts with
  | nil => exact absurd rfl hne
  | cons part rest ih =>
      cases rest with
      | nil => rw [String.intercalate_singleton, List.flatMap_singleton]
      | cons next rest =>
          rw [String.intercalate_cons_cons, split_append, ih (List.cons_ne_nil _ _)]
          rfl

/-! ## What a replacement does to a text in parts -/

theorem replaceFrom_skip (part replacement : List Char) (skip : Nat) (text : List Char) :
    replaceFrom part replacement skip text = replaceFrom part replacement 0 (text.drop skip) := by
  induction text generalizing skip with
  | nil => simp [replaceFrom]
  | cons c rest ih =>
      cases skip with
      | zero => rfl
      | succ skip => exact ih skip

/-- An occurrence of the part is replaced and passed over. -/
theorem replaceFrom_hit {part : List Char} (h : part ≠ []) (replacement rest : List Char) :
    replaceFrom part replacement 0 (part ++ rest) =
      replacement ++ replaceFrom part replacement 0 rest := by
  cases part with
  | nil => exact absurd rfl h
  | cons c part =>
      have hp : (c :: part).isPrefixOf (c :: part ++ rest) = true :=
        List.isPrefixOf_iff_prefix.mpr (List.prefix_append _ _)
      rw [List.cons_append] at hp ⊢
      rw [replaceFrom, if_pos hp, replaceFrom_skip]
      simp

/-- A character at which the part does not occur is copied. -/
theorem replaceFrom_miss {part : List Char} {c : Char} {rest : List Char}
    (h : ¬ part <+: c :: rest) (replacement : List Char) :
    replaceFrom part replacement 0 (c :: rest) = c :: replaceFrom part replacement 0 rest := by
  rw [replaceFrom, if_neg (fun hp => h (List.isPrefixOf_iff_prefix.mp hp))]

/-- A stretch of text in which no occurrence starts is copied. -/
theorem replaceFrom_copy {part copied rest : List Char}
    (h : ∀ u v, copied = u ++ v → v ≠ [] → ¬ part <+: v ++ rest) (replacement : List Char) :
    replaceFrom part replacement 0 (copied ++ rest) =
      copied ++ replaceFrom part replacement 0 rest := by
  induction copied with
  | nil => rfl
  | cons c copied ih =>
      have hmiss : ¬ part <+: c :: (copied ++ rest) := h [] (c :: copied) rfl (by simp)
      rw [List.cons_append, replaceFrom_miss hmiss,
        ih (fun u v he hv => h (c :: u) v (by rw [he]; rfl) hv), List.cons_append]

/-- So is a text without the first character of the part. -/
theorem replaceFrom_free {a : Char} {part copied : List Char} (h : a ∉ copied)
    (replacement rest : List Char) :
    replaceFrom (a :: part) replacement 0 (copied ++ rest) =
      copied ++ replaceFrom (a :: part) replacement 0 rest := by
  apply replaceFrom_copy
  rintro u v rfl hv ⟨t, ht⟩
  cases v with
  | nil => exact hv rfl
  | cons c v => exact h (by rw [(List.cons.inj ht).1]; simp)

/-- Replacing one character acts character by character. -/
theorem replaceFrom_char (a : Char) (replacement text : List Char) :
    replaceFrom [a] replacement 0 text =
      text.flatMap (fun c => if c = a then replacement else [c]) := by
  induction text with
  | nil => rfl
  | cons c rest ih =>
      by_cases h : c = a
      · subst h
        have hne : [c] ≠ [] := by simp
        have hhit := replaceFrom_hit hne replacement rest
        rw [List.singleton_append] at hhit
        rw [hhit, ih]
        simp
      · have hne : ¬ [a] <+: c :: rest := by
          intro hcase
          obtain ⟨t, ht⟩ := hcase
          exact h (List.cons.inj ht).1.symm
        rw [replaceFrom_miss hne, ih]
        simp [h]

end Text

/-- What `new RegExp(source)` makes, a pattern over code units. -/
structure SourceRegExp where
  pattern : RegExp
  deriving DecidableEq, Repr

/-- `pattern.test(text)`. -/
def SourceRegExp.test (r : SourceRegExp) (text : String) : Bool :=
  r.pattern.search [] (text.toList.flatMap Text.halves)

namespace RegExp

/-- The characters a pattern source must escape to mean themselves. -/
def syntaxCharacters : List Char :=
  ['^', '$', '\\', '.', '*', '+', '?', '(', ')', '[', ']', '{', '}', '|']

inductive Token where
  | atom (s : CharSet)
  | assert (k : Assertion)
  | star
  | opt
  deriving DecidableEq, Repr

def tokens : List Char → Except JsError (List Token)
  | [] => .ok []
  | '^' :: rest => return .assert .inputStart :: (← tokens rest)
  | '$' :: rest => return .assert .inputEnd :: (← tokens rest)
  | '.' :: rest => return .atom .dot :: (← tokens rest)
  | '*' :: rest => return .star :: (← tokens rest)
  | '?' :: rest => return .opt :: (← tokens rest)
  | '[' :: '^' :: c :: ']' :: rest => return .atom (.compl (.char c)) :: (← tokens rest)
  | '\\' :: c :: rest =>
      if c ∈ syntaxCharacters then return .atom (.char c) :: (← tokens rest)
      else .error .syntaxError
  | c :: rest =>
      if c ∈ syntaxCharacters then .error .syntaxError
      else return .atom (.char c) :: (← tokens rest)

/-- Attach each quantifier to the set before it. -/
def terms : List Token → Except JsError (List RegExp)
  | [] => .ok []
  | .assert k :: rest => return assert k :: (← terms rest)
  | .atom s :: .star :: .opt :: rest => return star s true :: (← terms rest)
  | .atom s :: .star :: rest => return star s false :: (← terms rest)
  | .atom s :: .opt :: .opt :: rest => return opt (set s) true :: (← terms rest)
  | .atom s :: .opt :: rest => return opt (set s) false :: (← terms rest)
  | .atom s :: rest => return set s :: (← terms rest)
  | .star :: _ => .error .syntaxError
  | .opt :: _ => .error .syntaxError

/-- `new RegExp(source)`. The source is read, and the pattern run, one code unit after another. -/
def ofSource (source : String) : Except JsError SourceRegExp := do
  return ⟨concat (← terms (← tokens (source.toList.flatMap Text.halves)))⟩

/-! ## Reading a source block by block -/

/-- The block reads as these tokens wherever it stands in front of a readable rest. -/
def Lexes (block : List Char) (toks : List Token) : Prop :=
  ∀ rest ts, tokens rest = .ok ts → tokens (block ++ rest) = .ok (toks ++ ts)

/-- The tokens do not open with a quantifier. -/
def Unquantified : List Token → Prop
  | .star :: _ => False
  | .opt :: _ => False
  | _ => True

/-- The block reads as these terms, and needs nothing of what precedes it. -/
def Reads (block : List Char) (rs : List RegExp) : Prop :=
  ∃ toks, Lexes block toks ∧ (∀ rest, Unquantified rest → Unquantified (toks ++ rest)) ∧
    ∀ rest ss, Unquantified rest → terms rest = .ok ss → terms (toks ++ rest) = .ok (rs ++ ss)

theorem tokens_char {c : Char} (h : c ∉ syntaxCharacters) {rest : List Char} {ts : List Token}
    (ht : tokens rest = .ok ts) : tokens (c :: rest) = .ok (.atom (.char c) :: ts) := by
  have hne := h
  simp only [syntaxCharacters, List.mem_cons, List.not_mem_nil, or_false, not_or] at hne
  rw [tokens]
  · rw [if_neg h, ht]
    rfl
  all_goals simp_all

theorem terms_set (s : CharSet) {rest : List Token} {ss : List RegExp} (hu : Unquantified rest)
    (ht : terms rest = .ok ss) : terms (.atom s :: rest) = .ok (set s :: ss) := by
  cases rest with
  | nil =>
      cases ht
      rfl
  | cons t rest =>
      cases t with
      | star => cases hu
      | opt => cases hu
      | atom t =>
          rw [terms, ht]
          · rfl
          all_goals simp
      | assert k =>
          rw [terms, ht]
          · rfl
          all_goals simp

theorem terms_star (s : CharSet) {rest : List Token} {ss : List RegExp} (hu : Unquantified rest)
    (ht : terms rest = .ok ss) :
    terms (.atom s :: .star :: rest) = .ok (star s false :: ss) := by
  rw [terms, ht]
  · rfl
  · rintro rest rfl
    cases hu

theorem reads_nil : Reads [] [] :=
  ⟨[], fun _ _ h => h, fun _ h => h, fun _ _ _ h => h⟩

theorem reads_append {a b : List Char} {rs ss : List RegExp} (ha : Reads a rs)
    (hb : Reads b ss) : Reads (a ++ b) (rs ++ ss) := by
  obtain ⟨as, hla, hua, hta⟩ := ha
  obtain ⟨bs, hlb, hub, htb⟩ := hb
  refine ⟨as ++ bs, ?_, ?_, ?_⟩
  · intro rest ts h
    rw [List.append_assoc, List.append_assoc]
    exact hla _ _ (hlb _ _ h)
  · intro rest h
    rw [List.append_assoc]
    exact hua _ (hub _ h)
  · intro rest ts hu h
    rw [List.append_assoc, List.append_assoc]
    exact hta _ _ (hub _ hu) (htb _ _ hu h)

theorem reads_flatMap {ι : Type} {text : ι → List Char} {rs : ι → List RegExp} {l : List ι}
    (h : ∀ i ∈ l, Reads (text i) (rs i)) : Reads (l.flatMap text) (l.flatMap rs) := by
  induction l with
  | nil => exact reads_nil
  | cons i l ih =>
      rw [List.flatMap_cons, List.flatMap_cons]
      exact reads_append (h i (by simp)) (ih (fun j hj => h j (by simp [hj])))

theorem reads_of_char {c : Char} (h : c ∉ syntaxCharacters) : Reads [c] [set (.char c)] :=
  ⟨[.atom (.char c)], fun _ _ ht => tokens_char h ht, fun _ _ => trivial,
    fun _ _ hu ht => terms_set _ hu ht⟩

theorem reads_of_escaped {c : Char} (h : c ∈ syntaxCharacters) :
    Reads ['\\', c] [set (.char c)] := by
  refine ⟨[.atom (.char c)], ?_, fun _ _ => trivial, fun _ _ hu ht => terms_set _ hu ht⟩
  intro rest ts ht
  change tokens ('\\' :: c :: rest) = _
  rw [tokens, if_pos h, ht]
  rfl

theorem reads_dot : Reads ['.'] [set .dot] := by
  refine ⟨[.atom .dot], ?_, fun _ _ => trivial, fun _ _ hu ht => terms_set _ hu ht⟩
  intro rest ts ht
  change tokens ('.' :: rest) = _
  rw [tokens, ht]
  rfl

theorem reads_dot_star : Reads ['.', '*'] [star .dot false] := by
  refine ⟨[.atom .dot, .star], ?_, fun _ _ => trivial, fun _ _ hu ht => terms_star _ hu ht⟩
  intro rest ts ht
  change tokens ('.' :: '*' :: rest) = _
  rw [tokens, tokens, ht]
  rfl

theorem reads_compl_star (c : Char) :
    Reads ['[', '^', c, ']', '*'] [star (.compl (.char c)) false] := by
  refine ⟨[.atom (.compl (.char c)), .star], ?_, fun _ _ => trivial,
    fun _ _ hu ht => terms_star _ hu ht⟩
  intro rest ts ht
  change tokens ('[' :: '^' :: c :: ']' :: '*' :: rest) = _
  rw [tokens, tokens, ht]
  rfl

/-- A readable block between anchors is a whole pattern. -/
theorem ofSource_anchored {block : String} {rs : List RegExp}
    (h : Reads (block.toList.flatMap Text.halves) rs) :
    ofSource ("^" ++ block ++ "$") = .ok ⟨anchored rs⟩ := by
  obtain ⟨toks, hlex, hun, hterms⟩ := h
  have hsource : ("^" ++ block ++ "$").toList.flatMap Text.halves =
      '^' :: (block.toList.flatMap Text.halves ++ ['$']) := by
    rw [String.toList_append, String.toList_append, List.flatMap_append, List.flatMap_append]
    rfl
  have hend : Unquantified [Token.assert .inputEnd] := trivial
  have htoks : tokens (block.toList.flatMap Text.halves ++ ['$']) =
      .ok (toks ++ [.assert .inputEnd]) := hlex ['$'] [.assert .inputEnd] rfl
  have hbody : terms (toks ++ [.assert .inputEnd]) = .ok (rs ++ [assert .inputEnd]) :=
    hterms [.assert .inputEnd] [assert .inputEnd] hend rfl
  have hall : terms (.assert .inputStart :: (toks ++ [.assert .inputEnd])) =
      .ok (assert .inputStart :: (rs ++ [assert .inputEnd])) := by
    rw [terms, hbody]
    rfl
  rw [ofSource, hsource, tokens, htoks]
  exact congrArg (fun x => x >>= fun ts => pure (SourceRegExp.mk (concat ts))) hall

end RegExp
end Admissorium.JavaScript
