import Admissorium.JavaScript.Text

/-!
# Barriers

A character that no set of a pattern admits, and that is not part of a word, cuts a text in
two: the pattern matches and replaces in each part as if it stood alone. So does a
character that does not occur in a phrase.
-/
namespace Admissorium.JavaScript
set_option autoImplicit false

namespace RegExp

/-- No set of the pattern admits the character, and it asks for no end of the input. -/
def shuns (d : Char) : RegExp → Bool
  | empty => true
  | set s => !s.member d
  | star s _ => !s.member d
  | opt r _ => shuns d r
  | seq a b => shuns d a && shuns d b
  | alt a b => shuns d a && shuns d b
  | assert .wordBoundary => true
  | assert _ => false

/-- The text opens with a character at which the pattern stops, if it is not empty. -/
def Outside (r : RegExp) (text : List Char) : Prop :=
  ∀ d ∈ text.head?, isWordChar d = false ∧ r.shuns d = true

theorem outside_nil (r : RegExp) : Outside r [] := fun _ h => nomatch h

theorem outside_cons {r : RegExp} {d : Char} (hw : isWordChar d = false) (hs : r.shuns d = true)
    (rest : List Char) : Outside r (d :: rest) := by
  intro e he
  obtain rfl := Option.some.inj he
  exact ⟨hw, hs⟩

/-- The cursor inside a longer text. -/
def pad (before after : List Char) (p : Cursor) : Cursor := ⟨p.before ++ before, p.after ++ after⟩

section Padded
variable {left right : List Char}

theorem Outside.mono {r s : RegExp} (h : Outside r left)
    (hrs : ∀ d, r.shuns d = true → s.shuns d = true) : Outside s left :=
  fun d hd => ⟨(h d hd).1, hrs d (h d hd).2⟩

theorem starEnds_pad {s : CharSet} {reluctant : Bool} (hr : Outside (star s reluctant) right)
    (before after : List Char) :
    starEnds s reluctant (before ++ left) (after ++ right) =
      (starEnds s reluctant before after).map (pad left right) := by
  induction after generalizing before with
  | nil =>
      cases right with
      | nil => rfl
      | cons d rest =>
          have hd : s.member d = false := by simpa [shuns] using (hr d rfl).2
          simp [starEnds, hd, pad]
  | cons c after ih =>
      rw [List.cons_append, starEnds, starEnds]
      by_cases hc : s.member c = true
      · have hnext := ih (c :: before)
        rw [List.cons_append] at hnext
        rw [if_pos hc, if_pos hc, hnext]
        cases reluctant <;> simp [pad]
      · rw [if_neg hc, if_neg hc]
        rfl

theorem any_head_append {before : List Char} {r : RegExp} (h : Outside r left) :
    (before ++ left).head?.any isWordChar = before.head?.any isWordChar := by
  cases before with
  | cons c before => rfl
  | nil =>
      cases left with
      | nil => rfl
      | cons d rest => exact (h d rfl).1

/-- A pattern stops at the same places inside a longer text. -/
theorem run_pad {r : RegExp} (hl : Outside r left) (hr : Outside r right) (p : Cursor) :
    r.run (pad left right p) = (r.run p).map (pad left right) := by
  induction r generalizing p with
  | empty => rfl
  | set s =>
      obtain ⟨before, after⟩ := p
      cases after with
      | nil =>
          cases right with
          | nil => rfl
          | cons d rest =>
              have hd : s.member d = false := by simpa [shuns] using (hr d rfl).2
              simp [run, pad, hd]
      | cons c after =>
          simp only [run, pad, List.cons_append]
          split <;> rfl
  | star s reluctant => exact starEnds_pad hr p.before p.after
  | opt r reluctant ih =>
      rw [run, run, ih (hl.mono fun _ h => h) (hr.mono fun _ h => h)]
      cases reluctant <;> simp
  | seq a b iha ihb =>
      have ha : ∀ d, (seq a b).shuns d = true → a.shuns d = true := fun d h =>
        (Bool.and_eq_true _ _ ▸ h : _ ∧ _).1
      have hb : ∀ d, (seq a b).shuns d = true → b.shuns d = true := fun d h =>
        (Bool.and_eq_true _ _ ▸ h : _ ∧ _).2
      rw [run, run, iha (hl.mono ha) (hr.mono ha), List.flatMap_map, List.map_flatMap]
      exact List.flatMap_congr fun q _ => ihb (hl.mono hb) (hr.mono hb) q
  | alt a b iha ihb =>
      have ha : ∀ d, (alt a b).shuns d = true → a.shuns d = true := fun d h =>
        (Bool.and_eq_true _ _ ▸ h : _ ∧ _).1
      have hb : ∀ d, (alt a b).shuns d = true → b.shuns d = true := fun d h =>
        (Bool.and_eq_true _ _ ▸ h : _ ∧ _).2
      rw [run, run, iha (hl.mono ha) (hr.mono ha), ihb (hl.mono hb) (hr.mono hb), List.map_append]
  | assert k =>
      have hholds : k.holds (pad left right p) = k.holds p := by
        cases k with
        | wordBoundary =>
            simp only [Assertion.holds, pad, any_head_append hl, any_head_append hr]
        | inputStart =>
            cases left with
            | nil => simp [Assertion.holds, pad]
            | cons d rest => cases (hl d rfl).2
        | inputEnd =>
            cases right with
            | nil => simp [Assertion.holds, pad]
            | cons d rest => cases (hr d rfl).2
      rw [run, run, hholds]
      split <;> rfl

theorem isEmpty_run_pad {r : RegExp} (hl : Outside r left) (hr : Outside r right) (p : Cursor) :
    (r.run (pad left right p)).isEmpty = (r.run p).isEmpty := by
  rw [run_pad hl hr, List.isEmpty_map]

theorem matchLength_pad {r : RegExp} (hl : Outside r left) (hr : Outside r right) (p : Cursor) :
    r.matchLength (pad left right p) = r.matchLength p := by
  rw [matchLength, matchLength, run_pad hl hr, List.head?_map, Option.map_map]
  congr 1
  funext stop
  simp only [Function.comp, pad, List.length_append]
  omega

theorem matchLength_le {r : RegExp} {p : Cursor} {n : Nat} (h : r.matchLength p = some n) :
    n ≤ p.after.length := by
  obtain ⟨stop, _, rfl⟩ := Option.map_eq_some_iff.mp h
  omega

theorem search_pad {r : RegExp} (hl : Outside r left) (before text : List Char) :
    r.search (before ++ left) text = r.search before text := by
  have hpad : ∀ before after, (r.run ⟨before ++ left, after⟩).isEmpty =
      (r.run ⟨before, after⟩).isEmpty := by
    intro before after
    have h := isEmpty_run_pad hl (outside_nil r) ⟨before, after⟩
    rw [pad, List.append_nil] at h
    exact h
  induction text generalizing before with
  | nil => rw [search, search, hpad]
  | cons c text ih =>
      have hnext := ih (c :: before)
      rw [List.cons_append] at hnext
      rw [search, search, hpad, hnext]

/-- A pattern that shuns a character is found on one side of it or on the other. -/
theorem search_barrier {r : RegExp} {d : Char} (hw : isWordChar d = false)
    (hs : r.shuns d = true) (before text rest : List Char) :
    r.search before (text ++ d :: rest) = (r.search before text || r.search [] rest) := by
  have hout := outside_cons hw hs
  have hpad : ∀ before after, (r.run ⟨before, after ++ d :: rest⟩).isEmpty =
      (r.run ⟨before, after⟩).isEmpty := by
    intro before after
    have h := isEmpty_run_pad (outside_nil r) (hout rest) ⟨before, after⟩
    rw [pad, List.append_nil] at h
    exact h
  induction text generalizing before with
  | nil =>
      have hrest := search_pad (hout before) [] rest
      rw [List.nil_append] at hrest
      have hhere := hpad before []
      rw [List.nil_append] at hhere
      rw [List.nil_append, search, search, hhere, hrest]
  | cons c text ih =>
      have hhere := hpad before (c :: text)
      rw [List.cons_append] at hhere
      rw [List.cons_append, search, search, hhere, ih, Bool.or_assoc]

theorem replaceFrom_pad {r : RegExp} (hl : Outside r left) (replacement : List Char) (skip : Nat)
    (before text : List Char) :
    replaceFrom r replacement skip (before ++ left) text =
      replaceFrom r replacement skip before text := by
  have hpad : ∀ before after, r.matchLength ⟨before ++ left, after⟩ =
      r.matchLength ⟨before, after⟩ := by
    intro before after
    have h := matchLength_pad hl (outside_nil r) ⟨before, after⟩
    rw [pad, List.append_nil] at h
    exact h
  induction text generalizing skip before with
  | nil =>
      cases skip with
      | zero => rw [replaceFrom, replaceFrom, hpad]
      | succ skip => rfl
  | cons c text ih =>
      have hnext := fun skip => ih skip (c :: before)
      simp only [List.cons_append] at hnext
      cases skip with
      | zero =>
          rw [replaceFrom, replaceFrom, hpad]
          split <;> rw [hnext]
      | succ skip => rw [replaceFrom, replaceFrom, hnext]

/-- A replacement leaves such a character where it is and works on both sides of it. -/
theorem replaceFrom_barrier {r : RegExp} {d : Char} (hw : isWordChar d = false)
    (hs : r.shuns d = true) (replacement : List Char) {skip : Nat} {text : List Char}
    (hskip : skip ≤ text.length) (before rest : List Char) :
    replaceFrom r replacement skip before (text ++ d :: rest) =
      replaceFrom r replacement skip before text ++ d :: replaceFrom r replacement 0 [] rest := by
  have hout := outside_cons hw hs
  have hpad : ∀ before after, r.matchLength ⟨before, after ++ d :: rest⟩ =
      r.matchLength ⟨before, after⟩ := by
    intro before after
    have h := matchLength_pad (outside_nil r) (hout rest) ⟨before, after⟩
    rw [pad, List.append_nil] at h
    exact h
  induction text generalizing skip before with
  | nil =>
      obtain rfl := Nat.le_zero.mp hskip
      have hrest := replaceFrom_pad (hout before) replacement 0 [] rest
      rw [List.nil_append] at hrest
      have hhere := hpad before []
      rw [List.nil_append] at hhere
      rw [List.nil_append, replaceFrom, replaceFrom, hhere, hrest]
      cases hmatch : r.matchLength ⟨before, []⟩ with
      | none => rfl
      | some n =>
          obtain rfl := Nat.le_zero.mp (matchLength_le hmatch)
          rfl
  | cons c text ih =>
      cases skip with
      | succ skip =>
          rw [List.cons_append, replaceFrom, replaceFrom, ih (Nat.le_of_succ_le_succ hskip)]
      | zero =>
          have hhere := hpad before (c :: text)
          rw [List.cons_append] at hhere
          rw [List.cons_append, replaceFrom, replaceFrom, hhere]
          cases hmatch : r.matchLength ⟨before, c :: text⟩ with
          | none => simp only [ih (Nat.zero_le _), List.cons_append]
          | some n =>
              cases n with
              | zero => simp only [ih (Nat.zero_le _), List.append_assoc, List.cons_append]
              | succ n =>
                  have hn := Nat.le_of_succ_le_succ (matchLength_le hmatch)
                  simp only [ih hn, List.append_assoc]

end Padded

variable {r : RegExp} {d : Char}

theorem test_barrier (hw : isWordChar d = false) (hs : r.shuns d = true) (a b : String) :
    r.test (a ++ String.singleton d ++ b) = (r.test a || r.test b) := by
  rw [test, test, test, String.toList_append, String.toList_append, List.append_assoc,
    String.toList_singleton]
  exact search_barrier hw hs [] a.toList b.toList

theorem replaceAll_barrier (hw : isWordChar d = false) (hs : r.shuns d = true)
    (replacement a b : String) :
    r.replaceAll replacement (a ++ String.singleton d ++ b) =
      r.replaceAll replacement a ++ String.singleton d ++ r.replaceAll replacement b := by
  rw [← String.toList_inj, replaceAll, replaceAll, replaceAll, String.toList_append,
    String.toList_append, String.toList_append, String.toList_append, List.append_assoc,
    String.toList_ofList, String.toList_ofList, String.toList_ofList, List.append_assoc,
    String.toList_singleton]
  exact replaceFrom_barrier hw hs replacement.toList (Nat.zero_le _) [] b.toList

end RegExp

namespace Text

theorem prefix_barrier {d : Char} {part : List Char} (h : d ∉ part) (text rest : List Char) :
    part <+: text ++ d :: rest ↔ part <+: text := by
  induction text generalizing part with
  | nil =>
      cases part with
      | nil => simp
      | cons c part =>
          have hne : c ≠ d := fun he => h (he ▸ List.mem_cons_self)
          simp [List.cons_prefix_cons, hne]
  | cons e text ih =>
      cases part with
      | nil => simp
      | cons c part =>
          rw [List.cons_append, List.cons_prefix_cons, List.cons_prefix_cons,
            ih (fun hm => h (List.mem_cons_of_mem _ hm))]

/-- A phrase without the character occurs on one side of it or on the other. -/
theorem infix_barrier {d : Char} {part : List Char} (h : d ∉ part) (text rest : List Char) :
    part <:+: text ++ d :: rest ↔ part <:+: text ∨ part <:+: rest := by
  have hnil : part <+: d :: rest ↔ part = [] := by
    simpa using prefix_barrier h [] rest
  induction text with
  | nil =>
      rw [List.nil_append, List.infix_cons_iff, hnil]
      simp
  | cons c text ih =>
      have hhere := prefix_barrier h (c :: text) rest
      rw [List.cons_append] at hhere
      rw [List.cons_append, List.infix_cons_iff, hhere, List.infix_cons_iff, or_assoc]
      exact or_congr_right ih

theorem includes_barrier {d : Char} {part : String} (h : d ∉ part.toList) (a b : String) :
    includes (a ++ String.singleton d ++ b) part = (includes a part || includes b part) := by
  rw [Bool.eq_iff_iff, Bool.or_eq_true, includes_iff, includes_iff, includes_iff,
    String.toList_append, String.toList_append, List.append_assoc, String.toList_singleton]
  exact infix_barrier h a.toList b.toList

end Text
end Admissorium.JavaScript
