import Admissorium.JavaScript.Barriers

/-!
# What the words of a pattern look like

Whether a pattern can match nothing, and which sets the first, the last and two adjacent
characters of its words come from, is read off its syntax. A pattern between two word
boundaries whose words begin and end with word characters matches where the text has none
on either side (`matches_worded_iff`), and a test finds such a match (`test_iff`).
-/
namespace Admissorium.JavaScript
set_option autoImplicit false

namespace RegExp

/-- The pattern consumes `w` between `before` and `after`. -/
def Matches (r : RegExp) (before w after : List Char) : Prop :=
  (⟨w.reverse ++ before.reverse, after⟩ : Cursor) ∈ r.run ⟨before.reverse, w ++ after⟩

/-- No word of the pattern is empty. -/
def solid : RegExp → Bool
  | empty => false
  | set _ => true
  | star _ _ => false
  | opt _ _ => false
  | seq a b => solid a || solid b
  | alt a b => solid a && solid b
  | assert _ => false

/-- The sets the first character of a word comes from. -/
def heads : RegExp → List CharSet
  | empty => []
  | set s => [s]
  | star s _ => [s]
  | opt r _ => heads r
  | seq a b => heads a ++ (if solid a then [] else heads b)
  | alt a b => heads a ++ heads b
  | assert _ => []

/-- The sets the last one comes from. -/
def lasts : RegExp → List CharSet
  | empty => []
  | set s => [s]
  | star s _ => [s]
  | opt r _ => lasts r
  | seq a b => (if solid b then [] else lasts a) ++ lasts b
  | alt a b => lasts a ++ lasts b
  | assert _ => []

/-- The pairs of sets that two adjacent characters come from. -/
def follows : RegExp → List (CharSet × CharSet)
  | empty => []
  | set _ => []
  | star s _ => [(s, s)]
  | opt r _ => follows r
  | seq a b => follows a ++ follows b ++ (lasts a).product (heads b)
  | alt a b => follows a ++ follows b
  | assert _ => []

theorem ne_nil_of_solid {r : RegExp} (h : r.solid = true) {w : List Char} (hw : w ∈ r.lang) :
    w ≠ [] := by
  induction r generalizing w with
  | empty => cases h
  | set s =>
      obtain ⟨c, _, rfl⟩ := hw
      simp
  | star s reluctant => cases h
  | opt r reluctant _ => cases h
  | seq a b iha ihb =>
      obtain ⟨u, hu, v, hv, rfl⟩ := hw
      rcases Bool.or_eq_true _ _ ▸ h with ha | hb
      · exact List.append_ne_nil_of_left_ne_nil (iha ha hu) v
      · exact List.append_ne_nil_of_right_ne_nil u (ihb hb hv)
  | alt a b iha ihb =>
      obtain ⟨ha, hb⟩ := Bool.and_eq_true _ _ ▸ h
      rcases hw with hu | hv
      · exact iha ha hu
      · exact ihb hb hv
  | assert k => cases h

theorem exists_head {r : RegExp} {c : Char} {w : List Char} (hw : c :: w ∈ r.lang) :
    ∃ s ∈ r.heads, s.member c = true := by
  induction r generalizing c w with
  | empty => cases hw
  | set s =>
      obtain ⟨d, hd, he⟩ := hw
      obtain rfl := (List.cons.inj he).1
      exact ⟨s, List.mem_singleton_self s, hd⟩
  | star s reluctant => exact ⟨s, List.mem_singleton_self s, hw c List.mem_cons_self⟩
  | opt r reluctant ih =>
      rcases hw with hr | hnil
      · exact ih hr
      · cases hnil
  | seq a b iha ihb =>
      obtain ⟨u, hu, v, hv, he⟩ := hw
      cases u with
      | cons d u =>
          obtain rfl : d = c := (List.cons.inj he).1
          obtain ⟨s, hs, hmem⟩ := iha hu
          exact ⟨s, List.mem_append_left _ hs, hmem⟩
      | nil =>
          have hsolid : ¬ a.solid = true := fun h => ne_nil_of_solid h hu rfl
          obtain rfl : v = c :: w := he
          obtain ⟨s, hs, hmem⟩ := ihb hv
          exact ⟨s, List.mem_append_right _ (by rw [if_neg hsolid]; exact hs), hmem⟩
  | alt a b iha ihb =>
      rcases hw with hu | hv
      · obtain ⟨s, hs, hmem⟩ := iha hu
        exact ⟨s, List.mem_append_left _ hs, hmem⟩
      · obtain ⟨s, hs, hmem⟩ := ihb hv
        exact ⟨s, List.mem_append_right _ hs, hmem⟩
  | assert k => cases hw

theorem exists_last {r : RegExp} {c : Char} {w : List Char} (hw : w ++ [c] ∈ r.lang) :
    ∃ s ∈ r.lasts, s.member c = true := by
  induction r generalizing c w with
  | empty =>
      have hnil : w ++ [c] = [] := hw
      simp at hnil
  | set s =>
      obtain ⟨d, hd, he⟩ := hw
      obtain ⟨_, he⟩ := List.append_inj' (he.trans (List.nil_append [d]).symm) rfl
      obtain rfl := (List.cons.inj he).1
      exact ⟨s, List.mem_singleton_self s, hd⟩
  | star s reluctant => exact ⟨s, List.mem_singleton_self s, hw c (by simp)⟩
  | opt r reluctant ih =>
      rcases hw with hr | hnil
      · exact ih hr
      · have hnil : w ++ [c] = [] := hnil
        simp at hnil
  | seq a b iha ihb =>
      obtain ⟨u, hu, v, hv, he⟩ := hw
      have he : u ++ v = w ++ [c] := he
      rcases List.eq_nil_or_concat v with rfl | ⟨v, d, rfl⟩
      · have hsolid : ¬ b.solid = true := fun h => ne_nil_of_solid h hv rfl
        rw [List.append_nil] at he
        rw [he] at hu
        obtain ⟨s, hs, hmem⟩ := iha hu
        exact ⟨s, List.mem_append_left _ (by rw [if_neg hsolid]; exact hs), hmem⟩
      · rw [List.concat_eq_append] at hv he
        rw [← List.append_assoc] at he
        obtain ⟨_, he⟩ := List.append_inj' he rfl
        obtain rfl := (List.cons.inj he).1
        obtain ⟨s, hs, hmem⟩ := ihb hv
        exact ⟨s, List.mem_append_right _ hs, hmem⟩
  | alt a b iha ihb =>
      rcases hw with hu | hv
      · obtain ⟨s, hs, hmem⟩ := iha hu
        exact ⟨s, List.mem_append_left _ hs, hmem⟩
      · obtain ⟨s, hs, hmem⟩ := ihb hv
        exact ⟨s, List.mem_append_right _ hs, hmem⟩
  | assert k => cases hw

theorem exists_follow {r : RegExp} {c d : Char} {x y : List Char}
    (hw : x ++ c :: d :: y ∈ r.lang) :
    ∃ p ∈ r.follows, p.1.member c = true ∧ p.2.member d = true := by
  induction r generalizing x y with
  | empty =>
      have hnil : x ++ c :: d :: y = [] := hw
      simp at hnil
  | set s =>
      obtain ⟨e, _, he⟩ := hw
      have hlen := congrArg List.length he
      simp only [List.length_append, List.length_cons, List.length_nil] at hlen
      omega
  | star s reluctant =>
      exact ⟨(s, s), List.mem_singleton_self _, hw c (by simp), hw d (by simp)⟩
  | opt r reluctant ih =>
      rcases hw with hr | hnil
      · exact ih hr
      · have hnil : x ++ c :: d :: y = [] := hnil
        simp at hnil
  | seq a b iha ihb =>
      obtain ⟨u, hu, v, hv, he⟩ := hw
      have he : u ++ v = x ++ c :: d :: y := he
      rcases List.append_eq_append_iff.mp he with ⟨t, rfl, rfl⟩ | ⟨t, rfl, ht⟩
      · obtain ⟨p, hp, hmem⟩ := ihb hv
        exact ⟨p, List.mem_append_left _ (List.mem_append_right _ hp), hmem⟩
      · -- The pair may lie in the first part, across the two, or in the second.
        match t, ht with
        | [], ht =>
            obtain rfl : c :: d :: y = v := ht
            obtain ⟨p, hp, hmem⟩ := ihb (x := []) hv
            exact ⟨p, List.mem_append_left _ (List.mem_append_right _ hp), hmem⟩
        | [e], ht =>
            obtain ⟨rfl, rfl⟩ := List.cons.inj ht
            obtain ⟨s, hs, hc⟩ := exists_last hu
            obtain ⟨s', hs', hd⟩ := exists_head hv
            exact ⟨(s, s'), List.mem_append_right _ (List.pair_mem_product.mpr ⟨hs, hs'⟩), hc, hd⟩
        | e :: e' :: t, ht =>
            simp only [List.cons_append, List.cons.injEq] at ht
            obtain ⟨rfl, rfl, rfl⟩ := ht
            obtain ⟨p, hp, hmem⟩ := iha hu
            exact ⟨p, List.mem_append_left _ (List.mem_append_left _ hp), hmem⟩
  | alt a b iha ihb =>
      rcases hw with hu | hv
      · obtain ⟨p, hp, hmem⟩ := iha hu
        exact ⟨p, List.mem_append_left _ hp, hmem⟩
      · obtain ⟨p, hp, hmem⟩ := ihb hv
        exact ⟨p, List.mem_append_right _ hp, hmem⟩
  | assert k => cases hw

/-- What no set of the pattern admits is in none of its words. -/
theorem not_mem_of_shuns {r : RegExp} {d : Char} (h : r.shuns d = true) {w : List Char}
    (hw : w ∈ r.lang) : d ∉ w := by
  induction r generalizing w with
  | empty =>
      obtain rfl : w = [] := hw
      simp
  | set s =>
      obtain ⟨c, hc, rfl⟩ := hw
      intro hd
      obtain rfl := List.mem_singleton.mp hd
      rw [shuns, hc] at h
      cases h
  | star s reluctant =>
      intro hd
      rw [shuns, hw d hd] at h
      cases h
  | opt r reluctant ih =>
      rcases hw with hr | hnil
      · exact ih h hr
      · obtain rfl : w = [] := hnil
        simp
  | seq a b iha ihb =>
      obtain ⟨u, hu, v, hv, rfl⟩ := hw
      obtain ⟨ha, hb⟩ := Bool.and_eq_true _ _ ▸ h
      rw [List.mem_append, not_or]
      exact ⟨iha ha hu, ihb hb hv⟩
  | alt a b iha ihb =>
      obtain ⟨ha, hb⟩ := Bool.and_eq_true _ _ ▸ h
      rcases hw with hu | hv
      · exact iha ha hu
      · exact ihb hb hv
  | assert k => cases hw

/-! ## Between word boundaries -/

/-- The set admits one letter or digit. -/
def CharSet.alphanumeric : CharSet → Bool
  | .char c => c.isAlphanum
  | _ => false

theorem CharSet.isAlphanum_of_member {s : CharSet} (h : CharSet.alphanumeric s = true) {c : Char}
    (hc : s.member c = true) : c.isAlphanum = true := by
  cases s with
  | char d =>
      obtain rfl : c = d := by simpa [CharSet.member] using hc
      exact h
  | _ => cases h

/-- Every word of the pattern begins and ends with a letter or digit. -/
structure Framed (r : RegExp) : Prop where
  solid : r.solid = true
  heads : ∀ s ∈ r.heads, CharSet.alphanumeric s = true
  lasts : ∀ s ∈ r.lasts, CharSet.alphanumeric s = true

theorem Framed.exists_head {r : RegExp} (h : Framed r) {w : List Char} (hw : w ∈ r.lang) :
    ∃ c ∈ w.head?, c.isAlphanum = true := by
  obtain ⟨c, v, rfl⟩ := List.exists_cons_of_ne_nil (ne_nil_of_solid h.solid hw)
  obtain ⟨s, hs, hc⟩ := RegExp.exists_head hw
  exact ⟨c, rfl, CharSet.isAlphanum_of_member (h.heads s hs) hc⟩

theorem Framed.exists_last {r : RegExp} (h : Framed r) {w : List Char} (hw : w ∈ r.lang) :
    ∃ c ∈ w.getLast?, c.isAlphanum = true := by
  obtain hnil | ⟨v, c, rfl⟩ := List.eq_nil_or_concat w
  · exact absurd hnil (ne_nil_of_solid h.solid hw)
  · rw [List.concat_eq_append] at hw ⊢
    obtain ⟨s, hs, hc⟩ := RegExp.exists_last hw
    exact ⟨c, by simp, CharSet.isAlphanum_of_member (h.lasts s hs) hc⟩

theorem isWordChar_of_isAlphanum {c : Char} (h : c.isAlphanum = true) : isWordChar c = true := by
  rw [isWordChar, h, Bool.true_or]

/-- The text does not go on with a word character. -/
def Bare (text : Option Char) : Prop := text.any isWordChar = false

theorem not_bare {c : Char} {text : Option Char} (hc : c ∈ text) (hw : isWordChar c = true) :
    ¬ Bare text := by
  rw [Bare, hc, Option.any_some, hw]
  simp

theorem wordBoundary_holds_iff_left {before after : List Char}
    (h : after.head?.any isWordChar = true) :
    Assertion.wordBoundary.holds ⟨before, after⟩ = true ↔ Bare before.head? := by
  rw [Assertion.holds, h, Bare]
  cases before.head?.any isWordChar <;> simp

theorem wordBoundary_holds_iff_right {before after : List Char}
    (h : before.head?.any isWordChar = true) :
    Assertion.wordBoundary.holds ⟨before, after⟩ = true ↔ Bare after.head? := by
  rw [Assertion.holds, h, Bare]
  cases after.head?.any isWordChar <;> simp

theorem mem_run_wordBoundary (p q : Cursor) :
    q ∈ (concat [assert .wordBoundary]).run p ↔ q = p ∧ Assertion.wordBoundary.holds p = true := by
  cases h : Assertion.wordBoundary.holds p <;> simp [concat, run, h]

/-- Where `\b…\b` stops. -/
theorem mem_run_worded_iff {body : List RegExp} (hbody : body.all plain = true) (p q : Cursor) :
    q ∈ (concat (assert .wordBoundary :: (body ++ [assert .wordBoundary]))).run p ↔
      Assertion.wordBoundary.holds p = true ∧ Assertion.wordBoundary.holds q = true ∧
        ∃ w ∈ (concat body).lang, Consumes w p q := by
  have hplain : (concat body).plain = true := by rw [plain_concat]; exact hbody
  have hmiddle : (concat (body ++ [assert .wordBoundary])).run p =
      ((concat body).run p).flatMap (concat [assert .wordBoundary]).run := run_concat_append _ _ _
  have hrun : (concat (assert .wordBoundary :: (body ++ [assert .wordBoundary]))).run p =
      if Assertion.wordBoundary.holds p then
        ((concat body).run p).flatMap (concat [assert .wordBoundary]).run else [] := by
    rw [concat_cons, run, run, ← hmiddle]
    split <;> simp
  rw [hrun]
  by_cases hp : Assertion.wordBoundary.holds p = true
  · simp only [hp, if_true, true_and, List.mem_flatMap, mem_run_iff hplain, mem_run_wordBoundary]
    constructor
    · intro h
      obtain ⟨m, hm, rfl, hq⟩ := h
      exact ⟨hq, hm⟩
    · intro h
      exact ⟨q, h.2, rfl, h.1⟩
  · simp [hp]

theorem consumes_iff (before w after : List Char) (v : List Char) :
    Consumes v ⟨before.reverse, w ++ after⟩ ⟨w.reverse ++ before.reverse, after⟩ ↔ v = w := by
  constructor
  · intro h
    exact (List.append_cancel_right h.1).symm
  · rintro rfl
    exact ⟨rfl, rfl⟩

/-- What a pattern between word boundaries needs of what is around a match. -/
theorem matches_worded_iff {body : List RegExp} (hbody : body.all plain = true)
    (hframed : Framed (concat body)) (before w after : List Char) :
    Matches (concat (assert .wordBoundary :: (body ++ [assert .wordBoundary]))) before w after ↔
      w ∈ (concat body).lang ∧ Bare before.getLast? ∧ Bare after.head? := by
  have hends : w ∈ (concat body).lang → (w ++ after).head?.any isWordChar = true ∧
      (w.reverse ++ before.reverse).head?.any isWordChar = true := by
    intro hw
    obtain ⟨c, hc, hcw⟩ := hframed.exists_head hw
    obtain ⟨d, hd, hdw⟩ := hframed.exists_last hw
    constructor
    · rw [List.head?_append, hc]
      exact isWordChar_of_isAlphanum hcw
    · rw [List.head?_append, List.head?_reverse, hd]
      exact isWordChar_of_isAlphanum hdw
  rw [Matches, mem_run_worded_iff hbody]
  simp only [consumes_iff, exists_eq_right]
  constructor
  · intro h
    obtain ⟨hstart, hend, hw⟩ := h
    rw [wordBoundary_holds_iff_left (hends hw).1, List.head?_reverse] at hstart
    rw [wordBoundary_holds_iff_right (hends hw).2] at hend
    exact ⟨hw, hstart, hend⟩
  · intro h
    obtain ⟨hw, hstart, hend⟩ := h
    rw [wordBoundary_holds_iff_left (hends hw).1, List.head?_reverse,
      wordBoundary_holds_iff_right (hends hw).2]
    exact ⟨hstart, hend, hw⟩

/-! ## Stops, tests and matches -/

/-- A pattern stops after some stretch of the text. -/
theorem exists_consumes {r : RegExp} {p q : Cursor} (h : q ∈ r.run p) : ∃ w, Consumes w p q := by
  induction r generalizing p q with
  | empty => exact ⟨[], (consumes_nil p q).mpr (List.mem_singleton.mp h)⟩
  | set s =>
      obtain ⟨w, _, hw⟩ := (mem_run_iff (r := set s) rfl p q).mp h
      exact ⟨w, hw⟩
  | star s reluctant =>
      obtain ⟨w, _, hw⟩ := (mem_run_iff (r := star s reluctant) rfl p q).mp h
      exact ⟨w, hw⟩
  | opt r reluctant ih =>
      have hcase : q ∈ r.run p ∨ q = p := by
        cases reluctant <;> simpa [run, or_comm] using h
      rcases hcase with hr | rfl
      · exact ih hr
      · exact ⟨[], (consumes_nil q q).mpr rfl⟩
  | seq a b iha ihb =>
      obtain ⟨m, hm, hq⟩ := List.mem_flatMap.mp h
      obtain ⟨u, hu⟩ := iha hm
      obtain ⟨v, hv⟩ := ihb hq
      exact ⟨u ++ v, (consumes_append u v p q).mpr ⟨m, hu, hv⟩⟩
  | alt a b iha ihb =>
      rcases List.mem_append.mp h with ha | hb
      · exact iha ha
      · exact ihb hb
  | assert k =>
      unfold run at h
      split at h
      · exact ⟨[], (consumes_nil p q).mpr (List.mem_singleton.mp h)⟩
      · cases h

/-- Every place a pattern stops at is the end of a match. -/
theorem exists_matches {r : RegExp} {before after : List Char} {q : Cursor}
    (h : q ∈ r.run ⟨before.reverse, after⟩) :
    ∃ w, after = w ++ q.after ∧ q = ⟨w.reverse ++ before.reverse, q.after⟩ ∧
      Matches r before w q.after := by
  obtain ⟨w, hafter, hbefore⟩ := exists_consumes h
  have hq : q = ⟨w.reverse ++ before.reverse, q.after⟩ := by rw [← hbefore]
  refine ⟨w, hafter, hq, ?_⟩
  rw [Matches, ← hq, ← hafter]
  exact h

theorem search_iff (r : RegExp) (before after : List Char) :
    r.search before.reverse after = true ↔
      ∃ u v, after = u ++ v ∧ r.run ⟨(before ++ u).reverse, v⟩ ≠ [] := by
  induction after generalizing before with
  | nil =>
      rw [search, Bool.not_eq_true', List.isEmpty_eq_false_iff]
      constructor
      · intro h
        exact ⟨[], [], rfl, by simpa using h⟩
      · intro h
        obtain ⟨u, v, he, hrun⟩ := h
        obtain ⟨rfl, rfl⟩ := List.append_eq_nil_iff.mp he.symm
        simpa using hrun
  | cons c after ih =>
      have hrest := ih (before ++ [c])
      rw [List.reverse_append, List.reverse_singleton, List.singleton_append] at hrest
      rw [search, Bool.or_eq_true, Bool.not_eq_true', List.isEmpty_eq_false_iff, hrest]
      constructor
      · intro h
        rcases h with hnow | ⟨u, v, rfl, hrun⟩
        · exact ⟨[], c :: after, rfl, by simpa using hnow⟩
        · exact ⟨c :: u, v, rfl, by simpa using hrun⟩
      · intro h
        obtain ⟨u, v, he, hrun⟩ := h
        cases u with
        | nil =>
            obtain rfl : c :: after = v := he
            exact Or.inl (by simpa using hrun)
        | cons d u =>
            obtain ⟨rfl, rfl⟩ := List.cons.inj he
            exact Or.inr ⟨u, v, rfl, by simpa using hrun⟩

/-- A test finds a match. -/
theorem test_iff (r : RegExp) (text : String) :
    r.test text = true ↔
      ∃ before w after, text.toList = before ++ w ++ after ∧ Matches r before w after := by
  have hsearch := search_iff r [] text.toList
  rw [List.reverse_nil] at hsearch
  rw [test, hsearch]
  constructor
  · intro h
    obtain ⟨u, v, htext, hrun⟩ := h
    obtain ⟨q, hq⟩ := List.exists_mem_of_ne_nil _ hrun
    obtain ⟨w, hv, _, hmatch⟩ := exists_matches hq
    exact ⟨u, w, q.after, by rw [htext, hv, List.append_assoc], hmatch⟩
  · intro h
    obtain ⟨before, w, after, htext, hmatch⟩ := h
    exact ⟨before, w ++ after, by rw [htext, List.append_assoc], List.ne_nil_of_mem hmatch⟩

/-- The patterns that were written side by side. -/
def parts : RegExp → List RegExp
  | seq a b => a :: parts b
  | _ => []

/-! ## Replacing where matches are known -/

theorem replaceFrom_drop (r : RegExp) (replacement w before rest : List Char) :
    replaceFrom r replacement w.length before (w ++ rest) =
      replaceFrom r replacement 0 (w.reverse ++ before) rest := by
  induction w generalizing before with
  | nil => rfl
  | cons c w ih =>
      rw [List.length_cons, List.cons_append, replaceFrom, ih]
      simp

theorem replaceFrom_match {r : RegExp} {w before rest : List Char} (hw : w ≠ [])
    (h : r.matchLength ⟨before, w ++ rest⟩ = some w.length) (replacement : List Char) :
    replaceFrom r replacement 0 before (w ++ rest) =
      replacement ++ replaceFrom r replacement 0 (w.reverse ++ before) rest := by
  cases w with
  | nil => exact absurd rfl hw
  | cons c w =>
      rw [List.cons_append, List.length_cons] at h
      rw [List.cons_append, replaceFrom, h]
      have hdrop := replaceFrom_drop r replacement w (c :: before) rest
      simp only [hdrop]
      simp

theorem replaceFrom_miss {r : RegExp} {c : Char} {before rest : List Char}
    (h : r.run ⟨before, c :: rest⟩ = []) (replacement : List Char) :
    replaceFrom r replacement 0 before (c :: rest) =
      c :: replaceFrom r replacement 0 (c :: before) rest := by
  have hnone : r.matchLength ⟨before, c :: rest⟩ = none := by rw [matchLength, h]; rfl
  rw [replaceFrom, hnone]

/-- A stretch of text in which no match starts is copied. -/
theorem replaceFrom_copy {r : RegExp} {copied before rest : List Char}
    (h : ∀ u v, copied = u ++ v → v ≠ [] → r.run ⟨u.reverse ++ before, v ++ rest⟩ = [])
    (replacement : List Char) :
    replaceFrom r replacement 0 before (copied ++ rest) =
      copied ++ replaceFrom r replacement 0 (copied.reverse ++ before) rest := by
  induction copied generalizing before with
  | nil => rfl
  | cons c copied ih =>
      have hmiss : r.run ⟨before, c :: (copied ++ rest)⟩ = [] := h [] (c :: copied) rfl (by simp)
      have hrest : ∀ u v, copied = u ++ v → v ≠ [] →
          r.run ⟨u.reverse ++ c :: before, v ++ rest⟩ = [] := by
        intro u v he hv
        have hrun := h (c :: u) v (by rw [he]; rfl) hv
        simpa using hrun
      rw [List.cons_append, replaceFrom_miss hmiss, ih hrest]
      simp

end RegExp
end Admissorium.JavaScript
