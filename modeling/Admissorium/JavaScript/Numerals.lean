import Admissorium.JavaScript.Values

/-!
# Texts of numbers

Rendering a number belongs to the host. What the program relies on is that distinct
numbers have distinct texts over a few characters; `Runtime.counting` is a runtime that is
known to be so.
-/
namespace Admissorium.JavaScript
set_option autoImplicit false

def numberCharacters : List Char :=
  ['0', '1', '2', '3', '4', '5', '6', '7', '8', '9', '.', '+', '-', 'e']

/-- What is known of `String(number)`: digits, a point, signs and an exponent, and
another text for every number. -/
structure NumberTexts (rt : Runtime) : Prop where
  injective : Function.Injective rt.numberToString
  nonempty : ∀ q, (rt.numberToString q).toList ≠ []
  characters : ∀ q, ∀ c ∈ (rt.numberToString q).toList, c ∈ numberCharacters

/-- Two words over some characters, each followed by none of these, are the same word. -/
theorem append_inj_of_delimited {p : Char → Prop} {s t u v : List Char} (hs : ∀ c ∈ s, p c)
    (ht : ∀ c ∈ t, p c) (hu : ∀ c ∈ u.head?, ¬ p c) (hv : ∀ c ∈ v.head?, ¬ p c)
    (h : s ++ u = t ++ v) : s = t ∧ u = v := by
  induction s generalizing t with
  | nil =>
      cases t with
      | nil => exact ⟨rfl, h⟩
      | cons d t =>
          change u = d :: (t ++ v) at h
          exact absurd (ht d (by simp)) (hu d (by rw [h]; rfl))
  | cons c s ih =>
      cases t with
      | nil =>
          change c :: (s ++ u) = v at h
          exact absurd (hs c (by simp)) (hv c (by rw [← h]; rfl))
      | cons d t =>
          obtain ⟨rfl, hrest⟩ := List.cons.inj h
          obtain ⟨rfl, huv⟩ := ih (fun e he => hs e (List.mem_cons_of_mem _ he))
            (fun e he => ht e (List.mem_cons_of_mem _ he)) hrest
          exact ⟨rfl, huv⟩

/-! ## A runtime with exact numbers -/

/-- The numerator in decimal, and after an `e` any denominator but one. -/
def fractionText (q : Number) : String :=
  toString q.num ++ (if q.den = 1 then "" else "e" ++ toString q.den)

/-- Whole numbers print as they do in the language, and all other ones apart from them. -/
def Runtime.counting : Runtime := { Runtime.ascii with numberToString := fractionText }

theorem natText_injective {m n : Nat} (h : (toString m).toList = (toString n).toList) : m = n := by
  have hread := congrArg (fun l => Nat.ofDigitChars 10 l 0) h
  simpa [Nat.toString_eq_repr, Nat.toList_repr, Nat.ofDigitChars_ten_toDigits] using hread

theorem natText_digits (n : Nat) : ∀ c ∈ (toString n).toList, c.isDigit = true := by
  intro c hc
  rw [Nat.toString_eq_repr, Nat.toList_repr] at hc
  exact Nat.isDigit_of_mem_toDigits (by decide) (by decide) hc

theorem intText_cases (a : Int) : (0 ≤ a ∧ (toString a).toList = (toString a.toNat).toList) ∨
    (a < 0 ∧ (toString a).toList = '-' :: (toString (-a).toNat).toList) := by
  rw [Int.toString_eq_repr, Int.repr_eq_if, Nat.toString_eq_repr, Nat.toString_eq_repr]
  by_cases h : 0 ≤ a
  · rw [if_pos h]
    exact Or.inl ⟨h, rfl⟩
  · rw [if_neg h, String.toList_append]
    exact Or.inr ⟨by omega, rfl⟩

theorem intText_injective {a b : Int} (h : (toString a).toList = (toString b).toList) : a = b := by
  have hdash : ∀ n m : Nat, (toString n).toList ≠ '-' :: (toString m).toList := by
    intro n m hn
    have hdigit := natText_digits n '-' (by rw [hn]; simp)
    exact absurd hdigit (by decide)
  rcases intText_cases a with ⟨ha, hta⟩ | ⟨ha, hta⟩ <;>
    rcases intText_cases b with ⟨hb, htb⟩ | ⟨hb, htb⟩ <;> rw [hta, htb] at h
  · have habs := natText_injective h
    omega
  · exact absurd h (hdash _ _)
  · exact absurd h.symm (hdash _ _)
  · have habs := natText_injective (List.cons.inj h).2
    omega

theorem intText_characters (a : Int) :
    ∀ c ∈ (toString a).toList, c.isDigit = true ∨ c = '-' := by
  intro c hc
  rcases intText_cases a with ⟨_, ha⟩ | ⟨_, ha⟩
  · rw [ha] at hc
    exact Or.inl (natText_digits _ c hc)
  · rw [ha] at hc
    rcases List.mem_cons.mp hc with rfl | hc
    · exact Or.inr rfl
    · exact Or.inl (natText_digits _ c hc)

theorem toList_fractionText (q : Number) : (fractionText q).toList =
    (toString q.num).toList ++ (if q.den = 1 then [] else 'e' :: (toString q.den).toList) := by
  rw [fractionText, String.toList_append]
  by_cases h : q.den = 1
  · rw [if_pos h, if_pos h]
    rfl
  · rw [if_neg h, if_neg h, String.toList_append]
    rfl

theorem fractionText_injective : Function.Injective fractionText := by
  intro p q h
  have htext := congrArg String.toList h
  rw [toList_fractionText, toList_fractionText] at htext
  have hstop : ∀ r : Number, ∀ c ∈ (if r.den = 1 then [] else
      'e' :: (toString r.den).toList).head?, ¬ (c.isDigit = true ∨ c = '-') := by
    intro r c hc
    by_cases hr : r.den = 1
    · rw [if_pos hr] at hc
      cases hc
    · rw [if_neg hr] at hc
      obtain rfl := Option.some.inj hc
      decide
  obtain ⟨hnum, hden⟩ := append_inj_of_delimited (intText_characters p.num)
    (intText_characters q.num) (hstop p) (hstop q) htext
  have hnum := intText_injective hnum
  apply Rat.ext hnum
  by_cases hp : p.den = 1
  · by_cases hq : q.den = 1
    · rw [hp, hq]
    · rw [if_pos hp, if_neg hq] at hden
      cases hden
  · by_cases hq : q.den = 1
    · rw [if_neg hp, if_pos hq] at hden
      cases hden
    · rw [if_neg hp, if_neg hq] at hden
      exact natText_injective (List.cons.inj hden).2

theorem digit_mem {c : Char} (h : c.isDigit = true) : c ∈ numberCharacters := by
  have hdigits : ∀ n < 58, 48 ≤ n → Char.ofNat n ∈ numberCharacters := by decide
  rw [Char.isDigit, Bool.and_eq_true, decide_eq_true_eq, decide_eq_true_eq] at h
  rw [← Char.ofNat_toNat c]
  exact hdigits c.toNat (Nat.lt_succ_of_le h.2) h.1

theorem intText_number (a : Int) : ∀ c ∈ (toString a).toList, c ∈ numberCharacters := by
  intro c hc
  rcases intText_characters a c hc with hdigit | rfl
  · exact digit_mem hdigit
  · decide

theorem numberTexts_counting : NumberTexts Runtime.counting where
  injective := fractionText_injective
  nonempty q := by
    change (fractionText q).toList ≠ []
    rw [toList_fractionText]
    intro h
    have hnum := (List.append_eq_nil_iff.mp h).1
    rcases intText_cases q.num with ⟨_, ha⟩ | ⟨_, ha⟩
    · rw [ha, String.toList_eq_nil_iff, Nat.toString_eq_repr] at hnum
      exact Nat.repr_ne_empty hnum
    · rw [ha] at hnum
      cases hnum
  characters q c hc := by
    change c ∈ (fractionText q).toList at hc
    rw [toList_fractionText, List.mem_append] at hc
    rcases hc with hc | hc
    · exact intText_number q.num c hc
    · by_cases hq : q.den = 1
      · rw [if_pos hq] at hc
        cases hc
      · rw [if_neg hq] at hc
        rcases List.mem_cons.mp hc with rfl | hc
        · decide
        · exact digit_mem (natText_digits q.den c hc)

end Admissorium.JavaScript
