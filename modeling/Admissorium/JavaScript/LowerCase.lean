import Admissorium.JavaScript.Json

/-!
# Lower case, character by character

`toLowerCase` maps every character by itself, but for the sigma at the end of a word, which
takes its final form. Written with one form of the letter, the lower case of a text is the
lower case of its characters.
-/
namespace Admissorium.JavaScript
set_option autoImplicit false

/-- What holds of the ASCII characters one by one. -/
theorem ascii_cases {P : Char → Prop} (h : ∀ c ∈ (List.range 128).map Char.ofNat, P c) {c : Char}
    (hc : c.toNat < 128) : P c :=
  h c (List.mem_map.mpr ⟨c.toNat, List.mem_range.mpr hc, Char.ofNat_toNat c⟩)

theorem toLower_of_not_ascii {c : Char} (h : ¬ c.toNat < 128) : c.toLower = c := by
  apply dif_neg
  intro hupper
  have hle : c.val.toNat ≤ 90 := UInt32.le_iff_toNat_le.mp hupper.2
  have hval : c.toNat = c.val.toNat := rfl
  omega

/-- The final sigma written as the other one. -/
def foldSigma (c : Char) : Char := if c = 'ς' then 'σ' else c

/-- Up to the form of a sigma, a text is lowered by lowering each character. Blanks have no
case, and nothing else becomes a space. -/
structure LowersChars (rt : Runtime) (lower : Char → List Char) : Prop where
  chars : ∀ text, (rt.toLowerCase text).toList.map foldSigma = text.toList.flatMap lower
  blank : ∀ c ∈ whiteSpace, lower c = [c]
  space : ∀ c, ' ' ∈ lower c → c = ' '

theorem foldSigma_of_ne {c : Char} (h : c ≠ 'ς') : foldSigma c = c := if_neg h

theorem isWordChar_foldSigma (c : Char) : isWordChar (foldSigma c) = isWordChar c := by
  by_cases h : c = 'ς'
  · subst h
    decide
  · rw [foldSigma_of_ne h]

/-- A character of ASCII that is in lower case already stays. -/
theorem LowersChars.fixed {rt : Runtime} {lower : Char → List Char} (h : LowersChars rt lower)
    {c : Char} (hascii : c.toNat < 128) (hlow : c.toLower = c) : lower c = [c] := by
  have hs : isAscii (String.singleton c) = true := by simpa [isAscii] using hascii
  have hsigma : c ≠ 'ς' := by
    rintro rfl
    exact absurd hascii (by decide)
  have hchars := h.chars (String.singleton c)
  rw [rt.lower_ascii _ hs, asciiLower, String.toList_ofList, String.toList_singleton,
    List.map_singleton, List.map_singleton, hlow, foldSigma_of_ne hsigma, List.flatMap_singleton]
    at hchars
  exact hchars.symm

theorem eq_space_of_toLower {c : Char} (h : c.toLower = ' ') : c = ' ' := by
  by_cases hc : c.toNat < 128
  · exact ascii_cases (P := fun c => c.toLower = ' ' → c = ' ') (by decide +kernel) hc h
  · rwa [toLower_of_not_ascii hc] at h

theorem lowersChars_ascii : LowersChars Runtime.ascii (fun c => [foldSigma c.toLower]) := by
  constructor
  · intro text
    change (asciiLower text).toList.map foldSigma = _
    rw [asciiLower, String.toList_ofList, List.map_map, List.map_eq_flatMap]
    rfl
  · decide
  · intro c hc
    have hlow : c.toLower = ' ' := by
      by_cases hsigma : c.toLower = 'ς'
      · rw [hsigma] at hc
        exact absurd hc (by decide)
      · rw [foldSigma_of_ne hsigma] at hc
        exact (List.mem_singleton.mp hc).symm
    exact eq_space_of_toLower hlow

end Admissorium.JavaScript
