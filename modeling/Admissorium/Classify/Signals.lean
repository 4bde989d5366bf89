import Admissorium.Classify.Classifiers
import Admissorium.Classify.Masking
import Admissorium.JavaScript.LowerCase

/-!
# Signals that masking leaves alone

A secret pattern and the phrase `contents_write` share no character with a denial: they
hold a pair of letters that no denial has, and no denial begins within them. So they are
found in the masked text exactly when they are found in the text (`lasting_mask_iff`).
-/
namespace Admissorium.Classify.Signals
set_option autoImplicit false

open JavaScript RegExp LanguageBoundary Masking

/-- The signals that need no single space. -/
def lasting (text : String) : Bool :=
  Text.includes text "contents_write" || hasSecretSignal text

/-! ## What cannot overlap a denial -/

/-- Adjacent letters, one pair of which is in every lasting signal and none in a denial. -/
def alienPairs : List (Char × Char) :=
  [('s', '_'), ('g', 'i'), ('p', 'r'), ('w', 'e'), ('p', 'a'), ('p', 'e')]

/-- The first letters of the denials. -/
def denialHeads : List Char := ['n', 'd', 'w']

theorem denials_alien : ∀ r ∈ denialPatterns,
    (∀ s ∈ (concat (bodyOf r)).heads, s ∈ denialHeads.map CharSet.char) ∧
    ∀ p ∈ (concat (bodyOf r)).follows, ∀ q ∈ alienPairs,
      ¬ (p.1.member q.1 = true ∧ p.2.member q.2 = true) := by decide +kernel

/-- The text begins with word characters that hold such a pair, and no word within it has
the first letter of a denial. -/
structure Alien (o : List Char) : Prop where
  start : ∃ z rest, o = z ++ rest ∧ (∀ c ∈ z, isWordChar c = true) ∧
    ∃ x y, ∃ q ∈ alienPairs, z = x ++ q.1 :: q.2 :: y
  within : ∀ x c d y, o = x ++ c :: d :: y → d ∈ denialHeads → isWordChar c = true

section Overlap

variable {r : RegExp} {before o after before' w after' : List Char}

/-- A denial's match, in terms of its words. -/
theorem denial_match (hr : r ∈ denialPatterns) (hmatch : Matches r before' w after') :
    w ∈ (concat (bodyOf r)).lang ∧ Bare before'.getLast? ∧ Bare after'.head? := by
  obtain ⟨heq, hworded⟩ := denials_isWorded r hr
  rw [heq] at hmatch
  exact (matches_isWorded_iff hworded).mp hmatch

theorem denial_ne_nil (hr : r ∈ denialPatterns) (hw : w ∈ (concat (bodyOf r)).lang) : w ≠ [] :=
  (foreign_of_lang (denials_isWorded r hr).2 hw).ne_nil

theorem denial_head {c : Char} (hr : r ∈ denialPatterns)
    (hw : c :: w ∈ (concat (bodyOf r)).lang) : c ∈ denialHeads := by
  obtain ⟨s, hs, hmem⟩ := exists_head hw
  obtain ⟨d, hd, rfl⟩ := List.mem_map.mp ((denials_alien r hr).1 s hs)
  obtain rfl : c = d := by simpa [CharSet.member] using hmem
  exact hd

/-- A denial that begins before the text does and runs into it would hold all of its start. -/
theorem not_covers (ho : Alien o) (hr : r ∈ denialPatterns) {t u : List Char}
    (hw : t ++ u ∈ (concat (bodyOf r)).lang) (hafter : Bare after'.head?)
    (htext : o ++ after = u ++ after') : False := by
  obtain ⟨z, rest, rfl, hz, x, y, q, hq, hpair⟩ := ho.start
  rw [List.append_assoc] at htext
  rcases List.append_eq_append_iff.mp htext with ⟨s, hs, _⟩ | ⟨s, hs, hrest⟩
  · rw [hs, hpair] at hw
    have hin : (t ++ x) ++ q.1 :: q.2 :: (y ++ s) ∈ (concat (bodyOf r)).lang := by
      simpa using hw
    obtain ⟨p, hp, hmem⟩ := exists_follow hin
    exact (denials_alien r hr).2 p hp q hq hmem
  · cases s with
    | nil =>
        rw [List.append_nil] at hs
        rw [← hs, hpair] at hw
        have hin : (t ++ x) ++ q.1 :: q.2 :: y ∈ (concat (bodyOf r)).lang := by simpa using hw
        obtain ⟨p, hp, hmem⟩ := exists_follow hin
        exact (denials_alien r hr).2 p hp q hq hmem
    | cons c s =>
        have hc : isWordChar c = true := hz c (by rw [hs]; simp)
        rw [hrest] at hafter
        exact not_bare rfl hc hafter

/-- A lasting signal shares no character with a denial. -/
theorem apart_of_alien (ho : Alien o) (hr : r ∈ denialPatterns)
    (hmatch : Matches r before' w after')
    (htext : before ++ o ++ after = before' ++ w ++ after') : Apart before o before' w := by
  obtain ⟨hw, hbefore, hafter⟩ := denial_match hr hmatch
  rw [List.append_assoc, List.append_assoc] at htext
  rcases List.append_eq_append_iff.mp htext with ⟨t, rfl, hrest⟩ | ⟨t, rfl, hrest⟩
  · rcases List.append_eq_append_iff.mp hrest with ⟨u, rfl, _⟩ | ⟨u, rfl, hover⟩
    · exact Or.inl (by simp)
    · cases u with
      | nil => exact Or.inl (by simp)
      | cons d u =>
          rcases List.eq_nil_or_concat t with rfl | ⟨t, c, rfl⟩
          · exact (not_covers ho hr (t := []) (u := w) hw hafter hrest).elim
          · obtain ⟨e, v, rfl⟩ := List.exists_cons_of_ne_nil (denial_ne_nil hr hw)
            obtain ⟨rfl, _⟩ := List.cons.inj hover
            rw [List.concat_eq_append] at hbefore ho
            have hc : isWordChar c = true := ho.within t c e u (by simp) (denial_head hr hw)
            exact absurd hbefore (not_bare (by simp) hc)
  · rcases List.append_eq_append_iff.mp hrest with ⟨u, rfl, _⟩ | ⟨u, rfl, hover⟩
    · exact Or.inr (by simp)
    · cases u with
      | nil => exact Or.inr (by simp)
      | cons d u => exact (not_covers ho hr hw hafter hover).elim

end Overlap

/-! ## What a signal is made of -/

/-- What the patterns for secrets begin with. -/
def secretStarts : List String := ["github", "private", "webhook", "pat", "personal"]

theorem secretStarts_alien : ∀ start ∈ secretStarts,
    (∀ c ∈ start.toList, isWordChar c = true) ∧
    ∃ q ∈ alienPairs, [q.1, q.2] <:+: start.toList := by decide +kernel

theorem secrets_isWorded : ∀ r ∈ secretPatterns,
    r = worded (bodyOf r) ∧ isWorded (bodyOf r) = true := by decide +kernel

theorem secrets_alien : ∀ r ∈ secretPatterns,
    (bodyOf r).head? ∈ secretStarts.map (some ∘ literal) ∧
    ∀ p ∈ (concat (bodyOf r)).follows, ∀ d ∈ denialHeads, p.2.member d = true →
      CharSet.alphanumeric p.1 = true := by decide +kernel

theorem alien_of_secret {r : RegExp} (hr : r ∈ secretPatterns) {w : List Char}
    (hw : w ∈ (concat (bodyOf r)).lang) : Alien w := by
  obtain ⟨hstart, hfollows⟩ := secrets_alien r hr
  constructor
  · obtain ⟨start, hmem, hhead⟩ := List.mem_map.mp hstart
    obtain ⟨rest, hbody⟩ := List.head?_eq_some_iff.mp hhead.symm
    rw [hbody, concat_cons] at hw
    obtain ⟨u, hu, v, _, rfl⟩ := hw
    obtain rfl := (mem_lang_chars _ _).mp hu
    obtain ⟨hword, q, hq, x, y, hpair⟩ := secretStarts_alien start hmem
    exact ⟨start.toList, v, rfl, hword, x, y, q, hq, by rw [← hpair]; simp⟩
  · intro x c d y hpair hd
    rw [hpair] at hw
    obtain ⟨p, hp, hc, hmem⟩ := exists_follow hw
    exact isWordChar_of_isAlphanum (CharSet.isAlphanum_of_member (hfollows p hp d hd hmem) hc)

theorem alien_contents_write : Alien "contents_write".toList := by
  have hword : ∀ c ∈ "contents_write".toList, isWordChar c = true := by decide
  constructor
  · exact ⟨_, [], (List.append_nil _).symm, hword, "content".toList, "write".toList,
      ('s', '_'), by decide, by decide⟩
  · intro x c d y hpair _
    exact hword c (by rw [hpair]; simp)

/-- A signal, with what is around it. -/
def Signal (before w after : List Char) : Prop :=
  w = "contents_write".toList ∨
    (∃ r ∈ secretPatterns, w ∈ (concat (bodyOf r)).lang) ∧
      Bare before.getLast? ∧ Bare after.head?

theorem hasSecretSignal_iff (text : String) :
    hasSecretSignal text = true ↔ ∃ before w after, text.toList = before ++ w ++ after ∧
      (∃ r ∈ secretPatterns, w ∈ (concat (bodyOf r)).lang) ∧
        Bare before.getLast? ∧ Bare after.head? := by
  rw [hasSecretSignal, List.any_eq_true]
  constructor
  · intro h
    obtain ⟨r, hr, htest⟩ := h
    obtain ⟨before, w, after, htext, hmatch⟩ := (test_iff r text).mp htest
    obtain ⟨heq, hworded⟩ := secrets_isWorded r hr
    rw [heq] at hmatch
    obtain ⟨hw, hbare⟩ := (matches_isWorded_iff hworded).mp hmatch
    exact ⟨before, w, after, htext, ⟨r, hr, hw⟩, hbare⟩
  · intro h
    obtain ⟨before, w, after, htext, ⟨r, hr, hw⟩, hbare⟩ := h
    obtain ⟨heq, hworded⟩ := secrets_isWorded r hr
    refine ⟨r, hr, (test_iff r text).mpr ⟨before, w, after, htext, ?_⟩⟩
    rw [heq]
    exact (matches_isWorded_iff hworded).mpr ⟨hw, hbare⟩

/-- The text holds such a signal. -/
def Lasts (text : List Char) : Prop :=
  ∃ before w after, text = before ++ w ++ after ∧ Signal before w after

theorem lasting_iff (text : String) : lasting text = true ↔ Lasts text.toList := by
  rw [lasting, Bool.or_eq_true, Text.includes_iff, hasSecretSignal_iff]
  constructor
  · intro h
    rcases h with ⟨before, after, htext⟩ | ⟨before, w, after, htext, hsecret⟩
    · exact ⟨before, _, after, htext.symm, Or.inl rfl⟩
    · exact ⟨before, w, after, htext, Or.inr hsecret⟩
  · intro h
    obtain ⟨before, w, after, htext, rfl | hsecret⟩ := h
    · exact Or.inl ⟨before, after, htext.symm⟩
    · exact Or.inr ⟨before, w, after, htext, hsecret⟩

/-! ## Signals in the masked text -/

theorem Signal.alien {before w after : List Char} (h : Signal before w after) : Alien w := by
  rcases h with rfl | ⟨⟨r, hr, hw⟩, _⟩
  · exact alien_contents_write
  · exact alien_of_secret hr hw

theorem Signal.foreign {before w after : List Char} (h : Signal before w after) : Foreign w := by
  rcases h with rfl | ⟨⟨r, hr, hw⟩, _⟩
  · exact foreign_phrase ["contents_write"] (by decide) _ (by simp)
  · exact foreign_of_lang (secrets_isWorded r hr).2 hw

/-- Around a marker there is no word either. -/
theorem bare_last_shown {pre : List Item} (h : Bare (original pre).getLast?) :
    Bare (shown pre).getLast? := by
  rcases List.eq_nil_or_concat pre with rfl | ⟨pre, x, rfl⟩
  · exact h
  · rw [List.concat_eq_append] at h ⊢
    rw [shown_append]
    rw [original_append] at h
    cases x with
    | char c => simpa [original, shown] using h
    | mask w =>
        have hmarker : marker.getLast? = some ' ' := by decide
        rw [shown, shown, List.append_nil, List.getLast?_append, hmarker]
        rfl

theorem bare_head_shown {post : List Item} (h : Bare (original post).head?) :
    Bare (shown post).head? := by
  cases post with
  | nil => exact h
  | cons x post =>
      cases x with
      | char c => exact h
      | mask w =>
          have hmarker : marker.head? = some ' ' := by decide
          rw [shown, List.head?_append, hmarker]
          rfl

/-- Masking changes no signal. -/
theorem lasting_mask_iff (text : String) :
    lasting (maskSafeBoundaryDenials text) = true ↔ lasting text = true := by
  have hmem : ∀ r ∈ denialPatterns, r ∈ denialPatterns := fun _ hr => hr
  rw [lasting_iff, lasting_iff]
  constructor
  · intro h
    obtain ⟨before, w, after, hmasked, hsignal⟩ := h
    obtain ⟨items, horiginal, hshown, hsound⟩ := exists_items hmem text
    obtain ⟨pre, post, rfl, rfl, rfl⟩ := infix_shown hsignal.foreign (hshown.trans hmasked)
    rw [original_append, original_append, original_chars] at horiginal
    refine ⟨original pre, w, original post, horiginal.symm, ?_⟩
    rcases hsignal with rfl | ⟨⟨r, hr, hw⟩, hbare⟩
    · exact Or.inl rfl
    · have hworded := (secrets_isWorded r hr).2
      have hmatch := (matches_isWorded_iff hworded).mpr ⟨hw, hbare⟩
      have hthere := matches_original hworded (List.append_assoc _ _ _ ▸ hsound) hmatch
      exact Or.inr ⟨⟨r, hr, hw⟩, ((matches_isWorded_iff hworded).mp hthere).2⟩
  · intro h
    obtain ⟨before, w, after, htext, hsignal⟩ := h
    have hfree : Free text.toList before w := by
      intro r hr before' w' after' htext' hmatch
      exact apart_of_alien hsignal.alien hr hmatch (htext.symm.trans htext')
    obtain ⟨pre, post, rfl, rfl, hkept⟩ := exists_kept hmem text hsignal.foreign.ne_nil htext hfree
    refine ⟨shown pre, w, shown post, hkept, ?_⟩
    rcases hsignal with rfl | ⟨hsecret, hbefore, hafter⟩
    · exact Or.inl rfl
    · exact Or.inr ⟨hsecret, bare_last_shown hbefore, bare_head_shown hafter⟩

/-! ## Signals in parts of a text -/

/-- Characters of no signal: the one that begins an escape, and the small sigmas. -/
def strangers : List Char := ['\\', 'ς', 'σ']

theorem secrets_shun : ∀ r ∈ secretPatterns,
    (∀ c ∈ strangers, (concat (bodyOf r)).shuns c = true) ∧
    ∀ s ∈ (concat (bodyOf r)).heads, s.member 'n' = false := by decide +kernel

section Moved

variable {before w after before' after' : List Char}

theorem not_mem_signal (h : Signal before w after) {c : Char} (hc : c ∈ strangers) : c ∉ w := by
  rcases h with rfl | ⟨⟨r, hr, hw⟩, _⟩
  · revert c
    decide
  · exact not_mem_of_shuns ((secrets_shun r hr).1 c hc) hw

/-- No signal begins with the letter that ends the escape of a line break. -/
theorem head_signal (h : Signal before w after) : w.head? ≠ some 'n' := by
  rcases h with rfl | ⟨⟨r, hr, hw⟩, _⟩
  · decide
  · intro hhead
    obtain ⟨v, rfl⟩ := List.head?_eq_some_iff.mp hhead
    obtain ⟨s, hs, hmem⟩ := exists_head hw
    rw [(secrets_shun r hr).2 s hs] at hmem
    cases hmem

theorem Signal.move (h : Signal before w after)
    (hbefore : Bare before.getLast? → Bare before'.getLast?)
    (hafter : Bare after.head? → Bare after'.head?) : Signal before' w after' := by
  rcases h with rfl | ⟨hsecret, hb, ha⟩
  · exact Or.inl rfl
  · exact Or.inr ⟨hsecret, hbefore hb, hafter ha⟩

theorem bare_last_of_append {x y : List Char} (h : Bare (x ++ y).getLast?) :
    Bare y.getLast? := by
  rcases List.eq_nil_or_concat y with rfl | ⟨y, c, rfl⟩
  · rfl
  · simpa using h

theorem bare_head_of_append {x y : List Char} (h : Bare (x ++ y).head?) : Bare x.head? := by
  cases x with
  | nil => rfl
  | cons c x => exact h

theorem bare_head_append {x y : List Char} (h : Bare x.head?) (hy : Bare y.head?) :
    Bare (x ++ y).head? := by
  cases x with
  | nil => exact hy
  | cons c x => exact h

theorem lasts_append {text rest : List Char} (h : Lasts text) (hrest : Bare rest.head?) :
    Lasts (text ++ rest) := by
  obtain ⟨before, w, after, rfl, hsignal⟩ := h
  refine ⟨before, w, after ++ rest, by simp, ?_⟩
  exact hsignal.move id (fun hafter => bare_head_append hafter hrest)

/-- A signal lies on one side of a backslash. -/
theorem lasts_backslash {a b : List Char} (h : Lasts (a ++ '\\' :: b)) : Lasts a ∨ Lasts b := by
  obtain ⟨before, w, after, htext, hsignal⟩ := h
  have hslash : '\\' ∈ strangers := by decide
  rcases List.append_eq_append_iff.mp htext with ⟨t, ht, hrest⟩ | ⟨t, rfl, hrest⟩
  · cases t with
    | nil =>
        rw [List.append_nil] at ht
        exact Or.inl ⟨before, w, [], by rw [← ht, List.append_nil],
          hsignal.move id (fun _ => rfl)⟩
    | cons c t =>
        obtain ⟨rfl, rfl⟩ := List.cons.inj hrest
        rcases List.append_eq_append_iff.mp ht with ⟨m, rfl, rfl⟩ | ⟨m, rfl, hm⟩
        · exact absurd (by simp) (not_mem_signal hsignal hslash)
        · cases m with
          | nil =>
              obtain rfl : w = '\\' :: t := hm.symm
              exact absurd (by simp) (not_mem_signal hsignal hslash)
          | cons d m =>
              obtain ⟨rfl, rfl⟩ := List.cons.inj hm
              refine Or.inr ⟨m, w, after, rfl, hsignal.move (fun hbefore => ?_) id⟩
              rw [List.append_cons] at hbefore
              exact bare_last_of_append hbefore
  · refine Or.inl ⟨before, w, t, rfl, ?_⟩
    exact hsignal.move id (fun hafter => bare_head_of_append (hrest ▸ hafter))

/-- What is found after a line break needs nothing of it. -/
theorem lasts_break {piece : List Char} (h : Lasts ('n' :: piece)) (x : List Char) :
    Lasts (x ++ piece) := by
  obtain ⟨before, w, after, htext, hsignal⟩ := h
  cases before with
  | nil =>
      obtain ⟨c, w, rfl⟩ := List.exists_cons_of_ne_nil hsignal.foreign.ne_nil
      obtain ⟨rfl, _⟩ := List.cons.inj htext
      exact absurd rfl (head_signal hsignal)
  | cons c before =>
      obtain ⟨rfl, rfl⟩ := List.cons.inj htext
      refine ⟨x ++ before, w, after, by simp, hsignal.move (fun hbefore => ?_) id⟩
      rcases List.eq_nil_or_concat before with rfl | ⟨before, c, rfl⟩
      · exact absurd hbefore (not_bare rfl (by decide))
      · rw [List.concat_eq_append, ← List.cons_append, List.getLast?_concat] at hbefore
        rwa [List.concat_eq_append, ← List.append_assoc, List.getLast?_concat]

theorem bare_map_foldSigma (c : Option Char) : Bare (c.map foldSigma) ↔ Bare c := by
  cases c with
  | none => exact Iff.rfl
  | some c => rw [Bare, Bare, Option.map_some, Option.any_some, Option.any_some,
      isWordChar_foldSigma]

/-- Signals do not depend on the form of a sigma. -/
theorem lasts_map_foldSigma (text : List Char) : Lasts (text.map foldSigma) ↔ Lasts text := by
  have hlast : ∀ x : List Char, Bare (x.map foldSigma).getLast? ↔ Bare x.getLast? := by
    intro x
    rw [List.getLast?_map]
    exact bare_map_foldSigma _
  have hhead : ∀ x : List Char, Bare (x.map foldSigma).head? ↔ Bare x.head? := by
    intro x
    rw [List.head?_map]
    exact bare_map_foldSigma _
  constructor
  · intro h
    obtain ⟨before, w, after, htext, hsignal⟩ := h
    obtain ⟨front, back, rfl, hfront, rfl⟩ := List.map_eq_append_iff.mp htext
    obtain ⟨before, v, rfl, rfl, rfl⟩ := List.map_eq_append_iff.mp hfront
    have hsame : v.map foldSigma = v := by
      refine (List.map_congr_left (fun c hc => ?_)).trans (List.map_id v)
      apply foldSigma_of_ne
      rintro rfl
      have hfolded : 'σ' ∈ v.map foldSigma := List.mem_map.mpr ⟨'ς', hc, rfl⟩
      exact not_mem_signal hsignal (by decide) hfolded
    rw [hsame] at hsignal
    exact ⟨before, v, back, rfl, hsignal.move (hlast _).mp (hhead _).mp⟩
  · intro h
    obtain ⟨before, w, after, rfl, hsignal⟩ := h
    have hsame : w.map foldSigma = w := by
      refine (List.map_congr_left (fun c hc => ?_)).trans (List.map_id w)
      apply foldSigma_of_ne
      rintro rfl
      exact not_mem_signal hsignal (by decide) hc
    refine ⟨before.map foldSigma, w, after.map foldSigma, by simp [hsame], ?_⟩
    exact hsignal.move (hlast _).mpr (hhead _).mpr

end Moved

end Admissorium.Classify.Signals
