import Admissorium.Classify.Signals
import Admissorium.JavaScript.LowerCase

/-!
# Wrapping the lines of a text

A space between two words may become any run of spaces, tabs and line breaks. JSON writes a
tab as `\t` and a line break as `\n`, so a phrase that holds a space is in no text whose
lines are broken at every such space, and the signals that are found there are found however
the lines are wrapped (`lasts_of_wraps`).
-/
namespace Admissorium.Classify.LineWraps
set_option autoImplicit false

open JavaScript RegExp LanguageBoundary Masking Signals

/-! ## Wrapped texts -/

def blanks : List Char := [' ', '\t', '\n']

/-- Between these neighbours a space stands alone between two words. -/
def isSingle (prev : Option Char) (rest : List Char) : Bool :=
  prev.any (· ∉ whiteSpace) && rest.head?.any (· ∉ whiteSpace)

/-- The second text has runs of blanks for some single spaces between words of the first,
which comes after `prev`. -/
inductive Wraps : Option Char → List Char → List Char → Prop
  | nil {prev : Option Char} : Wraps prev [] []
  | keep {prev : Option Char} {c : Char} {text wrapped : List Char} :
      Wraps (some c) text wrapped → Wraps prev (c :: text) (c :: wrapped)
  | wrap {prev : Option Char} {run text wrapped : List Char} :
      isSingle prev text = true → run ≠ [] → (∀ b ∈ run, b ∈ blanks) →
      Wraps (some ' ') text wrapped → Wraps prev (' ' :: text) (run ++ wrapped)

/-- A line break for every single space between words. -/
def breakLines : Option Char → List Char → List Char
  | _, [] => []
  | prev, c :: rest =>
      (if c = ' ' ∧ isSingle prev rest then '\n' else c) :: breakLines (some c) rest

theorem wraps_breakLines (prev : Option Char) (text : List Char) :
    Wraps prev text (breakLines prev text) := by
  induction text generalizing prev with
  | nil => exact Wraps.nil
  | cons c rest ih =>
      unfold breakLines
      split
      · rename_i hsingle
        obtain ⟨rfl, hsingle⟩ := hsingle
        exact Wraps.wrap hsingle (List.cons_ne_nil '\n' []) (by decide) (ih _)
      · exact Wraps.keep (ih _)

/-- A wrapped text in the pieces between the runs of blanks it was given. -/
theorem exists_pieces {prev : Option Char} {text wrapped : List Char}
    (h : Wraps prev text wrapped) :
    ∃ (first : List Char) (pieces : List (List Char × List Char)),
      (∀ p ∈ pieces, p.1 ≠ [] ∧ ∀ b ∈ p.1, b ∈ blanks) ∧
      breakLines prev text = first ++ pieces.flatMap (fun p => '\n' :: p.2) ∧
      wrapped = first ++ pieces.flatMap (fun p => p.1 ++ p.2) := by
  induction h with
  | nil => exact ⟨[], [], by simp, rfl, rfl⟩
  | @keep prev c text wrapped _ ih =>
      obtain ⟨first, pieces, hruns, hbroken, rfl⟩ := ih
      rw [breakLines, hbroken]
      split
      · rename_i hsingle
        obtain ⟨rfl, _⟩ := hsingle
        refine ⟨[], ([' '], first) :: pieces, ?_, by simp, by simp⟩
        have hspace : ∀ b ∈ [' '], b ∈ blanks := by decide
        exact List.forall_mem_cons.mpr ⟨⟨by simp, hspace⟩, hruns⟩
      · exact ⟨c :: first, pieces, hruns, rfl, rfl⟩
  | @wrap prev run text wrapped hsingle hrun hblank _ ih =>
      obtain ⟨first, pieces, hruns, hbroken, rfl⟩ := ih
      rw [breakLines, hbroken, if_pos ⟨rfl, hsingle⟩]
      refine ⟨[], (run, first) :: pieces, ?_, by simp, by simp⟩
      exact List.forall_mem_cons.mpr ⟨⟨hrun, hblank⟩, hruns⟩

theorem blank_line_break : ∀ c ∈ some '\n', c ∈ whiteSpace := by
  rintro c ⟨⟩
  decide

theorem head_breakLines {prev : Option Char} {text : List Char}
    (h : ∀ c ∈ text.head?, c ∈ whiteSpace) :
    ∀ c ∈ (breakLines prev text).head?, c ∈ whiteSpace := by
  cases text with
  | nil => exact h
  | cons d rest =>
      unfold breakLines
      split
      · exact blank_line_break
      · exact h

/-- A space that is left is at an end of the text or beside another blank. -/
theorem space_breakLines {prev : Option Char} {text x y : List Char}
    (h : breakLines prev text = x ++ ' ' :: y) :
    (∀ c ∈ x.getLast?.or prev, c ∈ whiteSpace) ∨ ∀ c ∈ y.head?, c ∈ whiteSpace := by
  induction text generalizing prev x with
  | nil => simp [breakLines] at h
  | cons d rest ih =>
      unfold breakLines at h
      cases x with
      | nil =>
          obtain ⟨hd, rfl⟩ := List.cons.inj h
          split at hd
          · cases hd
          · rename_i hsingle
            subst hd
            simp only [true_and, isSingle, Bool.and_eq_true, not_and_or, Bool.not_eq_true] at hsingle
            rcases hsingle with hprev | hrest
            · refine Or.inl (fun c hc => ?_)
              obtain rfl : prev = some c := by simpa using hc
              simpa using hprev
            · refine Or.inr (head_breakLines (fun c hc => ?_))
              rw [hc] at hrest
              simpa using hrest
      | cons e x =>
          obtain ⟨rfl, hrest⟩ := List.cons.inj h
          rcases ih hrest with hlast | hhead
          · apply Or.inl
            rcases List.eq_nil_or_concat x with rfl | ⟨x, f, rfl⟩
            · split
              · exact blank_line_break
              · exact hlast
            · rw [List.concat_eq_append] at hlast ⊢
              rw [← List.cons_append, List.getLast?_concat]
              rwa [List.getLast?_concat] at hlast
          · exact Or.inr hhead

/-! ## The literal in lower case -/

/-- What becomes of a text in JSON and in lower case. -/
def lowered (lower : Char → List Char) (text : List Char) : List Char :=
  text.flatMap (fun c => (Json.escapeChar c).flatMap lower)

theorem lowered_append (lower : Char → List Char) (a b : List Char) :
    lowered lower (a ++ b) = lowered lower a ++ lowered lower b := List.flatMap_append

/-- The escapes that JSON has for blanks. -/
def blankEscapes : List (List Char) :=
  [['\\', 't'], ['\\', 'n'], ['\\', 'f'], ['\\', 'r'], "\\u000b".toList]

theorem escapeChar_blank : ∀ c ∈ whiteSpace,
    Json.escapeChar c = [c] ∨ Json.escapeChar c ∈ blankEscapes := by decide

/-- The two characters before a space and the one after it, one such three in every phrase
that holds a space: none ends or begins what a blank becomes. -/
structure Bridge (a b d : Char) : Prop where
  second : a ≠ '\\' ∧ a ≠ '0'
  last : b ∉ whiteSpace
  next : d ∉ whiteSpace ∧ d ≠ '\\'

theorem escapeChar_of_not_ascii {c : Char} (h : ¬ c.toNat < 128) : Json.escapeChar c = [c] := by
  have hne : ∀ d : Char, d.toNat < 128 → c ≠ d := by
    rintro d hd rfl
    exact h hd
  have hlarge : ¬ c.toNat < 32 := by omega
  rw [Json.escapeChar, if_neg (hne '"' (by decide)), if_neg (hne '\\' (by decide)),
    if_neg (hne '\u0008' (by decide)), if_neg (hne '\u000c' (by decide)),
    if_neg (hne '\n' (by decide)), if_neg (hne '\r' (by decide)), if_neg (hne '\t' (by decide)),
    if_neg hlarge]

section Lowered

variable {rt : Runtime} {lower : Char → List Char} (hlower : LowersChars rt lower)
include hlower

theorem lower_escape : ∀ e ∈ blankEscapes, e.flatMap lower = e := by
  have hfixed : ∀ e ∈ blankEscapes, ∀ c ∈ e, c.toNat < 128 ∧ c.toLower = c := by decide
  intro e he
  have hchars : ∀ c ∈ e, lower c = [c] :=
    fun c hc => hlower.fixed (hfixed e he c hc).1 (hfixed e he c hc).2
  rw [List.flatMap_congr hchars, List.flatMap_singleton']

/-- A blank stays or becomes an escape. -/
theorem lowered_blank {c : Char} (hc : c ∈ whiteSpace) :
    lowered lower [c] = [c] ∨ lowered lower [c] ∈ blankEscapes := by
  rw [lowered, List.flatMap_singleton]
  rcases escapeChar_blank c hc with heq | hmem
  · rw [heq, List.flatMap_singleton]
    exact Or.inl (hlower.blank c hc)
  · rw [lower_escape hlower _ hmem]
    exact Or.inr hmem

theorem lowered_space : lowered lower [' '] = [' '] := by
  have hescape : Json.escapeChar ' ' = [' '] := by decide
  rw [lowered, List.flatMap_singleton, hescape, List.flatMap_singleton]
  exact hlower.blank ' ' (by decide)

/-- A space in the literal is a space of the text. -/
theorem eq_space_of_lowered {c : Char} (h : ' ' ∈ (Json.escapeChar c).flatMap lower) :
    c = ' ' := by
  obtain ⟨e, he, hspace⟩ := List.mem_flatMap.mp h
  obtain rfl := hlower.space e hspace
  by_cases hascii : c.toNat < 128
  · exact ascii_cases (P := fun c => ' ' ∈ Json.escapeChar c → c = ' ') (by decide +kernel) hascii he
  · rw [escapeChar_of_not_ascii hascii] at he
    exact (List.mem_singleton.mp he).symm

theorem exists_space {text x y : List Char} (h : lowered lower text = x ++ ' ' :: y) :
    ∃ before after, text = before ++ ' ' :: after ∧ lowered lower before = x ∧
      lowered lower after = y := by
  induction text generalizing x with
  | nil => simp [lowered] at h
  | cons c rest ih =>
      have hcons : lowered lower (c :: rest) =
          (Json.escapeChar c).flatMap lower ++ lowered lower rest := rfl
      rw [hcons] at h
      rcases List.append_eq_append_iff.mp h with ⟨t, rfl, hrest⟩ | ⟨t, hc, hy⟩
      · obtain ⟨before, after, rfl, hbefore, hafter⟩ := ih hrest
        exact ⟨c :: before, after, rfl, by rw [← hbefore]; rfl, hafter⟩
      · cases t with
        | nil =>
            rw [List.append_nil] at hc
            obtain ⟨before, after, rfl, hbefore, hafter⟩ := ih (x := []) hy.symm
            refine ⟨c :: before, after, rfl, ?_, hafter⟩
            rw [← hc, ← List.append_nil ((Json.escapeChar c).flatMap lower), ← hbefore]
            rfl
        | cons e t =>
            obtain ⟨rfl, rfl⟩ := List.cons.inj hy
            obtain rfl := eq_space_of_lowered hlower (c := c) (by rw [hc]; simp)
            have hspace := lowered_space hlower
            rw [lowered, List.flatMap_singleton, hc] at hspace
            have hlen := congrArg List.length hspace
            simp only [List.length_append, List.length_cons, List.length_nil] at hlen
            obtain rfl := List.eq_nil_of_length_eq_zero (l := x) (by omega)
            obtain rfl := List.eq_nil_of_length_eq_zero (l := t) (by omega)
            exact ⟨[], rest, rfl, rfl, rfl⟩

/-- No phrase that holds a space is in the literal of a text with line breaks for the single
spaces between its words. -/
theorem not_infix_of_bridge {a b d : Char} (hbridge : Bridge a b d) (text : List Char) :
    ¬ [a, b, ' ', d] <:+: lowered lower (breakLines none text) := by
  intro h
  obtain ⟨u, v, huv⟩ := h
  have hsplit : lowered lower (breakLines none text) = (u ++ [a, b]) ++ ' ' :: d :: v := by
    rw [← huv]
    simp
  obtain ⟨before, after, htext, hbefore, hafter⟩ := exists_space hlower hsplit
  rcases space_breakLines htext with hlast | hhead
  · rcases List.eq_nil_or_concat before with rfl | ⟨before, c, rfl⟩
    · simp [lowered] at hbefore
    · rw [List.concat_eq_append] at hlast hbefore
      rw [lowered_append] at hbefore
      have hc : c ∈ whiteSpace := hlast c (by simp)
      rcases lowered_blank hlower hc with heq | hescape
      · have hpair : u ++ [a, b] = (u ++ [a]) ++ [b] := by simp
        rw [heq, hpair] at hbefore
        obtain ⟨_, hcb⟩ := List.append_inj' hbefore rfl
        obtain rfl := List.singleton_inj.mp hcb
        exact hbridge.last hc
      · have hends : ∀ e ∈ blankEscapes, e ≠ [] ∧ e.dropLast ≠ [] ∧
            (e.dropLast.getLast? = some '\\' ∨ e.dropLast.getLast? = some '0') := by decide
        obtain ⟨hne, hne', hend⟩ := hends _ hescape
        have hpair : u ++ [a, b] = (u ++ [a]) ++ [b] := by simp
        have hsecond := congrArg (fun text => text.dropLast.getLast?) hbefore
        simp only [hpair, List.dropLast_append_of_ne_nil hne, List.dropLast_concat,
          List.getLast?_concat, List.getLast?_append_of_ne_nil _ hne'] at hsecond
        rw [hsecond, Option.some.injEq, Option.some.injEq] at hend
        exact hend.elim hbridge.second.1 hbridge.second.2
  · cases after with
    | nil => cases hafter
    | cons c after =>
        have hc : c ∈ whiteSpace := hhead c rfl
        rw [← List.singleton_append, lowered_append] at hafter
        rcases lowered_blank hlower hc with heq | hescape
        · rw [heq] at hafter
          obtain ⟨rfl, _⟩ := List.cons.inj hafter
          exact hbridge.next.1 hc
        · have hheads : ∀ e ∈ blankEscapes, e.head? = some '\\' := by decide
          have hhead := congrArg List.head? hafter
          rw [List.head?_append, hheads _ hescape] at hhead
          exact hbridge.next.2 (Option.some.inj hhead).symm

end Lowered

/-! ## Signals in a wrapped text -/

section Wrapped

variable {rt : Runtime} {lower : Char → List Char} (hlower : LowersChars rt lower)
include hlower

theorem lowered_break (piece : List Char) :
    lowered lower ('\n' :: piece) = '\\' :: 'n' :: lowered lower piece := by
  have hescape := lower_escape hlower ['\\', 'n'] (by decide)
  have hbreak : Json.escapeChar '\n' = ['\\', 'n'] := by decide
  rw [lowered, List.flatMap_cons, hbreak, hescape]
  rfl

/-- A run of blanks begins with no word character. -/
theorem bare_lowered_run {run : List Char} (hrun : run ≠ []) (hblank : ∀ b ∈ run, b ∈ blanks)
    (rest : List Char) : Bare (lowered lower run ++ rest).head? := by
  obtain ⟨b, run, rfl⟩ := List.exists_cons_of_ne_nil hrun
  have hb := hblank b List.mem_cons_self
  rw [← List.singleton_append, lowered_append, List.append_assoc, List.head?_append]
  have hwhite : ∀ b ∈ blanks, b ∈ whiteSpace ∧ isWordChar b = false := by decide
  have hheads : ∀ e ∈ blankEscapes, e.head? = some '\\' := by decide
  rcases lowered_blank hlower (hwhite b hb).1 with heq | hescape
  · rw [heq]
    exact (hwhite b hb).2
  · rw [hheads _ hescape]
    rfl

/-- In a text with line breaks a signal is found in one of the pieces. -/
theorem lasts_broken {pieces : List (List Char × List Char)} {first : List Char}
    (h : Lasts (first ++ lowered lower (pieces.flatMap (fun p => '\n' :: p.2)))) :
    Lasts first ∨ ∃ p ∈ pieces, Lasts ('n' :: lowered lower p.2) := by
  induction pieces generalizing first with
  | nil =>
      rw [List.flatMap_nil, lowered, List.flatMap_nil, List.append_nil] at h
      exact Or.inl h
  | cons p pieces ih =>
      rw [List.flatMap_cons, lowered_append, lowered_break hlower, List.cons_append] at h
      rcases lasts_backslash h with hfirst | hrest
      · exact Or.inl hfirst
      · rcases ih hrest with hpiece | ⟨q, hq, hpiece⟩
        · exact Or.inr ⟨p, List.mem_cons_self, hpiece⟩
        · exact Or.inr ⟨q, List.mem_cons_of_mem p hq, hpiece⟩

/-- What is found where every single space between words is a line break is found however
the lines are wrapped. -/
theorem lasts_of_wraps {text wrapped : List Char} {prev : Option Char}
    (hwraps : Wraps prev text wrapped) (h : Lasts (lowered lower (breakLines prev text))) :
    Lasts (lowered lower wrapped) := by
  obtain ⟨first, pieces, hruns, hbroken, rfl⟩ := exists_pieces hwraps
  have hbare : ∀ pieces : List (List Char × List Char),
      (∀ p ∈ pieces, p.1 ≠ [] ∧ ∀ b ∈ p.1, b ∈ blanks) →
      Bare (lowered lower (pieces.flatMap (fun p => p.1 ++ p.2))).head? := by
    intro pieces hruns
    cases pieces with
    | nil => rfl
    | cons p pieces =>
        obtain ⟨⟨hrun, hblank⟩, _⟩ := List.forall_mem_cons.mp hruns
        rw [List.flatMap_cons, List.append_assoc, lowered_append]
        exact bare_lowered_run hlower hrun hblank _
  rw [hbroken, lowered_append] at h
  rw [lowered_append]
  rcases lasts_broken hlower h with hfirst | ⟨p, hp, hpiece⟩
  · exact lasts_append hfirst (hbare pieces hruns)
  · obtain ⟨front, back, rfl⟩ := List.append_of_mem hp
    have hback : ∀ p ∈ back, p.1 ≠ [] ∧ ∀ b ∈ p.1, b ∈ blanks :=
      fun q hq => hruns q (by simp [hq])
    have hhere := lasts_append (lasts_break hpiece
      (lowered lower (first ++ front.flatMap (fun p => p.1 ++ p.2) ++ p.1))) (hbare back hback)
    simpa [lowered_append] using hhere

end Wrapped

/-! ## What the classifiers see -/

/-- What JSON writes for a string between the quotes. -/
def literalText (text : String) : String := String.ofList (text.toList.flatMap Json.escapeChar)

/-- The string with a line break for every single space between words. -/
def breakText (text : String) : String := String.ofList (breakLines none text.toList)

/-- The phrases that hold a space. -/
def spacedPhrases : List String :=
  dangerPhrases ++ ["contents: write", "contents write", "packages: write", "package publish",
    "npm publish"]

/-- A bridge of each. -/
def bridges : List (Char × Char × Char) :=
  [('e', 's', 't'), ('e', 'd', 't'), ('a', 'l', 'r'), ('n', 's', 'r'), ('e', 's', 'a'),
    ('c', 'e', 'o'), ('s', ':', 'w'), ('t', 's', 'w'), ('g', 'e', 'p'), ('p', 'm', 'p')]

theorem bridge_of_mem : ∀ q ∈ bridges, Bridge q.1 q.2.1 q.2.2 := by
  have h : ∀ q ∈ bridges, (q.1 ≠ '\\' ∧ q.1 ≠ '0') ∧ q.2.1 ∉ whiteSpace ∧
      q.2.2 ∉ whiteSpace ∧ q.2.2 ≠ '\\' := by decide
  exact fun q hq => ⟨(h q hq).1, (h q hq).2.1, (h q hq).2.2⟩

/-- The text gives a reason by a phrase with a space, or by a signal that needs none. -/
theorem redText_iff_spaced (text : String) :
    RedText text ↔ includesSome spacedPhrases text = true ∨ lasting text = true := by
  simp only [RedText, lasting, asksContentsWrite, asksPackagePublish, includesSome, spacedPhrases,
    List.any_append, List.any_cons, List.any_nil, Bool.or_eq_true, Bool.or_false]
  constructor
  · rintro (h | (h | h | h) | (h | h | h) | h) <;> simp [h]
  · rintro ((h | h | h | h | h | h) | h | h) <;> simp [h]

section Seen

variable {rt : Runtime} {lower : Char → List Char} (hlower : LowersChars rt lower)
include hlower

theorem toLowerCase_literalText (text : String) :
    (rt.toLowerCase (literalText text)).toList.map foldSigma = lowered lower text.toList := by
  rw [hlower.chars, literalText, String.toList_ofList, List.flatMap_assoc]
  rfl

theorem lasting_literalText_iff (text : String) :
    lasting (rt.toLowerCase (literalText text)) = true ↔ Lasts (lowered lower text.toList) := by
  rw [lasting_iff, ← lasts_map_foldSigma, toLowerCase_literalText hlower]

/-- Of the reasons in a text with line breaks only those that need no space are left. -/
theorem lasting_of_redText {text : String}
    (h : RedText (maskSafeBoundaryDenials (rt.toLowerCase (literalText (breakText text))))) :
    lasting (rt.toLowerCase (literalText (breakText text))) = true := by
  rcases (redText_iff_spaced _).mp h with hspaced | hlasting
  · have hforeign := foreign_phrase spacedPhrases (by decide)
    have hbridges : ∀ phrase ∈ spacedPhrases, ∃ q ∈ bridges,
        [q.1, q.2.1, ' ', q.2.2] <:+: phrase.toList ∧ phrase.toList.map foldSigma = phrase.toList := by
      decide +kernel
    obtain ⟨phrase, hphrase, hmasked⟩ := List.any_eq_true.mp hspaced
    have hmem : ∀ r ∈ denialPatterns, r ∈ denialPatterns := fun _ hr => hr
    have hthere := includes_original hmem _ (hforeign phrase hphrase) hmasked
    obtain ⟨q, hq, hbridge, hfold⟩ := hbridges phrase hphrase
    have hinfix := (Text.includes_iff _ _).mp hthere
    have hlow : phrase.toList <:+: lowered lower (breakText text).toList := by
      rw [← toLowerCase_literalText hlower, ← hfold]
      exact hinfix.map foldSigma
    rw [breakText, String.toList_ofList] at hlow
    exact (not_infix_of_bridge hlower (bridge_of_mem q hq) _ (hbridge.trans hlow)).elim
  · exact (lasting_mask_iff _).mp hlasting

/-- They are reasons however the lines are wrapped. -/
theorem redText_of_wraps {text wrapped : String} (hwraps : Wraps none text.toList wrapped.toList)
    (h : lasting (rt.toLowerCase (literalText (breakText text))) = true) :
    RedText (maskSafeBoundaryDenials (rt.toLowerCase (literalText wrapped))) := by
  rw [lasting_literalText_iff hlower, breakText, String.toList_ofList] at h
  have hwrapped := (lasting_literalText_iff hlower wrapped).mpr (lasts_of_wraps hlower hwraps h)
  exact (redText_iff_spaced _).mpr (Or.inr ((lasting_mask_iff _).mpr hwrapped))

end Seen

end Admissorium.Classify.LineWraps
