import Admissorium.Classify.LanguageBoundary
import Admissorium.JavaScript.Words

/-!
# Masking the safe denials

While the denials are masked one pattern after another, the text is made of characters of
the original and of markers that each stand for a stretch of it. Every such stretch is a
match of a denial in the original text (`exists_items`): a marker begins and ends with a
space and is written in capitals, so no later match reaches into it, and none begins or
ends beside it that did not before. Masking therefore creates no danger and hides none
outside the denials, in whatever order the patterns are applied (`faithful`).
-/
namespace Admissorium.Classify.Masking
set_option autoImplicit false

open JavaScript RegExp LanguageBoundary

def marker : List Char := " SAFE_BOUNDARY_DENIAL ".toList

/-- The replacements in another order. -/
def maskInOrder (order : List RegExp) (text : String) : String :=
  order.foldl (fun text pattern => pattern.replaceAll " SAFE_BOUNDARY_DENIAL " text) text

/-! ## Partly masked texts -/

/-- A character of the original text, or a marker and what it stands for. -/
inductive Item where
  | char (c : Char)
  | mask (w : List Char)

def original : List Item → List Char
  | [] => []
  | .char c :: rest => c :: original rest
  | .mask w :: rest => w ++ original rest

def shown : List Item → List Char
  | [] => []
  | .char c :: rest => c :: shown rest
  | .mask _ :: rest => marker ++ shown rest

theorem original_append (xs ys : List Item) : original (xs ++ ys) = original xs ++ original ys := by
  induction xs with
  | nil => rfl
  | cons x xs ih => cases x <;> simp [original, ih]

theorem shown_append (xs ys : List Item) : shown (xs ++ ys) = shown xs ++ shown ys := by
  induction xs with
  | nil => rfl
  | cons x xs ih => cases x <;> simp [shown, ih]

theorem original_chars (text : List Char) : original (text.map .char) = text := by
  induction text with
  | nil => rfl
  | cons c text ih => rw [List.map_cons, original, ih]

theorem shown_chars (text : List Char) : shown (text.map .char) = text := by
  induction text with
  | nil => rfl
  | cons c text ih => rw [List.map_cons, shown, ih]

/-- Every stretch that is masked after `before` is a match of a denial in the original text. -/
def Sound (before : List Char) (items : List Item) : Prop :=
  ∀ pre w post, items = pre ++ .mask w :: post →
    ∃ r ∈ denialPatterns, Matches r (before ++ original pre) w (original post)

theorem Sound.cons_char {before : List Char} {c : Char} {items : List Item}
    (h : Sound (before ++ [c]) items) : Sound before (.char c :: items) := by
  intro pre w post hitems
  cases pre with
  | nil => cases hitems
  | cons p pre =>
      obtain ⟨rfl, htail⟩ := List.cons.inj hitems
      obtain ⟨r, hr, hm⟩ := h pre w post htail
      refine ⟨r, hr, ?_⟩
      simpa [original] using hm

theorem Sound.cons_mask {before w : List Char} {items : List Item}
    (hm : ∃ r ∈ denialPatterns, Matches r before w (original items))
    (h : Sound (before ++ w) items) : Sound before (.mask w :: items) := by
  intro pre v post hitems
  cases pre with
  | nil =>
      obtain ⟨hw, rfl⟩ := List.cons.inj hitems
      cases hw
      simpa [original] using hm
  | cons p pre =>
      obtain ⟨rfl, htail⟩ := List.cons.inj hitems
      obtain ⟨r, hr, hmatch⟩ := h pre v post htail
      refine ⟨r, hr, ?_⟩
      simpa [original] using hmatch

/-! ## The markers -/

/-- The text cannot begin inside a marker nor reach into one. -/
structure Foreign (w : List Char) : Prop where
  ne_nil : w ≠ []
  inside : 'S' ∉ w
  head : ∀ c ∈ w.head?, c ∉ marker
  last : w.getLast? ≠ some ' '

/-- A text that begins what is shown and neither reaches into a marker nor ends with a space
consists of characters of the original. -/
theorem prefix_shown {w : List Char} (hinside : 'S' ∉ w)
    (hlast : w.getLast? ≠ some ' ') {items : List Item} (h : w <+: shown items) :
    ∃ post, items = w.map .char ++ post := by
  induction w generalizing items with
  | nil => exact ⟨items, rfl⟩
  | cons c w ih =>
      cases items with
      | nil => simp [shown] at h
      | cons x items =>
          cases x with
          | char d =>
              rw [shown, List.cons_prefix_cons] at h
              obtain ⟨rfl, htail⟩ := h
              have hlast' : w.getLast? ≠ some ' ' := by
                cases w with
                | nil => simp
                | cons d w => rwa [List.getLast?_cons_cons] at hlast
              obtain ⟨post, rfl⟩ := ih (fun hd => hinside (List.mem_cons_of_mem c hd)) hlast' htail
              exact ⟨post, rfl⟩
          | mask v =>
              have hmarker : marker = ' ' :: 'S' :: "AFE_BOUNDARY_DENIAL ".toList := by decide
              rw [shown, hmarker, List.cons_append, List.cons_append, List.cons_prefix_cons] at h
              obtain ⟨rfl, htail⟩ := h
              cases w with
              | nil => exact absurd rfl hlast
              | cons d w =>
                  obtain ⟨rfl, _⟩ := List.cons_prefix_cons.mp htail
                  exact absurd (by simp) hinside

/-- Such a text, wherever it is shown. -/
theorem infix_shown {w : List Char} (hw : Foreign w) {items : List Item} {before after : List Char}
    (h : shown items = before ++ w ++ after) :
    ∃ pre post, items = pre ++ w.map .char ++ post ∧ shown pre = before ∧ shown post = after := by
  induction items generalizing before with
  | nil =>
      have hnil := h.symm
      rw [shown, List.append_eq_nil_iff, List.append_eq_nil_iff] at hnil
      exact absurd hnil.1.2 hw.ne_nil
  | cons x items ih =>
      cases before with
      | nil =>
          have hpre : w <+: shown (x :: items) := ⟨after, by rw [h]; rfl⟩
          obtain ⟨post, hpost⟩ := prefix_shown hw.inside hw.last hpre
          refine ⟨[], post, by rw [hpost]; rfl, rfl, ?_⟩
          rw [hpost, shown_append, shown_chars] at h
          exact List.append_cancel_left h
      | cons b before =>
          cases x with
          | char c =>
              rw [shown] at h
              obtain ⟨rfl, htail⟩ := List.cons.inj h
              obtain ⟨pre, post, rfl, rfl, rfl⟩ := ih htail
              exact ⟨.char c :: pre, post, rfl, rfl, rfl⟩
          | mask v =>
              rw [shown, List.append_assoc] at h
              rcases List.append_eq_append_iff.mp h with ⟨tail, hbefore, hrest⟩ | ⟨tail, hmarker, hrest⟩
              · rw [← List.append_assoc] at hrest
                obtain ⟨pre, post, rfl, hpre, rfl⟩ := ih hrest
                refine ⟨.mask v :: pre, post, rfl, ?_, rfl⟩
                rw [shown, hpre, hbefore]
              · cases tail with
                | nil =>
                    rw [List.append_nil] at hmarker
                    rw [List.nil_append] at hrest
                    have hrest' : shown items = [] ++ w ++ after := hrest.symm
                    obtain ⟨pre, post, rfl, hpre, rfl⟩ := ih hrest'
                    refine ⟨.mask v :: pre, post, rfl, ?_, rfl⟩
                    rw [shown, hpre, List.append_nil, hmarker]
                | cons c tail =>
                    obtain ⟨d, u, rfl⟩ := List.exists_cons_of_ne_nil hw.ne_nil
                    obtain ⟨rfl, _⟩ := List.cons.inj hrest
                    exact absurd (by rw [hmarker]; simp) (hw.head d rfl)

/-! ## Patterns of words -/

/-- What the proof needs of what stands between the word boundaries: its words begin and end
with a letter or digit and hold none of the marker's capitals. -/
def isWorded (body : List RegExp) : Bool :=
  body.all plain && (concat body).solid && (concat body).heads.all CharSet.alphanumeric &&
    (concat body).lasts.all CharSet.alphanumeric &&
    marker.all (fun c => c = ' ' || c = '_' || (concat body).shuns c)

/-- What stands between the boundaries of such a pattern. -/
def bodyOf (r : RegExp) : List RegExp := (parts r).tail.dropLast

theorem denials_isWorded : ∀ r ∈ denialPatterns,
    r = worded (bodyOf r) ∧ isWorded (bodyOf r) = true := by decide

theorem denials (r : RegExp) (hr : r ∈ denialPatterns) :
    ∃ body, r = worded body ∧ isWorded body = true :=
  ⟨bodyOf r, denials_isWorded r hr⟩

section Worded

variable {body : List RegExp} {before w after : List Char}

theorem isWorded_iff : isWorded body = true ↔ body.all plain = true ∧ Framed (concat body) ∧
    ∀ c ∈ marker, c = ' ' ∨ c = '_' ∨ (concat body).shuns c = true := by
  simp only [isWorded, Bool.and_eq_true, List.all_eq_true, Bool.or_eq_true, decide_eq_true_eq,
    or_assoc]
  constructor
  · intro h
    obtain ⟨⟨⟨⟨hplain, hsolid⟩, hheads⟩, hlasts⟩, hletters⟩ := h
    exact ⟨hplain, ⟨hsolid, hheads, hlasts⟩, hletters⟩
  · intro h
    obtain ⟨hplain, ⟨hsolid, hheads, hlasts⟩, hletters⟩ := h
    exact ⟨⟨⟨⟨hplain, hsolid⟩, hheads⟩, hlasts⟩, hletters⟩

theorem matches_isWorded_iff (hb : isWorded body = true) :
    Matches (worded body) before w after ↔
      w ∈ (concat body).lang ∧ Bare before.getLast? ∧ Bare after.head? := by
  obtain ⟨hplain, hframed, _⟩ := isWorded_iff.mp hb
  exact matches_worded_iff hplain hframed before w after

theorem foreign_of_lang (hb : isWorded body = true) (hw : w ∈ (concat body).lang) : Foreign w := by
  obtain ⟨_, hframed, hletters⟩ := isWorded_iff.mp hb
  have hshuns : ∀ c ∈ marker, c.isAlphanum = true → c ∉ w := by
    intro c hc halpha
    rcases hletters c hc with rfl | rfl | hs
    · exact absurd halpha (by decide)
    · exact absurd halpha (by decide)
    · exact not_mem_of_shuns hs hw
  refine ⟨ne_nil_of_solid hframed.solid hw, hshuns 'S' (by decide) (by decide), ?_, ?_⟩
  · intro c hc hmarker
    obtain ⟨d, hd, halpha⟩ := hframed.exists_head hw
    obtain rfl := Option.mem_unique hc hd
    exact hshuns c hmarker halpha (List.mem_of_mem_head? hc)
  · intro hspace
    obtain ⟨d, hd, halpha⟩ := hframed.exists_last hw
    obtain rfl := Option.mem_unique hspace hd
    exact absurd halpha (by decide)

/-- No match starts inside a marker. -/
theorem run_marker (hb : isWorded body = true) {u v : List Char} (hmarker : marker = u ++ v)
    (hv : v ≠ []) : (worded body).run ⟨before.reverse, v ++ after⟩ = [] := by
  rw [List.eq_nil_iff_forall_not_mem]
  intro q hq
  obtain ⟨w, hafter, _, hmatch⟩ := exists_matches hq
  have hforeign := foreign_of_lang hb ((matches_isWorded_iff hb).mp hmatch).1
  obtain ⟨c, v, rfl⟩ := List.exists_cons_of_ne_nil hv
  obtain ⟨d, w, rfl⟩ := List.exists_cons_of_ne_nil hforeign.ne_nil
  obtain ⟨rfl, _⟩ := List.cons.inj hafter
  exact hforeign.head c rfl (by rw [hmarker]; simp)

end Worded

/-! ## One replacement -/

section Step

variable {body : List RegExp} {pre post : List Item}

/-- A word that follows a marker would go on where its stretch ended, which was the end of
a word. -/
theorem bare_before (h : Sound [] (pre ++ post)) (hword : ∃ c ∈ (original post).head?,
    isWordChar c = true) (hbare : Bare (shown pre).getLast?) : Bare (original pre).getLast? := by
  rcases List.eq_nil_or_concat pre with rfl | ⟨pre, x, rfl⟩
  · rfl
  · rw [List.concat_eq_append] at h hbare ⊢
    rw [shown_append] at hbare
    rw [original_append]
    cases x with
    | char c => simpa [original, shown] using hbare
    | mask w =>
        obtain ⟨r, hr, hmatch⟩ := h pre w post (by simp)
        obtain ⟨other, rfl, hother⟩ := denials r hr
        obtain ⟨_, _, hafter⟩ := (matches_isWorded_iff hother).mp hmatch
        obtain ⟨c, hc, hcw⟩ := hword
        exact absurd hafter (not_bare hc hcw)

/-- And so on the other side. -/
theorem bare_after {w : List Char} (h : Sound [] (pre ++ (w.map .char ++ post)))
    (hword : ∃ c ∈ w.getLast?, isWordChar c = true) (hbare : Bare (shown post).head?) :
    Bare (original post).head? := by
  cases post with
  | nil => rfl
  | cons x post =>
      cases x with
      | char c => exact hbare
      | mask v =>
          obtain ⟨r, hr, hmatch⟩ := h (pre ++ w.map .char) v post (by simp)
          obtain ⟨other, rfl, hother⟩ := denials r hr
          obtain ⟨_, hbefore, _⟩ := (matches_isWorded_iff hother).mp hmatch
          obtain ⟨c, hc, hcw⟩ := hword
          rw [List.nil_append, original_append, original_chars, List.getLast?_append, hc] at hbefore
          exact absurd hbefore (not_bare rfl hcw)

/-- What a pattern matches in the partly masked text, it matches in the original. -/
theorem matches_original (hb : isWorded body = true) {w : List Char}
    (h : Sound [] (pre ++ (w.map .char ++ post)))
    (hmatch : Matches (worded body) (shown pre) w (shown post)) :
    Matches (worded body) (original pre) w (original post) := by
  obtain ⟨_, hframed, _⟩ := isWorded_iff.mp hb
  obtain ⟨hw, hleft, hright⟩ := (matches_isWorded_iff hb).mp hmatch
  obtain ⟨c, hc, hcw⟩ := hframed.exists_head hw
  obtain ⟨d, hd, hdw⟩ := hframed.exists_last hw
  have hword : ∃ c ∈ (original (w.map .char ++ post)).head?, isWordChar c = true := by
    rw [original_append, original_chars]
    exact ⟨c, by rw [List.head?_append, hc]; rfl, isWordChar_of_isAlphanum hcw⟩
  exact (matches_isWorded_iff hb).mpr ⟨hw, bare_before h hword hleft,
    bare_after h ⟨d, hd, isWordChar_of_isAlphanum hdw⟩ hright⟩

theorem exists_original (hb : isWorded body = true) (h : Sound [] (pre ++ post)) {stop : Cursor}
    (hstop : stop ∈ (worded body).run ⟨(shown pre).reverse, shown post⟩) :
    ∃ w post', post = w.map .char ++ post' ∧ w ≠ [] ∧
      stop = ⟨w.reverse ++ (shown pre).reverse, shown post'⟩ ∧
      Matches (worded body) (original pre) w (original post') := by
  obtain ⟨w, hafter, hq, hmatch⟩ := exists_matches hstop
  have hforeign := foreign_of_lang hb ((matches_isWorded_iff hb).mp hmatch).1
  obtain ⟨post', rfl⟩ := prefix_shown hforeign.inside hforeign.last ⟨stop.after, hafter.symm⟩
  have hrest : shown post' = stop.after := by
    rw [shown_append, shown_chars] at hafter
    exact List.append_cancel_left hafter
  rw [← hrest] at hq hmatch
  exact ⟨w, post', rfl, hforeign.ne_nil, hq, matches_original hb h hmatch⟩

/-- The items after the replacement, of what comes after `pre`. -/
structure Masks (r : RegExp) (pre post post' : List Item) : Prop where
  original_eq : original post' = original post
  shown_eq : shown post' = replaceFrom r marker 0 (shown pre).reverse (shown post)
  sound : Sound (original pre) post'

variable {post' : List Item} {w : List Char} {c : Char}

/-- A marker is copied. -/
theorem Masks.mask (hb : isWorded body = true)
    (hmatch : ∃ r ∈ denialPatterns, Matches r (original pre) w (original post))
    (h : Masks (worded body) (pre ++ [.mask w]) post post') :
    Masks (worded body) pre (.mask w :: post) (.mask w :: post') where
  original_eq := by rw [original, original, h.original_eq]
  shown_eq := by
    have hcopy : replaceFrom (worded body) marker 0 (shown pre).reverse (marker ++ shown post) =
        marker ++ replaceFrom (worded body) marker 0 (marker.reverse ++ (shown pre).reverse)
          (shown post) := by
      refine replaceFrom_copy (fun u v hmarker hv => ?_) marker
      rw [← List.reverse_append]
      exact run_marker hb hmarker hv
    have hrest := h.shown_eq
    rw [shown_append, List.reverse_append] at hrest
    simp only [shown, List.append_nil] at hrest
    rw [shown, shown, hcopy, hrest]
  sound := by
    have hsound := h.sound
    rw [original_append] at hsound
    simp only [original, List.append_nil] at hsound
    exact hsound.cons_mask (by rw [h.original_eq]; exact hmatch)

/-- So is a character at which nothing matches. -/
theorem Masks.char {r : RegExp} (hrun : r.run ⟨(shown pre).reverse, c :: shown post⟩ = [])
    (h : Masks r (pre ++ [.char c]) post post') :
    Masks r pre (.char c :: post) (.char c :: post') where
  original_eq := by rw [original, original, h.original_eq]
  shown_eq := by
    have hrest := h.shown_eq
    rw [shown_append, List.reverse_append] at hrest
    rw [shown, shown, replaceFrom_miss hrun, hrest]
    rfl
  sound := by
    have hsound := h.sound
    rw [original_append] at hsound
    exact hsound.cons_char

/-- And a match is masked. -/
theorem Masks.found {r : RegExp} (hr : r ∈ denialPatterns) (hne : w ≠ [])
    (hlength : r.matchLength ⟨(shown pre).reverse, w ++ shown post⟩ = some w.length)
    (hmatch : Matches r (original pre) w (original post))
    (h : Masks r (pre ++ w.map .char) post post') :
    Masks r pre (w.map .char ++ post) (.mask w :: post') where
  original_eq := by rw [original, original_append, original_chars, h.original_eq]
  shown_eq := by
    have hrest := h.shown_eq
    rw [shown_append, shown_chars, List.reverse_append] at hrest
    rw [shown, shown_append, shown_chars, replaceFrom_match hne hlength, hrest]
  sound := by
    have hsound := h.sound
    rw [original_append, original_chars] at hsound
    exact hsound.cons_mask ⟨r, hr, by rw [h.original_eq]; exact hmatch⟩

/-- A replacement masks further matches of the original text. -/
theorem exists_mask {r : RegExp} (hr : r ∈ denialPatterns) (h : Sound [] (pre ++ post)) :
    ∃ post', Masks r pre post post' := by
  obtain ⟨body, rfl, hb⟩ := denials r hr
  induction hn : post.length using Nat.strong_induction_on generalizing pre post with
  | _ n ih =>
      cases post with
      | nil =>
          have hrun : (worded body).run ⟨(shown pre).reverse, []⟩ = [] := by
            rw [List.eq_nil_iff_forall_not_mem]
            intro stop hstop
            obtain ⟨w, post', hpost, hne, _⟩ := exists_original hb h hstop
            simp [hne] at hpost
          refine ⟨[], rfl, ?_, fun p w q hitems => by simp at hitems⟩
          rw [shown, replaceFrom, matchLength, hrun]
          rfl
      | cons x post =>
          have hlt : post.length < n := by rw [← hn]; simp
          cases x with
          | mask w =>
              obtain ⟨r, hmem, hmatch⟩ := h pre w post rfl
              have hrest : Sound [] (pre ++ [.mask w] ++ post) := by simpa using h
              obtain ⟨post', hpost'⟩ := ih post.length hlt hrest rfl
              exact ⟨_, hpost'.mask hb ⟨r, hmem, hmatch⟩⟩
          | char c =>
              cases hrun : (worded body).run ⟨(shown pre).reverse, c :: shown post⟩ with
              | nil =>
                  have hrest : Sound [] (pre ++ [.char c] ++ post) := by simpa using h
                  obtain ⟨post', hpost'⟩ := ih post.length hlt hrest rfl
                  exact ⟨_, hpost'.char hrun⟩
              | cons stop stops =>
                  have hstop : stop ∈ (worded body).run
                      ⟨(shown pre).reverse, shown (.char c :: post)⟩ := by
                    rw [shown, hrun]
                    exact List.mem_cons_self
                  obtain ⟨w, rest, hpost, hne, hend, hmatch⟩ := exists_original hb h hstop
                  have hlength : (worded body).matchLength
                      ⟨(shown pre).reverse, w ++ shown rest⟩ = some w.length := by
                    have hsame : w ++ shown rest = c :: shown post := by
                      have hshown := congrArg shown hpost
                      rw [shown, shown_append, shown_chars] at hshown
                      exact hshown.symm
                    rw [matchLength, hsame, hrun, hend, ← hsame]
                    simp
                  rw [hpost] at hn h ⊢
                  have hshorter : rest.length < n := by
                    have hpos := List.length_pos_iff.mpr hne
                    rw [List.length_append, List.length_map] at hn
                    omega
                  have hrest : Sound [] (pre ++ w.map .char ++ rest) := by simpa using h
                  obtain ⟨post', hpost'⟩ := ih rest.length hshorter hrest rfl
                  exact ⟨_, hpost'.found hr hne hlength hmatch⟩

end Step

/-- A phrase in small letters and without a space at its ends. -/
theorem foreign_phrase (phrases : List String)
    (h : ∀ phrase ∈ phrases, phrase.toList ≠ [] ∧ 'S' ∉ phrase.toList ∧
      (∀ d ∈ marker, phrase.toList.head? ≠ some d) ∧ phrase.toList.getLast? ≠ some ' ') :
    ∀ phrase ∈ phrases, Foreign phrase.toList := by
  intro phrase hphrase
  obtain ⟨hne, hinside, hhead, hlast⟩ := h phrase hphrase
  exact ⟨hne, hinside, fun c hc hmarker => hhead c hmarker hc, hlast⟩

/-! ## Any order -/

/-- Whatever was replaced, the text shown is the original with some of its matches masked. -/
theorem exists_items {order : List RegExp} (horder : ∀ r ∈ order, r ∈ denialPatterns)
    (text : String) : ∃ items, original items = text.toList ∧
      shown items = (maskInOrder order text).toList ∧ Sound [] items := by
  induction order using List.reverseRecOn with
  | nil =>
      refine ⟨text.toList.map .char, original_chars _, shown_chars _, ?_⟩
      intro pre w post hitems
      have hmem : Item.mask w ∈ text.toList.map .char := by rw [hitems]; simp
      simp at hmem
  | append_singleton order r ih =>
      obtain ⟨items, horiginal, hshown, hsound⟩ :=
        ih (fun s hs => horder s (List.mem_append_left _ hs))
      have hr : r ∈ denialPatterns := horder r (by simp)
      have hitems : Sound [] ([] ++ items) := hsound
      obtain ⟨items', hmasks⟩ := exists_mask hr hitems
      refine ⟨items', hmasks.original_eq.trans horiginal, ?_, hmasks.sound⟩
      rw [hmasks.shown_eq, hshown, maskInOrder, maskInOrder, List.foldl_append]
      simp only [List.foldl_cons, List.foldl_nil, RegExp.replaceAll, String.toList_ofList]
      rfl

/-- Two stretches of a text that share no character, each told by what is before it. -/
def Apart (before v before' w : List Char) : Prop :=
  before.length + v.length ≤ before'.length ∨ before'.length + w.length ≤ before.length

/-- The occurrence of `v` after `before` shares no character with a match of a denial. -/
def Free (text before v : List Char) : Prop :=
  ∀ r ∈ denialPatterns, ∀ before' w after', text = before' ++ w ++ after' →
    Matches r before' w after' → Apart before v before' w

/-- Masking makes no danger, and keeps what is outside the denials. -/
structure Faithful (mask : String → String) (text : String) : Prop where
  creates : ∀ phrase ∈ dangerPhrases, Text.includes (mask text) phrase = true →
    Text.includes text phrase = true
  /-- The occurrence stays where it was, between what became of the text around it. -/
  hides : ∀ phrase ∈ dangerPhrases, ∀ before after,
    text.toList = before ++ phrase.toList ++ after → Free text.toList before phrase.toList →
    ∃ pre post, original pre = before ∧ original post = after ∧
      (mask text).toList = shown pre ++ phrase.toList ++ shown post

theorem exists_chars {v after : List Char} {items : List Item}
    (htext : original items = v ++ after)
    (hlater : ∀ pre w post, items = pre ++ .mask w :: post → v.length ≤ (original pre).length) :
    ∃ post, items = v.map .char ++ post ∧ original post = after := by
  induction v generalizing items with
  | nil => exact ⟨items, rfl, htext⟩
  | cons c v ih =>
      cases items with
      | nil => simp [original] at htext
      | cons x items =>
          cases x with
          | mask w =>
              have h := hlater [] w items rfl
              simp [original] at h
          | char d =>
              simp only [original, List.cons_append, List.cons.injEq] at htext
              obtain ⟨rfl, htext⟩ := htext
              obtain ⟨post, rfl, rfl⟩ := ih htext (by
                intro pre w post hitems
                have h := hlater (.char d :: pre) w post (by rw [hitems]; rfl)
                simpa [original] using h)
              exact ⟨post, rfl, rfl⟩

/-- What shares no character with what is masked is made of characters. -/
theorem exists_split {v : List Char} (hv : v ≠ []) {items : List Item} {before after : List Char}
    (htext : original items = before ++ v ++ after)
    (hne : ∀ w, Item.mask w ∈ items → w ≠ [])
    (hapart : ∀ pre w post, items = pre ++ .mask w :: post → Apart before v (original pre) w) :
    ∃ pre post, items = pre ++ v.map .char ++ post ∧ original pre = before ∧
      original post = after := by
  induction items generalizing before v with
  | nil =>
      have hnil := htext.symm
      rw [original, List.append_eq_nil_iff, List.append_eq_nil_iff] at hnil
      exact absurd hnil.1.2 hv
  | cons x items ih =>
      have htail : ∀ w, Item.mask w ∈ items → w ≠ [] :=
        fun w hw => hne w (List.mem_cons_of_mem x hw)
      cases before with
      | cons b before =>
          cases x with
          | char c =>
              simp only [original, List.cons_append, List.cons.injEq] at htext
              obtain ⟨rfl, htext⟩ := htext
              obtain ⟨pre, post, rfl, rfl, rfl⟩ := ih hv htext htail (by
                intro pre w post hitems
                have h := hapart (.char c :: pre) w post (by rw [hitems]; rfl)
                simp only [Apart, original, List.length_cons] at h ⊢
                omega)
              exact ⟨.char c :: pre, post, rfl, rfl, rfl⟩
          | mask w =>
              have hfirst := hapart [] w items rfl
              have hlen : w.length ≤ (b :: before).length := by
                simp only [Apart, original, List.length_nil] at hfirst
                have hpos := List.length_pos_iff.mpr hv
                omega
              rw [original, List.append_assoc] at htext
              obtain ⟨tail, hbefore⟩ : w <+: b :: before :=
                List.prefix_of_prefix_length_le ⟨_, rfl⟩ ⟨_, htext.symm⟩ hlen
              rw [← hbefore, List.append_assoc] at htext
              have hrest := List.append_cancel_left htext
              rw [← List.append_assoc] at hrest
              obtain ⟨pre, post, rfl, hpre, rfl⟩ := ih hv hrest htail (by
                intro pre u post hitems
                have h := hapart (.mask w :: pre) u post (by rw [hitems]; rfl)
                rw [← hbefore] at h
                simp only [Apart, original, List.length_append] at h ⊢
                omega)
              exact ⟨.mask w :: pre, post, rfl, by rw [original, hpre, hbefore], rfl⟩
      | nil =>
          rw [List.nil_append] at htext
          obtain ⟨post, hpost, hafter⟩ := exists_chars htext (by
            intro pre w post hitems
            have hw := List.length_pos_iff.mpr (hne w (by rw [hitems]; simp))
            have h := hapart pre w post hitems
            simp only [Apart, List.length_nil] at h
            omega)
          exact ⟨[], post, hpost, rfl, hafter⟩

section Whole

variable {order : List RegExp} (horder : ∀ r ∈ order, r ∈ denialPatterns) (text : String)
include horder

/-- A phrase in the masked text was there before. -/
theorem includes_original {phrase : String} (hphrase : Foreign phrase.toList)
    (h : Text.includes (maskInOrder order text) phrase = true) :
    Text.includes text phrase = true := by
  obtain ⟨items, horiginal, hshown, _⟩ := exists_items horder text
  obtain ⟨before, after, hmasked⟩ := (Text.includes_iff _ _).mp h
  rw [← hshown] at hmasked
  obtain ⟨pre, post, rfl, _, _⟩ := infix_shown hphrase hmasked.symm
  rw [Text.includes_iff, ← horiginal]
  refine ⟨original pre, original post, ?_⟩
  rw [original_append, original_append, original_chars]

/-- What shares no character with a denial stays where it was. -/
theorem exists_kept {before v after : List Char} (hv : v ≠ [])
    (htext : text.toList = before ++ v ++ after) (hfree : Free text.toList before v) :
    ∃ pre post, original pre = before ∧ original post = after ∧
      (maskInOrder order text).toList = shown pre ++ v ++ shown post := by
  obtain ⟨items, horiginal, hshown, hsound⟩ := exists_items horder text
  have hmatches : ∀ pre w post, items = pre ++ .mask w :: post →
      ∃ r ∈ denialPatterns, Matches r (original pre) w (original post) := hsound
  have hwords : ∀ w, Item.mask w ∈ items → w ≠ [] := by
    intro w hw
    obtain ⟨pre, post, hitems⟩ := List.append_of_mem hw
    obtain ⟨r, hr, hmatch⟩ := hmatches pre w post hitems
    obtain ⟨body, rfl, hb⟩ := denials r hr
    exact (foreign_of_lang hb ((matches_isWorded_iff hb).mp hmatch).1).ne_nil
  have hapart : ∀ pre w post, items = pre ++ .mask w :: post → Apart before v (original pre) w := by
    intro pre w post hitems
    obtain ⟨r, hr, hmatch⟩ := hmatches pre w post hitems
    refine hfree r hr _ w (original post) ?_ hmatch
    rw [← horiginal, hitems, original_append, original, List.append_assoc]
  rw [← horiginal] at htext
  obtain ⟨pre, post, rfl, hbefore, hafter⟩ := exists_split hv htext hwords hapart
  refine ⟨pre, post, hbefore, hafter, ?_⟩
  rw [← hshown, shown_append, shown_append, shown_chars]

theorem faithful_of_mem : Faithful (maskInOrder order) text := by
  have hforeign := foreign_phrase dangerPhrases (by decide)
  constructor
  · intro phrase hphrase
    exact includes_original horder text (hforeign phrase hphrase)
  · intro phrase hphrase before after htext hfree
    exact exists_kept horder text (hforeign phrase hphrase).ne_nil htext hfree

end Whole

/-- Masking creates no danger and hides none that shares no character with a denial; nor
would it in another order. -/
theorem faithful (text : String) : Faithful maskSafeBoundaryDenials text ∧
    ∀ order : List RegExp, order.Perm denialPatterns → Faithful (maskInOrder order) text :=
  ⟨(faithful_of_mem (fun _ hr => hr) text : Faithful (maskInOrder denialPatterns) text),
    fun _ horder => faithful_of_mem (fun _ hr => horder.mem_iff.mp hr) text⟩

theorem faithful_reverse :
    Faithful (maskInOrder denialPatterns.reverse) "does not execute, yet decides truth" :=
  (faithful _).2 _ denialPatterns.reverse_perm

end Admissorium.Classify.Masking
