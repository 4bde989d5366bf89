import Admissorium.Globs

/-!
# A placeholder in the place of `**`

A glob compiler that writes a placeholder for `**` and looks for it again reads a glob
as `collapse` says: it finds every placeholder it wrote unless a start of the
placeholder stood before one, which the placeholder itself then completes
(`Disturbs`). Without such a start the pieces come back as they were
(`collapse_expand`); with one, their characters do not (`firstDifference_collapse`).
-/
namespace Admissorium.Glob
set_option autoImplicit false

open JavaScript RegExp

/-- The pieces with the placeholder written for each globstar. -/
def expand (token : List Char) : List Piece → List Piece :=
  List.flatMap (fun p => if p = .globstar then token.map .char else [p])

/-- A globstar for each leftmost occurrence of the placeholder; `skip` counts the pieces
of it still to be passed over. -/
def collapse (token : List Piece) : Nat → List Piece → List Piece
  | _, [] => []
  | skip + 1, _ :: rest => collapse token skip rest
  | 0, p :: rest =>
      if token.isPrefixOf (p :: rest) then .globstar :: collapse token (token.length - 1) rest
      else p :: collapse token 0 rest

theorem collapse_skip (token : List Piece) (skip : Nat) (ps : List Piece) :
    collapse token skip ps = collapse token 0 (ps.drop skip) := by
  induction ps generalizing skip with
  | nil => simp [collapse]
  | cons p rest ih =>
      cases skip with
      | zero => rfl
      | succ skip => exact ih skip

theorem collapse_hit {token : List Piece} (h : token ≠ []) (rest : List Piece) :
    collapse token 0 (token ++ rest) = .globstar :: collapse token 0 rest := by
  cases token with
  | nil => exact absurd rfl h
  | cons p token =>
      have hp : (p :: token).isPrefixOf (p :: token ++ rest) = true :=
        List.isPrefixOf_iff_prefix.mpr (List.prefix_append _ _)
      rw [List.cons_append] at hp ⊢
      rw [collapse, if_pos hp, collapse_skip]
      simp

theorem collapse_miss {token : List Piece} {p : Piece} {rest : List Piece}
    (h : ¬ token <+: p :: rest) : collapse token 0 (p :: rest) = p :: collapse token 0 rest := by
  rw [collapse, if_neg (fun hp => h (List.isPrefixOf_iff_prefix.mp hp))]

/-- A globstar is the only piece that is new. -/
theorem mem_collapse {token : List Piece} {p : Piece} {skip : Nat} {ps : List Piece}
    (h : p ∈ collapse token skip ps) : p = .globstar ∨ p ∈ ps := by
  induction ps generalizing skip with
  | nil => simp [collapse] at h
  | cons q rest ih =>
      cases skip with
      | succ skip => exact (ih h).imp_right (List.mem_cons_of_mem q)
      | zero =>
          unfold collapse at h
          split at h <;> rcases List.mem_cons.mp h with rfl | hrest
          · exact Or.inl rfl
          · exact (ih hrest).imp_right (List.mem_cons_of_mem q)
          · exact Or.inr List.mem_cons_self
          · exact (ih hrest).imp_right (List.mem_cons_of_mem q)

theorem mem_expand {token : List Char} {p : Piece} {ps : List Piece} (h : p ∈ expand token ps) :
    p ≠ .globstar ∧ (p ∈ ps ∨ p ∈ token.map .char) := by
  obtain ⟨q, hq, hp⟩ := List.mem_flatMap.mp h
  by_cases hstar : q = .globstar
  · rw [if_pos hstar] at hp
    refine ⟨?_, Or.inr hp⟩
    obtain ⟨c, _, rfl⟩ := List.mem_map.mp hp
    simp
  · rw [if_neg hstar] at hp
    obtain rfl := List.mem_singleton.mp hp
    exact ⟨hstar, Or.inl hq⟩

theorem expand_globstar (token : List Char) (ps : List Piece) :
    expand token (.globstar :: ps) = token.map .char ++ expand token ps := by
  simp [expand]

theorem expand_cons {token : List Char} {p : Piece} (h : p ≠ .globstar) (ps : List Piece) :
    expand token (p :: ps) = p :: expand token ps := by
  simp [expand, h]

theorem expand_chars (token text : List Char) (ps : List Piece) :
    expand token (text.map .char ++ ps) = text.map .char ++ expand token ps := by
  induction text with
  | nil => rfl
  | cons c text ih => rw [List.map_cons, List.cons_append, expand_cons (by simp), ih]; rfl

/-! ## The placeholder in the rendered text -/

/-- The text of a placeholder stands for itself and for nothing else. -/
structure Plain (token : List Char) (encode : Char → List Char) (one : List Char) : Prop where
  ne_nil : token ≠ []
  self : ∀ c ∈ token, encode c = [c]
  free : ∀ c ∈ token, ∀ d, c ∈ encode d → c = d
  encode_ne_nil : ∀ d, encode d ≠ []
  one_ne_nil : one ≠ []
  one_free : ∀ c ∈ token, c ∉ one

section Rendered

variable {token : List Char} {encode : Char → List Char} {one two : List Char}

theorem render_chars (h : ∀ c ∈ token, encode c = [c]) :
    (token.map Piece.char).flatMap (Piece.render encode one two) = token := by
  rw [List.flatMap_map]
  change token.flatMap encode = token
  rw [List.flatMap_congr h]
  simp

theorem render_expand (h : ∀ c ∈ token, encode c = [c]) (ps : List Piece) :
    (expand token ps).flatMap (Piece.render encode one two) =
      ps.flatMap (Piece.render encode one token) := by
  rw [expand, List.flatMap_assoc]
  apply List.flatMap_congr
  intro p _
  cases p with
  | char c => simp [Piece.render]
  | star => simp [Piece.render]
  | globstar =>
      rw [if_pos rfl]
      exact render_chars h

/-- A text of such characters occurs in the rendered text where its pieces occur. -/
theorem prefix_render_iff (hp : Plain token encode one) {text : List Char}
    (htext : ∀ c ∈ text, c ∈ token) {ps : List Piece} (hps : .globstar ∉ ps) :
    text <+: ps.flatMap (Piece.render encode one two) ↔ text.map .char <+: ps := by
  induction text generalizing ps with
  | nil => simp
  | cons c text ih =>
      have hc := htext c List.mem_cons_self
      have hrest : ∀ x ∈ text, x ∈ token := fun x hx => htext x (List.mem_cons_of_mem c hx)
      cases ps with
      | nil => simp
      | cons p rest =>
          have hmem : .globstar ∉ rest := fun h => hps (List.mem_cons_of_mem p h)
          cases p with
          | globstar => exact absurd List.mem_cons_self hps
          | star =>
              obtain ⟨x, xs, hone⟩ := List.exists_cons_of_ne_nil hp.one_ne_nil
              have hx : c ≠ x := fun h => hp.one_free c hc (by rw [hone, h]; exact List.mem_cons_self)
              simp [Piece.render, hone, hx]
          | char d =>
              rw [List.map_cons, List.cons_prefix_cons, Piece.char.injEq, List.flatMap_cons,
                Piece.render]
              constructor
              · intro h
                obtain ⟨x, xs, hd⟩ := List.exists_cons_of_ne_nil (hp.encode_ne_nil d)
                rw [hd, List.cons_append, List.cons_prefix_cons] at h
                have hcd : c = d := hp.free c hc d (by rw [hd, h.1]; exact List.mem_cons_self)
                have hxs : xs = [] := by
                  have hself := hp.self c hc
                  rw [hcd, hd] at hself
                  exact (List.cons.inj hself).2
                rw [hxs, List.nil_append] at h
                exact ⟨hcd, (ih hrest hmem).mp h.2⟩
              · intro h
                obtain ⟨rfl, htail⟩ := h
                rw [hp.self c hc, List.singleton_append, List.cons_prefix_cons]
                exact ⟨rfl, (ih hrest hmem).mpr htail⟩

/-- Nor does one start inside what a piece is written as. -/
theorem not_prefix_render (hp : Plain token encode one) {p : Piece} {rest : List Piece}
    (hps : .globstar ∉ p :: rest) (hmiss : ¬ token.map .char <+: p :: rest) {u v : List Char}
    (hblock : Piece.render encode one two p = u ++ v) (hv : v ≠ []) :
    ¬ token <+: v ++ rest.flatMap (Piece.render encode one two) := by
  intro h
  obtain ⟨a, tail, htoken⟩ := List.exists_cons_of_ne_nil hp.ne_nil
  obtain ⟨x, v, rfl⟩ := List.exists_cons_of_ne_nil hv
  have ha : a ∈ token := by rw [htoken]; exact List.mem_cons_self
  have hax : a = x := by
    rw [htoken, List.cons_append, List.cons_prefix_cons] at h
    exact h.1
  have hblock_mem : a ∈ Piece.render encode one two p := by rw [hblock, hax]; simp
  cases p with
  | globstar => exact hps List.mem_cons_self
  | star => exact hp.one_free a ha hblock_mem
  | char d =>
      have had : a = d := hp.free a ha d hblock_mem
      rw [Piece.render, ← had, hp.self a ha] at hblock
      have hu : u = [] ∧ v = [] := by
        cases u with
        | nil => exact ⟨rfl, (List.cons.inj hblock).2.symm⟩
        | cons y u => simp at hblock
      have hrendered : token <+: (Piece.char d :: rest).flatMap (Piece.render encode one two) := by
        rw [hu.2] at h
        rw [List.flatMap_cons, Piece.render, ← had, hp.self a ha, hax]
        exact h
      exact hmiss ((prefix_render_iff hp (fun c hc => hc) hps).mp hrendered)

/-- Replacing the placeholder in the rendered text collapses the pieces. -/
theorem replace_rendered (hp : Plain token encode one) (two : List Char) {ps : List Piece}
    (hps : .globstar ∉ ps) :
    Text.replaceFrom token two 0 (ps.flatMap (Piece.render encode one token)) =
      (collapse (token.map .char) 0 ps).flatMap (Piece.render encode one two) := by
  induction hn : ps.length using Nat.strong_induction_on generalizing ps with
  | _ n ih =>
      have hne : token.map Piece.char ≠ [] := by simpa using hp.ne_nil
      cases ps with
      | nil => rfl
      | cons p rest =>
          by_cases hhit : token.map .char <+: p :: rest
          · obtain ⟨tail, htail⟩ := hhit
            rw [← htail] at hps hn ⊢
            have hlt : tail.length < n := by
              have hpos := List.length_pos_iff.mpr hne
              rw [List.length_append] at hn
              omega
            rw [List.flatMap_append, render_chars hp.self, Text.replaceFrom_hit hp.ne_nil,
              collapse_hit hne, List.flatMap_cons,
              ih _ hlt (fun h => hps (List.mem_append_right _ h)) rfl]
            rfl
          · have hlt : rest.length < n := by rw [← hn]; simp
            rw [collapse_miss hhit, List.flatMap_cons, List.flatMap_cons,
              Text.replaceFrom_copy (fun u v => not_prefix_render hp hps hhit),
              ih _ hlt (fun h => hps (List.mem_cons_of_mem p h)) rfl]
            cases p with
            | globstar => exact absurd List.mem_cons_self hps
            | star => rfl
            | char c => rfl

end Rendered

/-! ## Placeholders that were not written -/

/-- A start of the placeholder that the placeholder itself completes. -/
def Disturbs (token start : List Char) : Prop :=
  start ≠ [] ∧ ∃ rest, rest ≠ [] ∧ token = start ++ rest ∧ rest <+: token

/-- The starts of a placeholder that do this. -/
def starts (token : List Char) : List (List Char) :=
  ((List.range token.length).filter (fun n => 0 < n ∧ token.drop n <+: token)).map
    (fun n => token.take n)

theorem mem_starts_iff {token start : List Char} : start ∈ starts token ↔ Disturbs token start := by
  simp only [starts, List.mem_map, List.mem_filter, List.mem_range, decide_eq_true_eq]
  constructor
  · intro h
    obtain ⟨n, ⟨hlen, hpos, hpre⟩, rfl⟩ := h
    refine ⟨?_, token.drop n, ?_, (List.take_append_drop n token).symm, hpre⟩
    · rw [ne_eq, List.take_eq_nil_iff]
      rintro (h | rfl)
      · omega
      · simp at hlen
    · rw [ne_eq, List.drop_eq_nil_iff]
      omega
  · intro h
    obtain ⟨hne, rest, hrest, rfl, hpre⟩ := h
    have hpos := List.length_pos_iff.mpr hne
    have hrestpos := List.length_pos_iff.mpr hrest
    refine ⟨start.length, ⟨by rw [List.length_append]; omega, hpos, ?_⟩, List.take_left⟩
    rw [List.drop_left]
    exact hpre

/-- The pieces hold neither the placeholder nor such a start before a globstar. -/
structure Undisturbed (token : List Char) (ps : List Piece) : Prop where
  tokenless : ¬ token.map .char <:+: ps
  apart : ∀ start, Disturbs token start → ¬ start.map .char ++ [.globstar] <:+: ps

theorem Undisturbed.tail {token : List Char} {p : Piece} {ps : List Piece}
    (h : Undisturbed token (p :: ps)) : Undisturbed token ps where
  tokenless := fun hin => h.tokenless (List.infix_cons hin)
  apart := fun start hs hin => h.apart start hs (List.infix_cons hin)

/-- A text that begins the expanded pieces begins the pieces, or runs into a placeholder
that was written. -/
theorem prefix_expand {token text : List Char} {ps : List Piece}
    (h : text.map .char <+: expand token ps) (hlen : text.length ≤ token.length) :
    text.map .char <+: ps ∨ ∃ start rest post, text = start ++ rest ∧ rest ≠ [] ∧
      ps = start.map .char ++ .globstar :: post ∧ rest <+: token := by
  induction text generalizing ps with
  | nil => exact Or.inl List.nil_prefix
  | cons c text ih =>
      cases ps with
      | nil => simp [expand] at h
      | cons p ps =>
          cases p with
          | star =>
              rw [expand_cons (by simp)] at h
              simp at h
          | globstar =>
              refine Or.inr ⟨[], c :: text, ps, rfl, by simp, rfl, ?_⟩
              rw [expand_globstar] at h
              have hwithin := List.prefix_of_prefix_length_le h (List.prefix_append _ _)
                (by simpa using hlen)
              exact (List.prefix_map_iff_of_injective (fun _ _ => Piece.char.inj)).mp hwithin
          | char d =>
              rw [expand_cons (by simp), List.map_cons, List.cons_prefix_cons, Piece.char.injEq] at h
              obtain ⟨rfl, htail⟩ := h
              have hshort : text.length ≤ token.length := by simp at hlen; omega
              rcases ih htail hshort with hplain | ⟨start, rest, post, rfl, hne, rfl, hrest⟩
              · exact Or.inl (List.cons_prefix_cons.mpr ⟨rfl, hplain⟩)
              · exact Or.inr ⟨c :: start, rest, post, rfl, hne, rfl, hrest⟩

/-- The placeholder begins the expanded pieces after such a start. -/
theorem prefix_expand_of_disturbs {token start : List Char} (h : Disturbs token start)
    {ps : List Piece} (hps : start.map .char ++ [.globstar] <+: ps) :
    token.map .char <+: expand token ps := by
  obtain ⟨_, rest, _, htoken, tail, hrest⟩ := h
  obtain ⟨post, rfl⟩ := hps
  rw [List.append_assoc, expand_chars, List.singleton_append, expand_globstar]
  refine ⟨tail.map .char ++ expand token post, ?_⟩
  nth_rewrite 1 [htoken]
  nth_rewrite 2 [← hrest]
  simp only [List.map_append, List.append_assoc]

section Collapsed

variable {token : List Char}

theorem expand_miss {p : Piece} {ps : List Piece} (hp : p ≠ .globstar)
    (hapart : Undisturbed token (p :: ps)) : ¬ token.map .char <+: expand token (p :: ps) := by
  intro h
  rcases prefix_expand h le_rfl with hplain | ⟨start, rest, post, htoken, hrest, hps, hpre⟩
  · exact hapart.tokenless hplain.isInfix
  · cases start with
    | nil => exact hp (List.cons.inj hps).1
    | cons c start =>
        refine hapart.apart (c :: start) ⟨by simp, rest, hrest, htoken, hpre⟩ ⟨[], post, ?_⟩
        rw [hps]
        simp

/-- Where nothing disturbs them, the pieces come back. -/
theorem collapse_expand (hne : token ≠ []) {ps : List Piece} (h : Undisturbed token ps) :
    collapse (token.map .char) 0 (expand token ps) = ps := by
  have hmap : token.map Piece.char ≠ [] := by simpa using hne
  induction ps with
  | nil => rfl
  | cons p ps ih =>
      by_cases hp : p = .globstar
      · rw [hp, expand_globstar, collapse_hit hmap, ih h.tail]
      · have hmiss := expand_miss hp h
        rw [expand_cons hp] at hmiss ⊢
        rw [collapse_miss hmiss, ih h.tail]

end Collapsed

/-! ## The characters of the pieces -/

def chars : List Piece → List Char
  | [] => []
  | .char c :: ps => c :: chars ps
  | .star :: ps | .globstar :: ps => chars ps

theorem mem_chars {c : Char} {ps : List Piece} : c ∈ chars ps ↔ .char c ∈ ps := by
  induction ps with
  | nil => simp [chars]
  | cons p ps ih => cases p <;> simp [chars, ih]

theorem chars_append (ps qs : List Piece) : chars (ps ++ qs) = chars ps ++ chars qs := by
  induction ps with
  | nil => rfl
  | cons p ps ih => cases p <;> simp [chars, ih]

theorem chars_map (text : List Char) : chars (text.map .char) = text := by
  induction text with
  | nil => rfl
  | cons c text ih => rw [List.map_cons, chars, ih]

/-- The texts part at a place where the one has `a` and the other `b`. -/
def FirstDifference (a b : Char) (xs ys : List Char) : Prop :=
  ∃ common u v, xs = common ++ a :: u ∧ ys = common ++ b :: v

theorem FirstDifference.cons {a b : Char} {xs ys : List Char} (h : FirstDifference a b xs ys)
    (c : Char) : FirstDifference a b (c :: xs) (c :: ys) := by
  obtain ⟨common, u, v, rfl, rfl⟩ := h
  exact ⟨c :: common, u, v, rfl, rfl⟩

theorem FirstDifference.ne {a b : Char} (hab : a ≠ b) {xs ys : List Char}
    (h : FirstDifference a b xs ys) : xs ≠ ys := by
  obtain ⟨common, u, v, rfl, rfl⟩ := h
  intro heq
  exact hab (List.cons.inj (List.append_cancel_left heq)).1

/-- Two texts that part from a third at different characters are not the same. -/
theorem FirstDifference.ne_of_ne {a a' b : Char} (haa : a ≠ a') (hab : a ≠ b) (hab' : a' ≠ b)
    {xs ys zs : List Char} (h : FirstDifference a b xs ys) (h' : FirstDifference a' b xs zs) :
    ys ≠ zs := by
  obtain ⟨common, u, v, rfl, rfl⟩ := h
  obtain ⟨common', u', v', hxs, rfl⟩ := h'
  induction common generalizing common' with
  | nil =>
      intro heq
      cases common' with
      | nil => exact haa (List.cons.inj hxs).1
      | cons c common' => exact hab ((List.cons.inj hxs).1.trans (List.cons.inj heq).1.symm)
  | cons c common ih =>
      intro heq
      cases common' with
      | nil => exact hab' ((List.cons.inj hxs).1.symm.trans (List.cons.inj heq).1)
      | cons c' common' => exact ih common' (List.cons.inj hxs).2 (List.cons.inj heq).2

/-- The end of the placeholder that is left over after it was found too early parts from
the start that was taken for it, and no placeholder is found up to there. -/
structure Diverges (token : List Char) (a b : Char) : Prop where
  ne : a ≠ b
  leftover : ∀ start rest tail, start ≠ [] → rest ≠ [] → token = start ++ rest →
    token = rest ++ tail → ∃ common u v, start = common ++ a :: u ∧ tail = common ++ b :: v ∧
      ∀ y, y <:+ common ++ [b] → y ≠ [] → ¬ token <+: y ++ v ∧ ¬ y ++ v <+: token

/-- The placeholder is split in two ways when it is found too early: `token = start ++ rest`
for what was taken, `token = rest ++ tail` for what is left of the one that was written. -/
theorem diverges_of_starts {token : List Char} {a b : Char} (hab : a ≠ b)
    (h : ∀ start ∈ starts token, ∃ common u v, start = common ++ a :: u ∧
      token.drop (token.length - start.length) = common ++ b :: v ∧
      ∀ y ∈ (common ++ [b]).tails, y ≠ [] → ¬ token <+: y ++ v ∧ ¬ y ++ v <+: token) :
    Diverges token a b where
  ne := hab
  leftover := by
    intro start rest tail hstart hrest htoken htail
    have hdisturbs : Disturbs token start := ⟨hstart, rest, hrest, htoken, ⟨tail, htail.symm⟩⟩
    obtain ⟨common, u, v, hu, hv, hfree⟩ := h start (mem_starts_iff.mpr hdisturbs)
    have hlen : token.length - start.length = rest.length := by
      rw [htoken]
      simp
    rw [hlen] at hv
    nth_rewrite 1 [htail] at hv
    rw [List.drop_left] at hv
    exact ⟨common, u, v, hu, hv, fun y hy => hfree y ((List.mem_tails y _).mpr hy)⟩

/-- A stretch of pieces in which no occurrence starts is copied. -/
theorem collapse_copy {token : List Piece} {copied rest : List Piece}
    (h : ∀ u v, copied = u ++ v → v ≠ [] → ¬ token <+: v ++ rest) :
    collapse token 0 (copied ++ rest) = copied ++ collapse token 0 rest := by
  induction copied with
  | nil => rfl
  | cons p copied ih =>
      have hmiss : ¬ token <+: p :: (copied ++ rest) := h [] (p :: copied) rfl (by simp)
      rw [List.cons_append, collapse_miss hmiss,
        ih (fun u v he hv => h (p :: u) v (by rw [he]; rfl) hv), List.cons_append]

section Disturbed

variable {token : List Char} {a b : Char}

/-- Once the placeholder is found too early, the characters part. -/
theorem firstDifference_hit (hd : Diverges token a b) {start rest : List Char} {post : List Piece}
    (hstart : start ≠ []) (hrest : rest ≠ []) (htoken : token = start ++ rest)
    (hpre : rest <+: token) :
    FirstDifference a b (chars (start.map .char ++ .globstar :: post))
      (chars (collapse (token.map .char) 0
        (expand token (start.map .char ++ .globstar :: post)))) := by
  have hmap : token.map Piece.char ≠ [] := by
    rw [htoken]
    simp [hstart]
  obtain ⟨tail, htail⟩ := hpre
  obtain ⟨common, u, v, hu, hv, hfree⟩ := hd.leftover start rest tail hstart hrest htoken htail.symm
  have hexpand : expand token (start.map .char ++ .globstar :: post) =
      token.map .char ++ ((common ++ [b]).map .char ++ (v.map .char ++ expand token post)) := by
    rw [expand_chars, expand_globstar]
    nth_rewrite 1 [← htail]
    nth_rewrite 2 [htoken]
    rw [hv]
    simp
  have hcopy : ∀ x y, (common ++ [b]).map Piece.char = x ++ y → y ≠ [] →
      ¬ token.map .char <+: y ++ (v.map .char ++ expand token post) := by
    intro x y hxy hy hin
    obtain ⟨x, y, hparts, rfl, rfl⟩ := List.map_eq_append_iff.mp hxy
    have hy' : y ≠ [] := by simpa using hy
    obtain ⟨hlong, hshort⟩ := hfree y ⟨x, hparts.symm⟩ hy'
    rw [← List.append_assoc, ← List.map_append] at hin
    have hinj : Function.Injective Piece.char := fun _ _ => Piece.char.inj
    rcases List.prefix_or_prefix_of_prefix hin (List.prefix_append _ _) with h | h
    · exact hlong ((List.prefix_map_iff_of_injective hinj).mp h)
    · exact hshort ((List.prefix_map_iff_of_injective hinj).mp h)
  rw [hexpand, collapse_hit hmap, collapse_copy hcopy, chars_append, chars_map, hu]
  refine ⟨common, u ++ chars post,
    chars (collapse (token.map .char) 0 (v.map .char ++ expand token post)), ?_, ?_⟩
  · rw [List.append_assoc]
    rfl
  · rw [chars, chars_append, chars_map, List.append_assoc]
    rfl

/-- Where something disturbs them, the characters of the pieces do not come back. -/
theorem firstDifference_collapse (hd : Diverges token a b) {ps : List Piece}
    (htokenless : ¬ token.map .char <:+: ps) {start : List Char} (hdisturbs : Disturbs token start)
    (hin : start.map .char ++ [.globstar] <:+: ps) :
    FirstDifference a b (chars ps) (chars (collapse (token.map .char) 0 (expand token ps))) := by
  have hmap : token.map Piece.char ≠ [] := by
    obtain ⟨_, rest, hrest, htoken, _⟩ := hdisturbs
    rw [htoken]
    simp [hrest]
  induction ps with
  | nil => simp at hin
  | cons p ps ih =>
      have hrest : ¬ token.map .char <:+: ps := fun h => htokenless (List.infix_cons h)
      by_cases hhit : token.map .char <+: expand token (p :: ps) ∧ p ≠ .globstar
      · obtain ⟨hhit, hp⟩ := hhit
        rcases prefix_expand hhit le_rfl with hplain | ⟨start, rest, post, htoken, hne, hps, hpre⟩
        · exact absurd hplain.isInfix htokenless
        · have hstart : start ≠ [] := by
            rintro rfl
            exact hp (List.cons.inj hps).1
          rw [hps]
          exact firstDifference_hit hd hstart hne htoken hpre
      · have hlater : start.map .char ++ [.globstar] <:+: ps := by
          rcases List.infix_cons_iff.mp hin with hnow | hlater
          · refine absurd ⟨prefix_expand_of_disturbs hdisturbs hnow, ?_⟩ hhit
            rintro rfl
            obtain ⟨c, cs, hc⟩ := List.exists_cons_of_ne_nil hdisturbs.1
            rw [hc] at hnow
            simp at hnow
          · exact hlater
        have hih := ih hrest hlater
        cases p with
        | globstar =>
            rw [expand_globstar, collapse_hit hmap]
            exact hih
        | star =>
            have hmiss : ¬ token.map .char <+: .star :: expand token ps := by
              rw [← expand_cons (by simp)]
              exact fun h => hhit ⟨h, by simp⟩
            rw [expand_cons (by simp), collapse_miss hmiss]
            exact hih
        | char c =>
            have hmiss : ¬ token.map .char <+: .char c :: expand token ps := by
              rw [← expand_cons (by simp)]
              exact fun h => hhit ⟨h, by simp⟩
            rw [expand_cons (by simp), collapse_miss hmiss]
            exact hih.cons c

end Disturbed

/-! ## The language of the pieces -/

/-- `**` stands for any text, a remaining `*` for any text without `/`, and every other
character for itself. -/
inductive Denotes : List Piece → List Char → Prop where
  | nil : Denotes [] []
  | char {ps : List Piece} {w : List Char} (c : Char) (h : Denotes ps w) :
      Denotes (.char c :: ps) (c :: w)
  | star {ps : List Piece} {u w : List Char} (hu : '/' ∉ u) (h : Denotes ps w) :
      Denotes (.star :: ps) (u ++ w)
  | globstar {ps : List Piece} {w : List Char} (u : List Char) (h : Denotes ps w) :
      Denotes (.globstar :: ps) (u ++ w)

def OneLine (text : List Char) : Prop := ∀ c ∈ text, c ∉ lineTerminators

/-- On one line `.` stands for every character, and a pattern accepts what its pieces denote. -/
theorem mem_lang_iff (ps : List Piece) {w : List Char} (hw : OneLine w) :
    w ∈ (concat (ps.map Piece.term)).lang ↔ Denotes ps w := by
  induction ps generalizing w with
  | nil =>
      constructor
      · intro h
        obtain rfl : w = [] := h
        exact .nil
      · intro h
        cases h
        rfl
  | cons p ps ih =>
      rw [List.map_cons, concat_cons]
      constructor
      · intro h
        obtain ⟨u, hu, v, hv, rfl⟩ := h
        have hrest := (ih (fun c hc => hw c (List.mem_append_right u hc))).mp hv
        cases p with
        | char c =>
            obtain ⟨x, hx, rfl⟩ := hu
            obtain rfl : x = c := by simpa [CharSet.member] using hx
            exact .char x hrest
        | star =>
            refine .star ?_ hrest
            intro hslash
            exact absurd (hu '/' hslash) (by decide)
        | globstar => exact .globstar u hrest
      · intro h
        cases h with
        | char c hrest =>
            refine ⟨[c], ⟨c, by simp [CharSet.member], rfl⟩, _, ?_, rfl⟩
            exact (ih (fun x hx => hw x (List.mem_cons_of_mem c hx))).mpr hrest
        | star hu hrest =>
            rename_i u v
            refine ⟨u, ?_, v, (ih (fun x hx => hw x (List.mem_append_right u hx))).mpr hrest, rfl⟩
            intro c hc
            have hne : c ≠ '/' := fun h => hu (h ▸ hc)
            simp [CharSet.member, hne]
        | globstar u hrest =>
            rename_i v
            refine ⟨u, ?_, v, (ih (fun x hx => hw x (List.mem_append_right u hx))).mpr hrest, rfl⟩
            intro c hc
            exact decide_eq_true (hw c (List.mem_append_left v hc))

theorem plain_terms (ps : List Piece) : (ps.map Piece.term).all plain = true := by
  rw [List.all_eq_true]
  intro r hr
  obtain ⟨p, _, rfl⟩ := List.mem_map.mp hr
  cases p <;> rfl

/-- The stars may stand for nothing. -/
theorem chars_mem_lang (ps : List Piece) : chars ps ∈ (concat (ps.map Piece.term)).lang := by
  have hnothing : ∀ s reluctant, [] ∈ (RegExp.star s reluctant).lang :=
    fun _ _ _ hc => absurd hc List.not_mem_nil
  induction ps with
  | nil => rfl
  | cons p ps ih =>
      cases p with
      | char c => exact ⟨[c], ⟨c, by simp [CharSet.member], rfl⟩, chars ps, ih, rfl⟩
      | star => exact ⟨[], hnothing _ _, chars ps, ih, rfl⟩
      | globstar => exact ⟨[], hnothing _ _, chars ps, ih, rfl⟩

/-- The characters stay, in their order. -/
theorem chars_sublist {ps : List Piece} {w : List Char}
    (h : w ∈ (concat (ps.map Piece.term)).lang) : (chars ps).Sublist w := by
  induction ps generalizing w with
  | nil => exact List.nil_sublist w
  | cons p ps ih =>
      obtain ⟨u, hu, v, hv, rfl⟩ := h
      cases p with
      | char c =>
          obtain ⟨x, hx, rfl⟩ := hu
          obtain rfl : x = c := by simpa [CharSet.member] using hx
          exact (ih hv).cons_cons x
      | star => exact (ih hv).trans (List.sublist_append_right u v)
      | globstar => exact (ih hv).trans (List.sublist_append_right u v)

/-- Pieces that accept the same texts have the same characters. -/
theorem chars_eq_of_test {ps qs : List Piece} (h : ∀ path : String,
    (anchored (ps.map Piece.term)).test path = true ↔
      (anchored (qs.map Piece.term)).test path = true) : chars ps = chars qs := by
  have hlang : ∀ w, w ∈ (concat (ps.map Piece.term)).lang ↔
      w ∈ (concat (qs.map Piece.term)).lang := by
    intro w
    have hw := h (String.ofList w)
    rw [test_anchored (plain_terms ps), test_anchored (plain_terms qs), String.toList_ofList] at hw
    exact hw
  have hpq := chars_sublist ((hlang _).mp (chars_mem_lang ps))
  have hqp := chars_sublist ((hlang _).mpr (chars_mem_lang qs))
  exact hqp.antisymm hpq

/-! ## Globs as text -/

theorem pieces_append_of_head {text : List Char} {c : Char} (hc : c ≠ '*') (rest : List Char) :
    pieces (text ++ c :: rest) = pieces text ++ pieces (c :: rest) := by
  induction text using pieces.induct with
  | case1 text ih => simpa [pieces] using ih
  | case2 text hne ih =>
      have hne' : ∀ tail, text ++ c :: rest ≠ '*' :: tail := by
        intro tail he
        cases text with
        | nil => exact hc (List.cons.inj he).1
        | cons d text => exact hne text (by rw [(List.cons.inj he).1])
      rw [List.cons_append, pieces_star hne', pieces_star hne, ih]
      rfl
  | case3 d text _ hd ih =>
      rw [List.cons_append, pieces_char hd, pieces_char hd, ih]
      rfl
  | case4 => rfl

/-- A text without stars occurs in a glob where its pieces occur in those of the glob. -/
theorem infix_pieces_iff {plain : List Char} (hplain : '*' ∉ plain) (hne : plain ≠ [])
    (tail : List Piece) (htail : tail = [] ∨ tail = [.globstar]) (glob : List Char) :
    plain.map .char ++ tail <:+: pieces glob ↔ plain ++ tail.flatMap Piece.source <:+: glob := by
  constructor
  · intro h
    obtain ⟨pre, post, h⟩ := h
    refine ⟨pre.flatMap Piece.source, post.flatMap Piece.source, ?_⟩
    have hsource : (plain.map Piece.char).flatMap Piece.source = plain := by
      rw [List.flatMap_map]
      exact List.flatMap_singleton' plain
    rw [← flatMap_source glob, ← h]
    simp only [List.flatMap_append, hsource]
  · intro h
    obtain ⟨u, v, rfl⟩ := h
    obtain ⟨c, cs, rfl⟩ := List.exists_cons_of_ne_nil hne
    have hc : c ≠ '*' := fun he => hplain (by rw [he]; exact List.mem_cons_self)
    refine ⟨pieces u, pieces v, ?_⟩
    rcases htail with rfl | rfl
    · have hsplit : pieces (u ++ c :: (cs ++ v)) = pieces u ++ pieces (c :: (cs ++ v)) :=
        pieces_append_of_head hc (cs ++ v)
      rw [← List.cons_append, pieces_append_of_not_mem hplain v] at hsplit
      simpa using hsplit.symm
    · have hsplit : pieces (u ++ c :: (cs ++ '*' :: '*' :: v)) =
          pieces u ++ pieces (c :: (cs ++ '*' :: '*' :: v)) := pieces_append_of_head hc _
      rw [← List.cons_append, pieces_append_of_not_mem hplain] at hsplit
      simpa [pieces, Piece.source] using hsplit.symm

end Admissorium.Glob
