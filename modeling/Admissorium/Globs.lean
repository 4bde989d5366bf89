import Admissorium.Perimeter

/-!
# Globs, and compiling them by text replacement

A glob is a sequence of pieces: `**`, a remaining `*`, and characters for
themselves. A glob compiler here is a chain of text replacements ending in
`new RegExp`. The lemmas say what replacing `**` and replacing `*` do to a glob cut
into its pieces.
-/
namespace Admissorium.Glob
set_option autoImplicit false

open JavaScript RegExp

inductive Piece where
  | char (c : Char)
  | star
  | globstar
  deriving DecidableEq, Repr

def pieces : List Char → List Piece
  | '*' :: '*' :: rest => .globstar :: pieces rest
  | '*' :: rest => .star :: pieces rest
  | c :: rest => .char c :: pieces rest
  | [] => []

/-- What a piece stands for. -/
def Piece.term : Piece → RegExp
  | char c => .set (.char c)
  | star => Zone.segment
  | globstar => .star .dot false

/-- The pattern a faithful compiler produces between the anchors. -/
def matcher (glob : String) : List RegExp := (pieces glob.toList).map Piece.term

/-- The terms of a piece when `**` is compiled to `two`. -/
def Piece.terms (two : List RegExp) : Piece → List RegExp
  | .char c => [.set (.char c)]
  | .star => [Zone.segment]
  | .globstar => two

theorem flatMap_terms (ps : List Piece) :
    ps.flatMap (Piece.terms [.star .dot false]) = ps.map Piece.term := by
  rw [List.map_eq_flatMap]
  congr 1
  funext p
  cases p <;> rfl

theorem pieces_star {rest : List Char} (h : ∀ tail, rest ≠ '*' :: tail) :
    pieces ('*' :: rest) = .star :: pieces rest := by
  rw [pieces]
  exact fun tail he => h tail he

theorem pieces_char {c : Char} (h : c ≠ '*') (rest : List Char) :
    pieces (c :: rest) = .char c :: pieces rest := by
  rw [pieces]
  · exact fun _ he _ => h he
  · exact h

/-- The characters of a glob's pieces are those of the glob other than stars. -/
theorem char_mem_pieces {glob : List Char} {c : Char} (h : Piece.char c ∈ pieces glob) :
    c ≠ '*' ∧ c ∈ glob := by
  induction glob using pieces.induct with
  | case1 rest ih =>
      simp only [pieces, List.mem_cons, reduceCtorEq, false_or] at h
      exact ⟨(ih h).1, by simp [(ih h).2]⟩
  | case2 rest hr ih =>
      rw [pieces_star hr] at h
      simp only [List.mem_cons, reduceCtorEq, false_or] at h
      exact ⟨(ih h).1, by simp [(ih h).2]⟩
  | case3 d rest _ hd ih =>
      rw [pieces_char hd] at h
      rcases List.mem_cons.mp h with he | ht
      · cases he
        exact ⟨hd, by simp⟩
      · exact ⟨(ih ht).1, by simp [(ih ht).2]⟩
  | case4 => cases h

theorem pieces_append_of_not_mem {plain : List Char} (h : '*' ∉ plain) (rest : List Char) :
    pieces (plain ++ rest) = plain.map Piece.char ++ pieces rest := by
  induction plain with
  | nil => rfl
  | cons c plain ih =>
      have hc : c ≠ '*' := fun he => h (by simp [he])
      rw [List.cons_append, pieces_char hc, ih (fun hm => h (by simp [hm]))]
      rfl

theorem pieces_of_not_mem {plain : List Char} (h : '*' ∉ plain) :
    pieces plain = plain.map Piece.char := by
  simpa [pieces] using pieces_append_of_not_mem h []

/-- The text of a piece in the glob itself. -/
def Piece.source : Piece → List Char
  | .char c => [c]
  | .star => ['*']
  | .globstar => ['*', '*']

theorem flatMap_source (glob : List Char) : (pieces glob).flatMap Piece.source = glob := by
  induction glob using pieces.induct with
  | case1 rest ih =>
      rw [pieces, List.flatMap_cons, ih]
      rfl
  | case2 rest hr ih =>
      rw [pieces_star hr, List.flatMap_cons, ih]
      rfl
  | case3 c rest _ hc ih =>
      rw [pieces_char hc, List.flatMap_cons, ih]
      rfl
  | case4 => rfl

/-! ## Zones -/

/-- The names of the zone hold no star, so its pattern means what it says. -/
def Starless : Zone → Prop
  | .directory dir => '*' ∉ dir.toList
  | .file name => '*' ∉ name.toList
  | .entries dir part => '*' ∉ dir.toList ∧ '*' ∉ part.toList ∧ part ≠ ""

instance (z : Zone) : Decidable (Starless z) :=
  match z with
  | .directory dir => inferInstanceAs (Decidable ('*' ∉ dir.toList))
  | .file name => inferInstanceAs (Decidable ('*' ∉ name.toList))
  | .entries dir part =>
      inferInstanceAs (Decidable ('*' ∉ dir.toList ∧ '*' ∉ part.toList ∧ part ≠ ""))

def charPieces (text : String) : List Piece := text.toList.map Piece.char

/-- The pieces a zone is written with. -/
def zonePieces : Zone → List Piece
  | .directory dir => charPieces (dir ++ "/") ++ [.globstar]
  | .file name => charPieces name
  | .entries dir part => charPieces (dir ++ "/") ++ .star :: (charPieces part ++ [.star])

theorem starless_slash {dir : String} (h : '*' ∉ dir.toList) : '*' ∉ (dir ++ "/").toList := by
  rw [String.toList_append, List.mem_append]
  intro hcase
  rcases hcase with hm | hm
  · exact h hm
  · revert hm
    decide

/-- Cutting a zone's pattern gives back the pieces it is written with. -/
theorem pieces_pattern {z : Zone} (h : Starless z) : pieces z.pattern.toList = zonePieces z := by
  cases z with
  | directory dir =>
      have hp : (Zone.directory dir).pattern = dir ++ "/" ++ "**" := by
        simp only [Zone.pattern, String.append_assoc]
        rfl
      rw [hp, String.toList_append, pieces_append_of_not_mem (starless_slash h)]
      rfl
  | file name => exact pieces_of_not_mem h
  | entries dir part =>
      obtain ⟨hdir, hpart, hne⟩ := h
      have hp : (Zone.entries dir part).pattern = dir ++ "/" ++ ("*" ++ (part ++ "*")) := by
        simp only [Zone.pattern, String.append_assoc]
        rfl
      have hl : ("*" ++ (part ++ "*")).toList = '*' :: (part.toList ++ ['*']) := by
        rw [String.toList_append, String.toList_append]
        rfl
      have hstar : ∀ tail, part.toList ++ ['*'] ≠ '*' :: tail := by
        intro tail he
        cases hc : part.toList with
        | nil => exact hne (String.toList_eq_nil_iff.mp hc)
        | cons c rest =>
            rw [hc, List.cons_append] at he
            exact hpart (by rw [hc, (List.cons.inj he).1]; simp)
      rw [hp, String.toList_append, hl, pieces_append_of_not_mem (starless_slash hdir),
        pieces_star hstar, pieces_append_of_not_mem hpart]
      rfl

theorem map_term_chars (text : String) :
    (charPieces text).map Piece.term = Zone.chars text := by
  simp only [charPieces, List.map_map, Zone.chars]
  rfl

/-- A zone's pattern means the zone's matcher. -/
theorem matcher_pattern {z : Zone} (h : Starless z) : matcher z.pattern = z.matcher := by
  rw [matcher, pieces_pattern h]
  cases z with
  | directory dir =>
      rw [zonePieces, List.map_append, map_term_chars]
      rfl
  | file name => exact map_term_chars name
  | entries dir part =>
      simp only [zonePieces, List.map_append, List.map_cons, map_term_chars, Zone.matcher,
        Piece.term, List.append_assoc, List.cons_append, List.nil_append]
      rfl

/-! ## The links of a chain -/

/-- Write each piece by a text of its own. -/
def Piece.render (char : Char → List Char) (one two : List Char) : Piece → List Char
  | .char c => char c
  | .star => one
  | .globstar => two

/-- An encoding that leaves stars alone and writes no further ones. -/
structure StarFree (encode : Char → List Char) : Prop where
  star : encode '*' = ['*']
  ne_nil : ∀ c, encode c ≠ []
  free : ∀ c, c ≠ '*' → '*' ∉ encode c

theorem starFree_singleton : StarFree (fun c => [c]) where
  star := rfl
  ne_nil := by simp
  free := by
    intro c hc hm
    exact hc (List.mem_singleton.mp hm).symm

/-- Replacing `**` in an encoded glob writes each globstar anew. -/
theorem replace_globstar {encode : Char → List Char} (he : StarFree encode)
    (two glob : List Char) :
    Text.replaceFrom ['*', '*'] two 0 (glob.flatMap encode) =
      (pieces glob).flatMap (Piece.render encode ['*'] two) := by
  induction glob using pieces.induct with
  | case1 rest ih =>
      have hne : ['*', '*'] ≠ [] := by simp
      have hhit := Text.replaceFrom_hit hne two (rest.flatMap encode)
      simp only [List.flatMap_cons, he.star, pieces, Piece.render]
      rw [← ih, ← hhit]
      rfl
  | case2 rest hr ih =>
      have hmiss : ¬ ['*', '*'] <+: '*' :: rest.flatMap encode := by
        intro hcase
        obtain ⟨t, ht⟩ := hcase
        have htail := (List.cons.inj ht).2
        cases rest with
        | nil => cases htail
        | cons d rest =>
            have hd : d ≠ '*' := fun h => hr rest (by rw [h])
            cases hd' : encode d with
            | nil => exact he.ne_nil d hd'
            | cons x xs =>
                rw [List.flatMap_cons, hd', List.cons_append] at htail
                exact he.free d hd (by rw [hd', (List.cons.inj htail).1]; simp)
      rw [pieces_star hr, List.flatMap_cons, List.flatMap_cons, he.star, List.singleton_append,
        Text.replaceFrom_miss hmiss, ih]
      rfl
  | case3 c rest _ hc ih =>
      rw [pieces_char hc, List.flatMap_cons, List.flatMap_cons,
        Text.replaceFrom_free (he.free c hc), ih]
      rfl
  | case4 => rfl

/-- Rewriting the rendered text character by character rewrites the renderings. -/
theorem flatMap_render (f : Char → List Char) (encode : Char → List Char) (one two : List Char)
    (ps : List Piece) :
    (ps.flatMap (Piece.render encode one two)).flatMap f =
      ps.flatMap (Piece.render (fun c => (encode c).flatMap f) (one.flatMap f) (two.flatMap f)) := by
  rw [List.flatMap_assoc]
  congr 1
  funext p
  cases p <;> rfl

/-- Replacing `*` reaches the stars left over, and those inside what `**` became. -/
theorem replace_star {encode : Char → List Char} (he : StarFree encode)
    (one two glob : List Char) :
    Text.replaceFrom ['*'] one 0 ((pieces glob).flatMap (Piece.render encode ['*'] two)) =
      (pieces glob).flatMap
        (Piece.render encode one (two.flatMap (fun c => if c = '*' then one else [c]))) := by
  rw [Text.replaceFrom_char, flatMap_render]
  apply List.flatMap_congr
  intro p hp
  cases p with
  | char c =>
      have hfree := he.free c (char_mem_pieces hp).1
      have hcopy : ∀ x ∈ encode c, (if x = '*' then one else [x]) = [x] := by
        intro x hx
        rw [if_neg]
        rintro rfl
        exact hfree hx
      change (encode c).flatMap _ = encode c
      rw [List.flatMap_congr hcopy]
      simp
  | star => simp [Piece.render]
  | globstar => rfl

end Admissorium.Glob
