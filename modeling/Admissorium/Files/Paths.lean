import Admissorium.JavaScript.Text

/-!
# Paths

A place is reached from the root of a tree by a list of names. A path is a text: names and dots
between slashes, followed from the root or from a working directory. `path.join` puts texts
together and normalises them, which does not change the place they lead to.
-/
namespace Admissorium.Files
set_option autoImplicit false

open JavaScript

/-- The names on the way from the root, the last one first. -/
abbrev Place := List String

/-- One step along a path. Nothing is above the root. -/
def descend (place : Place) (segment : String) : Place :=
  if segment = "" ∨ segment = "." then place
  else if segment = ".." then place.tail
  else segment :: place

def follow (start : Place) (path : String) : Place := (Text.split path '/').foldl descend start

def isAbsolute (path : String) : Bool := Text.startsWith path "/"

/-- Where a path leads, read from a working directory. -/
def resolve (cwd : Place) (path : String) : Place :=
  follow (if isAbsolute path then [] else cwd) path

/-! ## `path.normalize` and `path.join` -/

/-- What `..` does to the segments so far; above the start it is kept where it may be. -/
def climb (above : Bool) : List String → List String
  | [] => if above then [".."] else []
  | top :: rest =>
      if top = ".." then (if above then ".." :: top :: rest else top :: rest) else rest

/-- One step of normalisation, the last segment first. -/
def push (above : Bool) (stack : List String) (segment : String) : List String :=
  if segment = "" ∨ segment = "." then stack
  else if segment = ".." then climb above stack
  else segment :: stack

def normalSegments (above : Bool) (path : String) : List String :=
  ((Text.split path '/').foldl (push above) []).reverse

/-- The text of a normal form, from what stands between its first and its last slash. -/
def layOut (absolute trailing : Bool) (body : String) : String :=
  if body = "" then (if absolute then "/" else if trailing then "./" else ".")
  else (if absolute then "/" else "") ++ body ++ (if trailing then "/" else "")

def normalize (path : String) : String :=
  if path = "" then "."
  else layOut (isAbsolute path) (Text.endsWith path "/")
    ("/".intercalate (normalSegments (!isAbsolute path) path))

def join (parts : List String) : String :=
  let parts := parts.filter (fun part => part ≠ "")
  if parts = [] then "." else normalize ("/".intercalate parts)

/-! ## Splitting at slashes -/

theorem split_append (a b : String) :
    Text.split (a ++ "/" ++ b) '/' = Text.split a '/' ++ Text.split b '/' := Text.split_append '/' a b

theorem split_intercalate {parts : List String} (hne : parts ≠ []) :
    Text.split ("/".intercalate parts) '/' = parts.flatMap (fun part => Text.split part '/') :=
  Text.split_intercalate hne '/'

theorem slash_not_mem_splitOn (chars : List Char) : ∀ segment ∈ chars.splitOn '/', '/' ∉ segment := by
  induction chars with
  | nil => simp
  | cons c rest ih =>
      rw [List.splitOn_cons_eq_if_modifyHead]
      by_cases h : c = '/'
      · rw [if_pos (beq_iff_eq.mpr h)]
        intro segment hs
        rcases List.mem_cons.mp hs with rfl | hs
        · simp
        · exact ih segment hs
      · rw [if_neg (fun hc => h (beq_iff_eq.mp hc))]
        obtain ⟨first, others, hsplit⟩ := List.exists_cons_of_ne_nil (List.splitOn_ne_nil '/' rest)
        rw [hsplit] at ih ⊢
        rw [List.modifyHead_cons]
        intro segment hs
        rcases List.mem_cons.mp hs with rfl | hs
        · have hfirst := ih first List.mem_cons_self
          rw [List.mem_cons, not_or]
          exact ⟨fun he => h he.symm, hfirst⟩
        · exact ih segment (List.mem_cons_of_mem _ hs)

theorem slash_not_mem_split {path segment : String} (h : segment ∈ Text.split path '/') :
    '/' ∉ segment.toList := by
  obtain ⟨chars, hc, rfl⟩ := List.mem_map.mp h
  rw [String.toList_ofList]
  exact slash_not_mem_splitOn _ _ hc

/-! ## Following a path -/

theorem follow_append (start : Place) (a b : String) :
    follow start (a ++ "/" ++ b) = follow (follow start a) b := by
  rw [follow, split_append, List.foldl_append]
  rfl

/-- A name of its own: not empty, no dots, no slash. -/
structure IsName (name : String) : Prop where
  nonempty : name ≠ ""
  not_dot : name ≠ "."
  not_dots : name ≠ ".."
  no_slash : '/' ∉ name.toList

instance (name : String) : Decidable (IsName name) :=
  decidable_of_iff (name ≠ "" ∧ name ≠ "." ∧ name ≠ ".." ∧ '/' ∉ name.toList)
    ⟨fun h => ⟨h.1, h.2.1, h.2.2.1, h.2.2.2⟩,
      fun h => ⟨h.nonempty, h.not_dot, h.not_dots, h.no_slash⟩⟩

theorem descend_name {name : String} (h : IsName name) (place : Place) :
    descend place name = name :: place := by
  rw [descend, if_neg (fun hc => hc.elim h.nonempty h.not_dot), if_neg h.not_dots]

theorem follow_name {name : String} (h : IsName name) (start : Place) :
    follow start name = name :: start := by
  rw [follow, Text.split_eq_singleton h.no_slash, List.foldl_cons, List.foldl_nil, descend_name h]

theorem follow_intercalate {segments : List String} (hne : segments ≠ [])
    (h : ∀ s ∈ segments, '/' ∉ s.toList) (start : Place) :
    follow start ("/".intercalate segments) = segments.foldl descend start := by
  have hsplit : segments.flatMap (fun s => Text.split s '/') = segments := by
    clear hne
    induction segments with
    | nil => rfl
    | cons s rest ih =>
        rw [List.forall_mem_cons] at h
        rw [List.flatMap_cons, Text.split_eq_singleton h.1, ih h.2]
        rfl
  rw [follow, split_intercalate hne, hsplit]

/-! ## Normalising keeps the place -/

/-- What the stack holds while a path is normalised. -/
def Kept (above : Bool) (stack : List String) : Prop :=
  ∀ s ∈ stack, s ≠ "" ∧ s ≠ "." ∧ (above = false → s ≠ "..") ∧ '/' ∉ s.toList

theorem kept_climb {above : Bool} {stack : List String} (h : Kept above stack) :
    Kept above (climb above stack) := by
  have hkeep : ∀ rest, Kept true rest → Kept true (".." :: rest) := fun rest hrest =>
    List.forall_mem_cons.mpr ⟨⟨by decide, by decide, nofun, by decide⟩, hrest⟩
  cases stack with
  | nil =>
      cases above with
      | true => exact hkeep [] h
      | false => exact h
  | cons top rest =>
      rw [climb]
      by_cases htop : top = ".."
      · rw [if_pos htop]
        cases above with
        | true => exact hkeep _ h
        | false => exact h
      · rw [if_neg htop]
        exact (List.forall_mem_cons.mp h).2

theorem kept_push {above : Bool} {stack : List String} (h : Kept above stack) {segment : String}
    (hs : '/' ∉ segment.toList) : Kept above (push above stack segment) := by
  unfold push
  by_cases hempty : segment = "" ∨ segment = "."
  · rw [if_pos hempty]
    exact h
  rw [if_neg hempty]
  rw [not_or] at hempty
  by_cases hup : segment = ".."
  · rw [if_pos hup]
    exact kept_climb h
  · rw [if_neg hup]
    exact List.forall_mem_cons.mpr ⟨⟨hempty.1, hempty.2, fun _ => hup, hs⟩, h⟩

section Place
variable {above : Bool} {start : Place} (hstart : above = false → start = [])
include hstart

theorem descend_climb {stack : List String} (h : Kept above stack) :
    (climb above stack).reverse.foldl descend start = (stack.reverse.foldl descend start).tail := by
  cases stack with
  | nil =>
      cases above with
      | true => rfl
      | false => rw [hstart rfl]; rfl
  | cons top rest =>
      obtain ⟨⟨hne, hdot, habove, _⟩, _⟩ := List.forall_mem_cons.mp h
      rw [climb]
      by_cases htop : top = ".."
      · rw [if_pos htop]
        cases above with
        | true =>
            rw [if_pos rfl, List.reverse_cons, List.foldl_append]
            rfl
        | false => exact absurd htop (habove rfl)
      · have hdescend : ∀ place : Place, descend place top = top :: place := fun place => by
          rw [descend, if_neg (fun hc => hc.elim hne hdot), if_neg htop]
        rw [if_neg htop, List.reverse_cons, List.foldl_append, List.foldl_cons, List.foldl_nil,
          hdescend, List.tail_cons]

/-- A normalised stack leads where the segments lead. -/
theorem descend_push {stack : List String} (h : Kept above stack) (segment : String) :
    (push above stack segment).reverse.foldl descend start =
      descend (stack.reverse.foldl descend start) segment := by
  rw [push, descend]
  by_cases hempty : segment = "" ∨ segment = "."
  · rw [if_pos hempty, if_pos hempty]
  rw [if_neg hempty, if_neg hempty]
  by_cases hup : segment = ".."
  · rw [if_pos hup, if_pos hup, descend_climb hstart h]
  · rw [if_neg hup, if_neg hup, List.reverse_cons, List.foldl_append, List.foldl_cons,
      List.foldl_nil, descend, if_neg hempty, if_neg hup]

theorem descend_pushes {segments : List String} (hs : ∀ s ∈ segments, '/' ∉ s.toList)
    {stack : List String} (h : Kept above stack) :
    Kept above (segments.foldl (push above) stack) ∧
      (segments.foldl (push above) stack).reverse.foldl descend start =
        segments.foldl descend (stack.reverse.foldl descend start) := by
  induction segments generalizing stack with
  | nil => exact ⟨h, rfl⟩
  | cons s rest ih =>
      rw [List.forall_mem_cons] at hs
      obtain ⟨hkept, hplace⟩ := ih hs.2 (kept_push h hs.1)
      refine ⟨hkept, ?_⟩
      rw [List.foldl_cons, hplace, descend_push hstart h]
      rfl

theorem descend_normalSegments (path : String) :
    Kept above (normalSegments above path) ∧
      (normalSegments above path).foldl descend start = follow start path := by
  have hnil : Kept above [] := fun _ h => absurd h List.not_mem_nil
  obtain ⟨hkept, hplace⟩ := descend_pushes hstart (fun s hs => slash_not_mem_split hs) hnil
    
  exact ⟨fun s hs => hkept s (List.mem_reverse.mp hs), hplace⟩

end Place

/-! ### The text of a normalised path -/

theorem follow_empty (start : Place) : follow start "" = start := rfl

theorem follow_slash_append (start : Place) (path : String) :
    follow start ("/" ++ path) = follow start path := by
  have h := follow_append start "" path
  rw [follow_empty] at h
  exact h

theorem follow_append_slash (start : Place) (path : String) :
    follow start (path ++ "/") = follow start path := by
  have h := follow_append start path ""
  rw [follow_empty, String.append_empty] at h
  exact h

theorem isAbsolute_append {a : String} (h : a ≠ "") (b : String) :
    isAbsolute (a ++ b) = isAbsolute a := by
  obtain ⟨c, rest, hc⟩ := List.exists_cons_of_ne_nil (fun hl => h (String.toList_eq_nil_iff.mp hl))
  rw [isAbsolute, isAbsolute, Text.startsWith, Text.startsWith, String.toList_append, hc]
  rfl

theorem not_isAbsolute_of_slash {path : String} (h : '/' ∉ path.toList) :
    isAbsolute path = false := by
  cases hc : path.toList with
  | nil => rw [isAbsolute, Text.startsWith, hc]; rfl
  | cons c rest =>
      rw [isAbsolute, Text.startsWith, hc]
      rw [hc, List.mem_cons, not_or] at h
      change ('/' == c && true) = false
      rw [Bool.and_true, beq_eq_false_iff_ne]
      exact h.1

/-- A text of segments between slashes is relative, and empty when there are none. -/
theorem intercalate_kept {above : Bool} {segments : List String} (h : Kept above segments)
    (hne : segments ≠ []) :
    "/".intercalate segments ≠ "" ∧ isAbsolute ("/".intercalate segments) = false := by
  obtain ⟨s, rest, rfl⟩ := List.exists_cons_of_ne_nil hne
  obtain ⟨⟨hs, _, _, hslash⟩, _⟩ := List.forall_mem_cons.mp h
  have hsplit : ∃ more, "/".intercalate (s :: rest) = s ++ more := by
    cases rest with
    | nil => exact ⟨"", by rw [String.intercalate_singleton, String.append_empty]⟩
    | cons next rest =>
        exact ⟨_, by rw [String.intercalate_cons_cons, String.append_assoc]⟩
  obtain ⟨more, hmore⟩ := hsplit
  rw [hmore]
  refine ⟨fun he => hs ?_, (isAbsolute_append hs more).trans (not_isAbsolute_of_slash hslash)⟩
  exact (String.append_eq_empty_iff.mp he).1

theorem isAbsolute_slash_append (path : String) : isAbsolute ("/" ++ path) = true :=
  isAbsolute_append (by decide) path

/-- What stands around the body of a normalised path does not change where it leads. -/
theorem follow_around {start : Place} {body : String} (absolute trailing : Bool) :
    follow start ((if absolute then "/" else "") ++ body ++ (if trailing then "/" else "")) =
      follow start body := by
  have hafter : ∀ text, follow start (text ++ (if trailing then "/" else "")) = follow start text := by
    intro text
    cases trailing with
    | true => exact follow_append_slash start text
    | false => exact congrArg (follow start) (String.append_empty (s := text))
  rw [hafter]
  cases absolute with
  | true => exact follow_slash_append start body
  | false => exact congrArg (follow start) (String.empty_append (s := body))

theorem isAbsolute_around {body : String} (hne : body ≠ "") (hbody : isAbsolute body = false)
    (absolute trailing : Bool) :
    isAbsolute ((if absolute then "/" else "") ++ body ++ (if trailing then "/" else "")) =
      absolute := by
  cases absolute with
  | true =>
      rw [if_pos rfl, String.append_assoc]
      exact isAbsolute_slash_append _
  | false =>
      rw [if_neg Bool.false_ne_true, String.empty_append, isAbsolute_append hne, hbody]

theorem layOut_empty (absolute trailing : Bool) : isAbsolute (layOut absolute trailing "") = absolute ∧
    ∀ start, follow start (layOut absolute trailing "") = start := by
  cases absolute <;> cases trailing <;> exact ⟨by decide, fun _ => rfl⟩

/-- A path and its normal form lead to the same place. -/
theorem resolve_normalize (cwd : Place) (path : String) :
    resolve cwd (normalize path) = resolve cwd path := by
  by_cases hpath : path = ""
  · subst hpath
    rfl
  have hstart : (!isAbsolute path) = false → (if isAbsolute path then [] else cwd) = [] := by
    intro h
    rw [Bool.not_eq_false'] at h
    rw [if_pos h]
  obtain ⟨hkept, hplace⟩ := descend_normalSegments hstart path
  rw [normalize, if_neg hpath]
  by_cases hne : normalSegments (!isAbsolute path) path = []
  · rw [hne] at hplace
    obtain ⟨habsolute, hfollow⟩ := layOut_empty (isAbsolute path) (Text.endsWith path "/")
    rw [hne, String.intercalate_nil, resolve, resolve, habsolute, hfollow, ← hplace]
    rfl
  · obtain ⟨hbody, hrelative⟩ := intercalate_kept hkept hne
    rw [layOut, if_neg hbody, resolve, resolve, isAbsolute_around hbody hrelative, follow_around,
      follow_intercalate hne (fun s hs => (hkept s hs).2.2.2), hplace]

/-- A name in a directory is one step below the place of the directory. -/
theorem resolve_join (cwd : Place) {dir name : String} (hdir : dir ≠ "") (hname : IsName name) :
    resolve cwd (join [dir, name]) = name :: resolve cwd dir := by
  have hparts : [dir, name].filter (fun part => part ≠ "") = [dir, name] := by
    simp [hdir, hname.nonempty]
  have htext : "/".intercalate [dir, name] = dir ++ "/" ++ name := by
    rw [String.intercalate_cons_cons, String.intercalate_singleton]
  rw [join, hparts, if_neg (List.cons_ne_nil _ _), htext, resolve_normalize, resolve, resolve,
    String.append_assoc, isAbsolute_append hdir, ← String.append_assoc, follow_append,
    follow_name hname]

/-- However it is put together, a path that ends in a name leads to something of that name. -/
theorem resolve_join_concat (cwd : Place) (dirs : List String) {name : String} (hname : IsName name) :
    ∃ place, resolve cwd (join (dirs ++ [name])) = name :: place := by
  have hparts : (dirs ++ [name]).filter (fun part => part ≠ "") =
      dirs.filter (fun part => part ≠ "") ++ [name] := by
    simp [List.filter_append, hname.nonempty]
  have hne : dirs.filter (fun part => part ≠ "") ++ [name] ≠ [] :=
    List.append_ne_nil_of_right_ne_nil _ (List.cons_ne_nil _ _)
  rw [join, hparts, if_neg hne, resolve_normalize, resolve, follow, split_intercalate hne,
    List.flatMap_append, List.flatMap_singleton, Text.split_eq_singleton hname.no_slash,
    List.foldl_append, List.foldl_cons, List.foldl_nil, descend_name hname]
  exact ⟨_, rfl⟩

theorem layOut_ne_empty (absolute trailing : Bool) (body : String) :
    layOut absolute trailing body ≠ "" := by
  unfold layOut
  by_cases hbody : body = ""
  · rw [if_pos hbody]
    clear hbody
    revert absolute trailing
    decide
  · rw [if_neg hbody]
    intro he
    exact hbody (String.append_eq_empty_iff.mp (String.append_eq_empty_iff.mp he).1).2

/-- A normal form is never empty. -/
theorem normalize_ne_empty (path : String) : normalize path ≠ "" := by
  unfold normalize
  by_cases hpath : path = ""
  · rw [if_pos hpath]
    decide
  rw [if_neg hpath]
  exact layOut_ne_empty _ _ _

theorem join_ne_empty (parts : List String) : join parts ≠ "" := by
  rw [join]
  split
  · decide
  · exact normalize_ne_empty _

/-! ## The characters of a path -/

/-- All characters of a text are good. -/
def Over (good : Char → Prop) (text : String) : Prop := ∀ c ∈ text.toList, good c

section Over
variable {good : Char → Prop}

theorem over_append {a b : String} : Over good (a ++ b) ↔ Over good a ∧ Over good b := by
  rw [Over, String.toList_append, List.forall_mem_append]
  exact Iff.rfl

theorem over_splitOn {chars : List Char} (h : ∀ c ∈ chars, good c) :
    ∀ segment ∈ chars.splitOn '/', ∀ c ∈ segment, good c := by
  induction chars with
  | nil => simp
  | cons c rest ih =>
      obtain ⟨hc, hrest⟩ := List.forall_mem_cons.mp h
      have htail := ih hrest
      rw [List.splitOn_cons_eq_if_modifyHead]
      by_cases hslash : c = '/'
      · rw [if_pos (beq_iff_eq.mpr hslash)]
        exact List.forall_mem_cons.mpr ⟨nofun, htail⟩
      · obtain ⟨first, others, hsplit⟩ := List.exists_cons_of_ne_nil (List.splitOn_ne_nil '/' rest)
        rw [if_neg (fun he => hslash (beq_iff_eq.mp he)), hsplit, List.modifyHead_cons]
        rw [hsplit] at htail
        obtain ⟨hfirst, hothers⟩ := List.forall_mem_cons.mp htail
        exact List.forall_mem_cons.mpr ⟨List.forall_mem_cons.mpr ⟨hc, hfirst⟩, hothers⟩

theorem over_split {path : String} (h : Over good path) :
    ∀ segment ∈ Text.split path '/', Over good segment := by
  intro segment hs
  obtain ⟨chars, hchars, rfl⟩ := List.mem_map.mp hs
  rw [Over, String.toList_ofList]
  exact over_splitOn h chars hchars

theorem over_push (hdot : good '.') {above : Bool} {stack : List String}
    (h : ∀ s ∈ stack, Over good s) {segment : String} (hs : Over good segment) :
    ∀ s ∈ push above stack segment, Over good s := by
  have hup : Over good ".." := by
    intro c hc
    obtain rfl : c = '.' := by simpa using hc
    exact hdot
  unfold push
  split
  · exact h
  split
  · cases stack with
    | nil =>
        cases above with
        | true => exact List.forall_mem_singleton.mpr hup
        | false => exact nofun
    | cons top rest =>
        rw [climb]
        split
        · split
          · exact List.forall_mem_cons.mpr ⟨hup, h⟩
          · exact h
        · exact (List.forall_mem_cons.mp h).2
  · exact List.forall_mem_cons.mpr ⟨hs, h⟩

theorem over_normalSegments (hdot : good '.') (above : Bool) {path : String} (h : Over good path) :
    ∀ s ∈ normalSegments above path, Over good s := by
  have hfold : ∀ (segments stack : List String), (∀ s ∈ segments, Over good s) →
      (∀ s ∈ stack, Over good s) → ∀ s ∈ segments.foldl (push above) stack, Over good s := by
    intro segments
    induction segments with
    | nil => exact fun _ _ hstack => hstack
    | cons segment rest ih =>
        intro stack hsegments hstack
        obtain ⟨hsegment, hrest⟩ := List.forall_mem_cons.mp hsegments
        exact ih _ hrest (over_push hdot hstack hsegment)
  intro s hs
  exact hfold _ [] (over_split h) nofun s (List.mem_reverse.mp hs)

theorem over_intercalate (hslash : good '/') {parts : List String} (h : ∀ s ∈ parts, Over good s) :
    Over good ("/".intercalate parts) := by
  have hseparator : Over good "/" := by
    intro c hc
    obtain rfl : c = '/' := by simpa using hc
    exact hslash
  induction parts with
  | nil => exact nofun
  | cons part rest ih =>
      obtain ⟨hpart, hrest⟩ := List.forall_mem_cons.mp h
      cases rest with
      | nil =>
          rw [String.intercalate_singleton]
          exact hpart
      | cons next rest =>
          rw [String.intercalate_cons_cons, over_append, over_append]
          exact ⟨⟨hpart, hseparator⟩, ih hrest⟩

/-- A normal form has no characters of its own but dots and slashes. -/
theorem over_normalize (hdot : good '.') (hslash : good '/') {path : String} (h : Over good path) :
    Over good (normalize path) := by
  have hends : ∀ keep : Bool, Over good (if keep then "/" else "") := by
    intro keep c hc
    cases keep with
    | true =>
        obtain rfl : c = '/' := by simpa using hc
        exact hslash
    | false => exact absurd hc (by simp)
  have hbody := over_intercalate hslash (over_normalSegments hdot (!isAbsolute path) h)
  rw [normalize, layOut]
  split
  · intro c hc
    obtain rfl : c = '.' := by simpa using hc
    exact hdot
  split
  · intro c hc
    revert hc
    cases isAbsolute path <;> cases Text.endsWith path "/" <;> intro hc
    all_goals
      simp at hc
      rcases hc with rfl | rfl <;> assumption
  · exact over_append.mpr ⟨over_append.mpr ⟨hends _, hbody⟩, hends _⟩

theorem over_join (hdot : good '.') (hslash : good '/') {parts : List String}
    (h : ∀ part ∈ parts, Over good part) : Over good (join parts) := by
  rw [join]
  split
  · intro c hc
    obtain rfl : c = '.' := by simpa using hc
    exact hdot
  · refine over_normalize hdot hslash (over_intercalate hslash (fun part hpart => ?_))
    exact h part (List.mem_of_mem_filter hpart)

end Over

end Admissorium.Files
