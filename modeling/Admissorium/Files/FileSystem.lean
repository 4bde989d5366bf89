import Admissorium.Files.Paths
import Mathlib.Data.List.Lookmap
import Mathlib.Tactic.Basic

/-!
# File systems

A tree of directories and text files, and the calls of `node:fs` that look at it or change it.
A call that throws leaves the tree as it is. What a program does to the files is summed up by
the list of its writes: a file holds what was last written to it, and the others what they held.
Permissions, links and limits on names are left out.
-/
namespace Admissorium.Files
set_option autoImplicit false

open JavaScript

inductive Node where
  | dir
  | file (text : String)
  deriving DecidableEq, Repr

/-- Only directories have something in them. -/
structure FileSystem where
  node : Place → Option Node
  cwd : Place
  root_dir : node [] = some .dir
  parent_dir : ∀ name place, node (name :: place) ≠ none → node place = some .dir

namespace FileSystem

/-- The text of the file at a place. -/
def text (fs : FileSystem) (place : Place) : Option String :=
  match fs.node place with
  | some (.file text) => some text
  | _ => none

theorem text_eq_some_iff {fs : FileSystem} {place : Place} {text : String} :
    fs.text place = some text ↔ fs.node place = some (.file text) := by
  rw [FileSystem.text]
  cases fs.node place with
  | none => exact ⟨nofun, nofun⟩
  | some node => cases node <;> simp

theorem text_eq_none_of_dir {fs : FileSystem} {place : Place} (h : fs.node place = some .dir) :
    fs.text place = none := by
  rw [FileSystem.text, h]

/-- Nothing is inside of what is not there. -/
theorem node_child_eq_none {fs : FileSystem} {place : Place} (h : fs.node place = none)
    (name : String) : fs.node (name :: place) = none := by
  by_contra hc
  rw [fs.parent_dir name place hc] at h
  cases h

/-- The node at a place, of a list that leaves the root out. -/
def nodeOf (entries : List (Place × Node)) (place : Place) : Option Node :=
  if place = [] then some .dir else entries.lookup place

/-- The tree of a list in which every entry has its directory. -/
def ofList (entries : List (Place × Node))
    (h : ∀ entry ∈ entries, nodeOf entries entry.1.tail = some .dir) : FileSystem where
  node := nodeOf entries
  cwd := []
  root_dir := rfl
  parent_dir := by
    intro name place hplace
    rw [nodeOf, if_neg (List.cons_ne_nil _ _), Ne, List.lookup_eq_none_iff] at hplace
    simp only [not_forall, bne_iff_ne, not_not] at hplace
    obtain ⟨entry, hentry, hkey⟩ := hplace
    have hparent := h entry hentry
    rw [← hkey] at hparent
    exact hparent

/-! ## Changes -/

/-- No file is in the way of a directory. -/
def CanMake (fs : FileSystem) (place : Place) : Prop := ∀ above ∈ place.tails, fs.text above = none

instance (fs : FileSystem) (place : Place) : Decidable (fs.CanMake place) :=
  inferInstanceAs (Decidable (∀ above ∈ place.tails, fs.text above = none))

/-- The directory and those above it that are missing. -/
def makeDirs (fs : FileSystem) (place : Place) (_ : fs.CanMake place) : FileSystem where
  node := fun q => if q ∈ place.tails then some .dir else fs.node q
  cwd := fs.cwd
  root_dir := by rw [if_pos ((List.mem_tails _ _).mpr List.nil_suffix)]
  parent_dir := by
    intro name q hq
    by_cases hmade : name :: q ∈ place.tails
    · have habove : q ∈ place.tails :=
        (List.mem_tails _ _).mpr ((List.suffix_cons name q).trans ((List.mem_tails _ _).mp hmade))
      rw [if_pos habove]
    · rw [if_neg hmade] at hq
      rw [fs.parent_dir name q hq, ite_self]

/-- A file can be where a directory is above and none is in its place. -/
def CanWrite (fs : FileSystem) : Place → Prop
  | [] => False
  | name :: place => fs.node place = some .dir ∧ fs.node (name :: place) ≠ some .dir

instance (fs : FileSystem) : ∀ place, Decidable (fs.CanWrite place)
  | [] => inferInstanceAs (Decidable False)
  | name :: place =>
      inferInstanceAs (Decidable (fs.node place = some .dir ∧ fs.node (name :: place) ≠ some .dir))

def putFile (fs : FileSystem) (place : Place) (text : String) (h : fs.CanWrite place) :
    FileSystem where
  node := fun q => if q = place then some (.file text) else fs.node q
  cwd := fs.cwd
  root_dir := by
    cases place with
    | nil => exact h.elim
    | cons name place => rw [if_neg (by simp), fs.root_dir]
  parent_dir := by
    intro name q hq
    have hdir : fs.node q = some .dir := by
      by_cases hplace : name :: q = place
      · subst hplace
        exact h.1
      · rw [if_neg hplace] at hq
        exact fs.parent_dir name q hq
    have hne : q ≠ place := by
      rintro rfl
      cases q with
      | nil => exact h
      | cons _ _ => exact h.2 hdir
    rw [if_neg hne, hdir]

theorem text_makeDirs (fs : FileSystem) (place : Place) (h : fs.CanMake place) (q : Place) :
    (fs.makeDirs place h).text q = fs.text q := by
  by_cases hq : q ∈ place.tails
  · rw [h q hq, text_eq_none_of_dir]
    exact if_pos hq
  · have hnode : (fs.makeDirs place h).node q = fs.node q := if_neg hq
    rw [FileSystem.text, FileSystem.text, hnode]

theorem text_putFile (fs : FileSystem) (place : Place) (text : String) (h : fs.CanWrite place)
    (q : Place) : (fs.putFile place text h).text q = if q = place then some text else fs.text q := by
  by_cases hq : q = place
  · rw [if_pos hq]
    exact text_eq_some_iff.mpr (if_pos hq)
  · have hnode : (fs.putFile place text h).node q = fs.node q := if_neg hq
    rw [if_neg hq, FileSystem.text, FileSystem.text, hnode]

end FileSystem

/-! ## The calls -/

abbrev Fs := EStateM JsError FileSystem

/-- No path may hold the character 0. -/
def hasNul (path : String) : Bool := path.toList.contains '\x00'

def existsSync (path : String) : Fs Bool := fun fs =>
  .ok (!hasNul path && match fs.node (resolve fs.cwd path) with
    | none => false
    | some .dir => true
    | some (.file _) => !Text.endsWith path "/") fs

def mkdirError (fs : FileSystem) (path : String) : String :=
  if fs.text (resolve fs.cwd path) = none then "ENOTDIR: not a directory, mkdir '" ++ path ++ "'"
  else "EEXIST: file already exists, mkdir '" ++ path ++ "'"

/-- `mkdirSync(path, { recursive: true })`. -/
def mkdirSync (path : String) : Fs Unit := fun fs =>
  if hasNul path then .error .typeError fs
  else if h : fs.CanMake (resolve fs.cwd path) then .ok () (fs.makeDirs _ h)
  else .error (.error (mkdirError fs path)) fs

def openError (fs : FileSystem) (path : String) : String :=
  if fs.node (resolve fs.cwd path) = some .dir then
    "EISDIR: illegal operation on a directory, open '" ++ path ++ "'"
  else if fs.node (resolve fs.cwd path).tail = none then
    "ENOENT: no such file or directory, open '" ++ path ++ "'"
  else "ENOTDIR: not a directory, open '" ++ path ++ "'"

/-- `writeFileSync(path, text)`, for a path that does not end in a slash. -/
def writeFileSync (path text : String) : Fs Unit := fun fs =>
  if hasNul path then .error .typeError fs
  else if h : fs.CanWrite (resolve fs.cwd path) then .ok () (fs.putFile _ text h)
  else .error (.error (openError fs path)) fs

/-- What a call throws, a program throws. -/
def orThrow {α : Type} (result : Except JsError α) : Fs α := fun fs =>
  match result with
  | .ok a => .ok a fs
  | .error e => .error e fs

theorem orThrow_ok {α : Type} (a : α) : orThrow (.ok a) = (pure a : Fs α) := rfl

/-- The tree a call leaves, whether it returns or throws. -/
def left {α : Type} (result : EStateM.Result JsError FileSystem α) : FileSystem :=
  match result with
  | .ok _ fs => fs
  | .error _ fs => fs

theorem hasNul_eq_false_iff {path : String} : hasNul path = false ↔ Over (· ≠ '\x00') path := by
  rw [hasNul, List.contains_eq_mem, decide_eq_false_iff_not, Over]
  exact ⟨fun h c hc he => h (he ▸ hc), fun h hc => h _ hc rfl⟩

theorem hasNul_join {dir name : String} (hdir : hasNul dir = false) (hname : hasNul name = false) :
    hasNul (join [dir, name]) = false := by
  rw [hasNul_eq_false_iff] at hdir hname ⊢
  refine over_join (by decide) (by decide) ?_
  exact List.forall_mem_cons.mpr ⟨hdir, List.forall_mem_singleton.mpr hname⟩

/-! ## Runs -/

section Runs
variable {α β : Type} {x : Fs α} {f : α → Fs β} {fs after : FileSystem}

theorem run_bind_of_ok {a : α} (h : x fs = .ok a after) : (x >>= f) fs = f a after := by
  change EStateM.bind x f fs = _
  rw [EStateM.bind, h]

theorem run_bind_of_error {e : JsError} (h : x fs = .error e after) :
    (x >>= f) fs = .error e after := by
  change EStateM.bind x f fs = _
  rw [EStateM.bind, h]

theorem run_bind_eq_ok {b : β} :
    (x >>= f) fs = .ok b after ↔ ∃ a between, x fs = .ok a between ∧ f a between = .ok b after := by
  cases hx : x fs with
  | ok a between =>
      rw [run_bind_of_ok hx]
      constructor
      · exact fun h => ⟨a, between, rfl, h⟩
      · intro hcase
        obtain ⟨_, _, h, hf⟩ := hcase
        cases h
        exact hf
  | error e between =>
      rw [run_bind_of_error hx]
      constructor
      · intro h
        cases h
      · intro hcase
        obtain ⟨_, _, h, _⟩ := hcase
        cases h

theorem left_bind_pure (f : α → β) : left ((x >>= fun a => pure (f a)) fs) = left (x fs) := by
  cases hx : x fs with
  | ok a between =>
      rw [run_bind_of_ok hx]
      rfl
  | error e between =>
      rw [run_bind_of_error hx]
      rfl

end Runs

/-! ## What a run writes -/

/-- The tree after some writes, the last of them at the end of the list. -/
structure Wrote (fs : FileSystem) (writes : List (Place × String)) (after : FileSystem) : Prop where
  cwd : after.cwd = fs.cwd
  text : ∀ place, after.text place = (writes.reverse.lookup place).or (fs.text place)
  dir : ∀ place, fs.node place = some .dir → after.node place = some .dir

theorem Wrote.refl (fs : FileSystem) : Wrote fs [] fs := ⟨rfl, fun _ => rfl, fun _ h => h⟩

theorem Wrote.trans {fs between after : FileSystem} {first second : List (Place × String)}
    (h : Wrote fs first between) (h' : Wrote between second after) :
    Wrote fs (first ++ second) after where
  cwd := h'.cwd.trans h.cwd
  text := by
    intro place
    rw [h'.text, h.text, List.reverse_append, List.lookup_append, Option.or_assoc]
  dir := fun place hdir => h'.dir place (h.dir place hdir)

theorem lookup_reverse_eq_none {writes : List (Place × String)} {place : Place}
    (h : place ∉ writes.map Prod.fst) : writes.reverse.lookup place = none := by
  rw [List.lookup_eq_none_iff]
  intro write hw
  rw [bne_iff_ne]
  intro he
  rw [he] at h
  exact h (List.mem_map_of_mem (List.mem_reverse.mp hw))

/-- What is not written keeps its text. -/
theorem Wrote.text_of_not_mem {fs after : FileSystem} {writes : List (Place × String)}
    (h : Wrote fs writes after) {place : Place} (hp : place ∉ writes.map Prod.fst) :
    after.text place = fs.text place := by
  rw [h.text, lookup_reverse_eq_none hp, Option.none_or]

/-- A place holds what is written to it last. -/
theorem Wrote.text_of_last {fs after : FileSystem} (before : List (Place × String))
    {rest : List (Place × String)} {place : Place} {text : String}
    (h : Wrote fs (before ++ (place, text) :: rest) after)
    (hrest : place ∉ rest.map Prod.fst) : after.text place = some text := by
  rw [h.text, List.reverse_append, List.reverse_cons, List.append_assoc, List.lookup_append,
    lookup_reverse_eq_none hrest, Option.none_or, List.singleton_append, lookup_cons_ite, if_pos rfl, Option.some_or]

/-- What is written once has the text that was written. -/
theorem Wrote.text_of_mem {fs after : FileSystem} {writes : List (Place × String)}
    (h : Wrote fs writes after) (hnodup : (writes.map Prod.fst).Nodup) {place : Place}
    {text : String} (hw : (place, text) ∈ writes) : after.text place = some text := by
  obtain ⟨before, rest, rfl⟩ := List.append_of_mem hw
  rw [List.map_append, List.map_cons] at hnodup
  exact h.text_of_last before (List.nodup_cons.mp hnodup.of_append_right).1

/-- The place and the text of a file in a directory. -/
def placed (dir : Place) (file : String × String) : Place × String := (file.1 :: dir, file.2)

theorem nodup_placed (dir : Place) {files : List (String × String)}
    (h : (files.map Prod.fst).Nodup) : ((files.map (placed dir)).map Prod.fst).Nodup := by
  have hmap : (files.map (placed dir)).map Prod.fst = (files.map Prod.fst).map (· :: dir) := by
    rw [List.map_map, List.map_map]
    rfl
  rw [hmap]
  exact h.map fun _ _ he => (List.cons.inj he).1

section Calls
variable {fs after : FileSystem} {path : String}

theorem existsSync_run (path : String) (fs : FileSystem) :
    ∃ there, existsSync path fs = .ok there fs := ⟨_, rfl⟩

theorem mkdirSync_of_can (hnul : hasNul path = false) (h : fs.CanMake (resolve fs.cwd path)) :
    mkdirSync path fs = .ok () (fs.makeDirs _ h) := by
  rw [mkdirSync, if_neg (by rw [hnul]; exact Bool.false_ne_true), dif_pos h]

theorem dir_makeDirs_iff (fs : FileSystem) {place : Place} (h : fs.CanMake place) (q : Place) :
    (fs.makeDirs place h).node q = some .dir ↔ fs.node q = some .dir ∨ q <:+ place := by
  by_cases hq : q <:+ place
  · have hmade : (fs.makeDirs place h).node q = some .dir := if_pos ((List.mem_tails _ _).mpr hq)
    exact iff_of_true hmade (Or.inr hq)
  · have hsame : (fs.makeDirs place h).node q = fs.node q :=
      if_neg fun hmem => hq ((List.mem_tails _ _).mp hmem)
    rw [hsame]
    exact ⟨Or.inl, fun h => h.resolve_right hq⟩

theorem canMake_makeDirs_iff (fs : FileSystem) {place : Place} (h : fs.CanMake place) (q : Place) :
    (fs.makeDirs place h).CanMake q ↔ fs.CanMake q := by
  rw [FileSystem.CanMake, FileSystem.CanMake]
  simp only [fs.text_makeDirs place h]

theorem wrote_makeDirs (fs : FileSystem) {place : Place} (h : fs.CanMake place) :
    Wrote fs [] (fs.makeDirs place h) where
  cwd := rfl
  text := fun q => fs.text_makeDirs place h q
  dir := fun q hdir => (dir_makeDirs_iff fs h q).mpr (Or.inl hdir)

/-- Making a directory writes nothing, and a call that throws changes nothing. -/
theorem mkdirSync_cases (path : String) (fs : FileSystem) :
    (∃ e, mkdirSync path fs = .error e fs) ∨
      (hasNul path = false ∧ fs.CanMake (resolve fs.cwd path)) ∧
        ∃ after, mkdirSync path fs = .ok () after ∧ Wrote fs [] after := by
  by_cases hnul : hasNul path = true
  · exact Or.inl ⟨.typeError, by rw [mkdirSync, if_pos hnul]⟩
  by_cases h : fs.CanMake (resolve fs.cwd path)
  · rw [Bool.not_eq_true] at hnul
    exact Or.inr ⟨⟨hnul, h⟩, _, mkdirSync_of_can hnul h, wrote_makeDirs fs h⟩
  · exact Or.inl ⟨_, by rw [mkdirSync, if_neg hnul, dif_neg h]⟩

theorem writeFileSync_of_can {text : String} (hnul : hasNul path = false)
    (h : fs.CanWrite (resolve fs.cwd path)) :
    writeFileSync path text fs = .ok () (fs.putFile _ text h) := by
  rw [writeFileSync, if_neg (by rw [hnul]; exact Bool.false_ne_true), dif_pos h]

theorem wrote_putFile (fs : FileSystem) {place : Place} (text : String) (h : fs.CanWrite place) :
    Wrote fs [(place, text)] (fs.putFile place text h) where
  cwd := rfl
  text := by
    intro q
    rw [fs.text_putFile, List.reverse_singleton, lookup_cons_ite]
    by_cases hq : q = place
    · rw [if_pos hq, if_pos hq, Option.some_or]
    · rw [if_neg hq, if_neg hq, List.lookup_nil, Option.none_or]
  dir := by
    intro q hdir
    have hne : q ≠ place := by
      rintro rfl
      cases q with
      | nil => exact h
      | cons _ _ => exact h.2 hdir
    exact (if_neg hne).trans hdir

/-- A write changes the one file, and a call that throws changes nothing. -/
theorem writeFileSync_cases (path text : String) (fs : FileSystem) :
    (∃ e, writeFileSync path text fs = .error e fs) ∨
      (hasNul path = false ∧ fs.CanWrite (resolve fs.cwd path)) ∧
        ∃ after, writeFileSync path text fs = .ok () after ∧
          Wrote fs [(resolve fs.cwd path, text)] after := by
  by_cases hnul : hasNul path = true
  · exact Or.inl ⟨.typeError, by rw [writeFileSync, if_pos hnul]⟩
  by_cases h : fs.CanWrite (resolve fs.cwd path)
  · rw [Bool.not_eq_true] at hnul
    exact Or.inr ⟨⟨hnul, h⟩, _, writeFileSync_of_can hnul h, wrote_putFile fs text h⟩
  · exact Or.inl ⟨_, by rw [writeFileSync, if_neg hnul, dif_neg h]⟩

end Calls

/-- A step writes one file and returns, or it throws and changes nothing. -/
def WritesOne {γ : Type} (cwd : Place) (step : Fs γ) (result : γ) (write : Place × String) : Prop :=
  ∀ fs, fs.cwd = cwd → (∃ e, step fs = .error e fs) ∨
    ∃ after, step fs = .ok result after ∧ Wrote fs [write] after

/-- A loop of such steps writes its files in order, up to the step that throws. -/
theorem mapM_wrote {β γ : Type} {cwd : Place} {step : β → Fs γ} {result : β → γ}
    {write : β → Place × String} {items : List β}
    (hstep : ∀ b ∈ items, WritesOne cwd (step b) (result b) (write b)) {fs : FileSystem}
    (hcwd : fs.cwd = cwd) :
    (∃ after, items.mapM step fs = .ok (items.map result) after ∧
      Wrote fs (items.map write) after) ∨
    ∃ e done after, done <+: items ∧ items.mapM step fs = .error e after ∧
      Wrote fs (done.map write) after := by
  induction items generalizing fs with
  | nil => exact Or.inl ⟨fs, rfl, Wrote.refl fs⟩
  | cons b rest ih =>
      obtain ⟨hb, hrest⟩ := List.forall_mem_cons.mp hstep
      rw [List.mapM_cons]
      rcases hb fs hcwd with ⟨e, he⟩ | ⟨between, hok, hwrote⟩
      · exact Or.inr ⟨e, [], fs, List.nil_prefix, run_bind_of_error he, Wrote.refl fs⟩
      rw [run_bind_of_ok hok]
      rcases ih hrest (hwrote.cwd.trans hcwd) with
        ⟨after, hloop, hmore⟩ | ⟨e, done, after, hdone, hloop, hmore⟩
      · rw [run_bind_of_ok hloop]
        exact Or.inl ⟨after, rfl, hwrote.trans hmore⟩
      · rw [run_bind_of_error hloop]
        exact Or.inr ⟨e, b :: done, after, List.cons_prefix_cons.mpr ⟨rfl, hdone⟩, rfl,
          hwrote.trans hmore⟩

/-- Every step of a loop that returns has returned. -/
theorem exists_run_of_mem {β γ : Type} {step : β → Fs γ} {items : List β} {fs after : FileSystem}
    {results : List γ} (h : items.mapM step fs = .ok results after) :
    ∀ b ∈ items, ∃ result before between, step b before = .ok result between := by
  induction items generalizing fs after results with
  | nil => exact nofun
  | cons b rest ih =>
      rw [List.mapM_cons] at h
      obtain ⟨c, between, hb, h⟩ := run_bind_eq_ok.mp h
      obtain ⟨cs, last, hrest, _⟩ := run_bind_eq_ok.mp h
      exact List.forall_mem_cons.mpr ⟨⟨c, fs, between, hb⟩, ih hrest⟩

/-! ### Writes one after another -/

def writeEach : List (String × String) → Fs Unit
  | [] => pure ()
  | file :: rest => do
      writeFileSync file.1 file.2
      writeEach rest

def writesOf (fs : FileSystem) (files : List (String × String)) : List (Place × String) :=
  files.map (fun file => (resolve fs.cwd file.1, file.2))

/-- The writes before the first one that has a directory in its place. -/
def reached (fs : FileSystem) (writes : List (Place × String)) : List (Place × String) :=
  writes.takeWhile (fun write => fs.node write.1 ≠ some .dir)

/-- The path holds no character 0 and leads into a directory. -/
def Openable (fs : FileSystem) (path : String) : Prop :=
  hasNul path = false ∧ ∃ name place, resolve fs.cwd path = name :: place ∧
    fs.node place = some .dir

theorem dir_putFile_iff (fs : FileSystem) {place : Place} (text : String) (h : fs.CanWrite place)
    (q : Place) : (fs.putFile place text h).node q = some .dir ↔ fs.node q = some .dir := by
  refine ⟨fun hq => ?_, (wrote_putFile fs text h).dir q⟩
  by_cases hplace : q = place
  · have hfile : (fs.putFile place text h).node q = some (.file text) := if_pos hplace
    rw [hfile] at hq
    cases hq
  · have hsame : (fs.putFile place text h).node q = fs.node q := if_neg hplace
    rw [← hsame, hq]

theorem canWrite_iff_of_openable {fs : FileSystem} {path : String} (h : Openable fs path) :
    fs.CanWrite (resolve fs.cwd path) ↔ fs.node (resolve fs.cwd path) ≠ some .dir := by
  obtain ⟨_, name, place, hplace, hdir⟩ := h
  rw [hplace]
  exact ⟨fun h => h.2, fun h => ⟨hdir, h⟩⟩

/-- A sequence of writes does what comes before the first one that cannot be done. -/
theorem wrote_reached {files : List (String × String)} {fs : FileSystem}
    (h : ∀ file ∈ files, Openable fs file.1) :
    Wrote fs (reached fs (writesOf fs files)) (left (writeEach files fs)) := by
  induction files generalizing fs with
  | nil => exact Wrote.refl fs
  | cons file rest ih =>
      obtain ⟨hfile, hrest⟩ := List.forall_mem_cons.mp h
      have hcan := canWrite_iff_of_openable hfile
      rw [writesOf, List.map_cons, reached]
      by_cases hdir : fs.node (resolve fs.cwd file.1) = some .dir
      · rw [List.takeWhile_cons_of_neg (by simpa using hdir)]
        rcases writeFileSync_cases file.1 file.2 fs with ⟨e, he⟩ | ⟨⟨_, hw⟩, _⟩
        · have hthrow : writeEach (file :: rest) fs = .error e fs := run_bind_of_error he
          rw [hthrow]
          exact Wrote.refl fs
        · exact absurd hdir (hcan.mp hw)
      · rw [List.takeWhile_cons_of_pos (by simpa using hdir)]
        have hok : writeFileSync file.1 file.2 fs = .ok () (fs.putFile _ file.2 (hcan.mpr hdir)) :=
          writeFileSync_of_can hfile.1 (hcan.mpr hdir)
        have hrun : writeEach (file :: rest) fs =
            writeEach rest (fs.putFile _ file.2 (hcan.mpr hdir)) := run_bind_of_ok hok
        have hsame : ∀ writes, reached (fs.putFile _ file.2 (hcan.mpr hdir)) writes =
            reached fs writes := by
          intro writes
          rw [reached, reached]
          simp only [ne_eq, dir_putFile_iff]
        have hopen : ∀ other ∈ rest, Openable (fs.putFile _ file.2 (hcan.mpr hdir)) other.1 := by
          intro other hother
          obtain ⟨hnul, name, place, hplace, hparent⟩ := hrest other hother
          exact ⟨hnul, name, place, hplace, (dir_putFile_iff fs _ _ place).mpr hparent⟩
        have hmore := ih hopen
        rw [hsame] at hmore
        rw [hrun]
        exact (wrote_putFile fs file.2 (hcan.mpr hdir)).trans hmore

/-- A sequence of writes that returns has done them all. -/
theorem wrote_of_writeEach {files : List (String × String)} {fs after : FileSystem}
    (h : writeEach files fs = .ok () after) : Wrote fs (writesOf fs files) after := by
  induction files generalizing fs with
  | nil =>
      cases h
      exact Wrote.refl after
  | cons file rest ih =>
      obtain ⟨_, between, hfile, hrest⟩ := run_bind_eq_ok.mp h
      have hmore := ih hrest
      rcases writeFileSync_cases file.1 file.2 fs with ⟨e, he⟩ | ⟨_, made, hok, hwrote⟩
      · rw [he] at hfile
        cases hfile
      · rw [hok] at hfile
        cases hfile
        rw [writesOf, hwrote.cwd] at hmore
        exact hwrote.trans hmore

/-- The files there were are there still, as they were. -/
def FilesKept (fs after : FileSystem) : Prop :=
  ∀ place text, fs.text place = some text → after.text place = some text

theorem FilesKept.refl (fs : FileSystem) : FilesKept fs fs := fun _ _ h => h

theorem FilesKept.trans {fs between after : FileSystem} (h : FilesKept fs between) (h' : FilesKept between after) :
    FilesKept fs after := fun place text ht => h' place text (h place text ht)

/-- Writes to new places keep what there was. -/
theorem Wrote.filesKept {fs after : FileSystem} {writes : List (Place × String)}
    (h : Wrote fs writes after) (hnew : ∀ write ∈ writes, fs.text write.1 = none) :
    FilesKept fs after := by
  intro place text ht
  have hp : place ∉ writes.map Prod.fst := by
    intro hmem
    obtain ⟨write, hw, rfl⟩ := List.mem_map.mp hmem
    rw [hnew write hw] at ht
    cases ht
  rw [h.text_of_not_mem hp, ht]

end Admissorium.Files
