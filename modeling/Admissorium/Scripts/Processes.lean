import Admissorium.Files.Programs
import Admissorium.JavaScript.JsonParsed
import Admissorium.JavaScript.JsonOrder

/-!
# Scripts as processes

A script of `src/v020` runs in a directory, prints, and leaves an exit code. Some scripts run
others as child processes in the same tree, and throw when a child does not exit with 0.
-/
namespace Admissorium.Scripts
set_option autoImplicit false

open JavaScript Json Files

/-- What a script runs on: the host language, what it reads a numeral as, the order in which
directories are listed, and the URL of the module at a path. -/
structure Machine where
  rt : Runtime
  read : String → Option Number
  listing : Listing
  moduleUrl : String → String

/-- What a script prints on its standard output, and its exit code. -/
structure Outcome where
  stdout : String
  code : Nat
  deriving DecidableEq, Repr

/-- The script comes to its end and exits with 0. -/
def Succeeds (script : Fs Outcome) (fs : FileSystem) (stdout : String) (after : FileSystem) : Prop :=
  script fs = .ok ⟨stdout, 0⟩ after

/-- A child that runs a script between changes to files of its own, prints what the script prints
among lines of its own, and exits with 0 exactly if the script does. -/
structure Spawns (own : Set Place) (script child : Fs Outcome) (fs start : FileSystem) : Prop where
  before : Spares own fs start
  behind : Spares own (left (script start)) (left (child fs))
  passes : ∀ stdout ended, Succeeds script start stdout ended →
    ∃ above below after, Succeeds child fs (above ++ stdout ++ below) after
  fails : ∀ stdout after, Succeeds child fs stdout after →
    ∃ printed ended, Succeeds script start printed ended

/-- `execFileSync(command)`: the output of a child that exits with 0. -/
def execFileSync (command : String) (child : Fs Outcome) : Fs String := fun fs =>
  match child fs with
  | .ok ⟨stdout, 0⟩ after => .ok stdout after
  | .ok ⟨_, _ + 1⟩ after => .error (.error ("Command failed: " ++ command)) after
  | .error _ after => .error (.error ("Command failed: " ++ command)) after

/-- `import.meta.url === "file://" + process.argv[1]`, in a script that `node` was started with by
its path from the working directory. -/
def isMain (m : Machine) (script : String) : Fs Bool := do
  let cwd ← processCwd
  let argv1 := join [cwd, script]
  return m.moduleUrl argv1 == "file://" ++ argv1

/-- A script whose body only runs in the main module. -/
def whenMain (m : Machine) (script : String) (body : Fs Outcome) : Fs Outcome := do
  let main ← isMain m script
  if main then body else return ⟨"", 0⟩

/-- `JSON.parse(fs.readFileSync(path, "utf8"))`. -/
def readJson (m : Machine) (path : String) : Fs Value := do
  let text ← readFileSync path
  orThrow (Json.parse m.read text)

/-- `JSON.stringify(value, null, 2) + "\n"`. -/
def storedJson (m : Machine) (v : Value) : String := Json.prettyOf m.rt 0 v ++ "\n"

/-- The names that end in `.json`, sorted. -/
def jsonNames (names : List String) : List String :=
  (names.filter (fun name => Text.endsWith name ".json")).insertionSort textLe

def readJsonNames (m : Machine) (dir : String) : Fs (List String) := do
  let names ← readdirSync m.listing dir
  return jsonNames names

/-- A line with a token and a line with an object. -/
def printed (m : Machine) (token : String) (fields : List (String × Value)) : String :=
  token ++ "\n" ++ (Json.stringify m.rt (.obj fields)).getD "undefined" ++ "\n"

section Processes
variable {m : Machine} {command path stdout : String} {child : Fs Outcome} {fs after : FileSystem}

/-- The URL of the module is spelled like the path of the script: no link on it leads elsewhere, and
nothing in it is escaped. -/
def IsMain (m : Machine) (cwd : Place) (script : String) : Prop :=
  m.moduleUrl (join [cwdPath cwd, script]) = "file://" ++ join [cwdPath cwd, script]

theorem isMain_eq (script : String) : isMain m script fs =
    .ok (m.moduleUrl (join [cwdPath fs.cwd, script]) == "file://" ++ join [cwdPath fs.cwd, script])
      fs := rfl

theorem whenMain_of_isMain {script : String} (h : IsMain m fs.cwd script) (body : Fs Outcome) :
    whenMain m script body fs = body fs := by
  have hmain : isMain m script fs = .ok true fs := by
    rw [isMain_eq, h, beq_self_eq_true]
  rw [whenMain, run_bind_of_ok hmain, if_pos rfl]

/-- The script ends at once, and prints nothing. -/
theorem whenMain_of_not_isMain {script : String} (h : ¬ IsMain m fs.cwd script)
    (body : Fs Outcome) : whenMain m script body fs = .ok ⟨"", 0⟩ fs := by
  have hmain : isMain m script fs = .ok false fs := by
    rw [isMain_eq, beq_eq_false_iff_ne.mpr h]
  rw [whenMain, run_bind_of_ok hmain, if_neg Bool.false_ne_true]
  rfl

theorem within_whenMain {cwd : Place} {touched : Set Place} {script : String} {body : Fs Outcome}
    (h : Within cwd touched body) : Within cwd touched (whenMain m script body) :=
  within_bind (within_of_left_eq (fun _ => rfl)) (fun _ => within_ite h (within_pure _))

theorem execFileSync_eq_ok :
    execFileSync command child fs = .ok stdout after ↔ Succeeds child fs stdout after := by
  unfold execFileSync Succeeds
  split
  case h_1 printed last hrun =>
    rw [hrun]
    simp
  case h_2 printed code last hrun =>
    rw [hrun]
    simp
  case h_3 e last hrun =>
    rw [hrun]
    simp

/-- A parent leaves the tree that its child leaves. -/
theorem left_execFileSync (fs : FileSystem) :
    left (execFileSync command child fs) = left (child fs) := by
  unfold execFileSync
  split
  case h_1 hrun => rw [hrun]; rfl
  case h_2 hrun => rw [hrun]; rfl
  case h_3 hrun => rw [hrun]; rfl

/-- A child that exits with 0 has run its script to the same end. -/
theorem Spawns.of_succeeds {own : Set Place} {script : Fs Outcome} {start : FileSystem}
    (h : Spawns own script child fs start) (hrun : Succeeds child fs stdout after) :
    ∃ above printed below ended, stdout = above ++ printed ++ below ∧
      Succeeds script start printed ended ∧ Spares own ended after := by
  obtain ⟨printed, ended, hscript⟩ := h.fails stdout after hrun
  obtain ⟨above, below, last, hchild⟩ := h.passes printed ended hscript
  have hsame := hrun.symm.trans hchild
  rw [EStateM.Result.ok.injEq, Outcome.mk.injEq] at hsame
  have hbehind := h.behind
  rw [hscript, hrun] at hbehind
  exact ⟨above, printed, below, ended, hsame.1.1, hscript, hbehind⟩

/-- A child reaches what its script reaches, and files of its own. -/
theorem Spawns.framed {own touched : Set Place} {script : Fs Outcome} {start : FileSystem}
    {cwd : Place} (h : Spawns own script child fs start) (hwithin : Within cwd touched script)
    (hcwd : fs.cwd = cwd) : Framed (touched ∪ own) fs (left (child fs)) := by
  have hbefore := h.before.framed.mono (Set.subset_union_right (s := touched))
  have hscript := (hwithin start (h.before.cwd.trans hcwd)).mono (Set.subset_union_left (t := own))
  exact (hbefore.trans hscript).trans (h.behind.framed.mono Set.subset_union_right)

theorem within_execFileSync {cwd : Place} {touched : Set Place} (h : Within cwd touched child) :
    Within cwd touched (execFileSync command child) := by
  intro fs hcwd
  rw [left_execFileSync]
  exact h fs hcwd

theorem readJson_eq_ok {v : Value} : readJson m path fs = .ok v after ↔
    (∃ text, (hasNul path = false ∧ fs.text (resolve fs.cwd path) = some text) ∧
      Json.parse m.read text = .ok v) ∧ after = fs := by
  rw [readJson, run_bind_eq_ok]
  constructor
  · intro h
    obtain ⟨text, between, hread, hparse⟩ := h
    obtain ⟨hfound, rfl⟩ := readFileSync_eq_ok.mp hread
    obtain ⟨hv, rfl⟩ := orThrow_eq_ok.mp hparse
    exact ⟨⟨text, hfound, hv⟩, rfl⟩
  · intro h
    obtain ⟨⟨text, hfound, hv⟩, rfl⟩ := h
    exact ⟨text, _, readFileSync_eq_ok.mpr ⟨hfound, rfl⟩, orThrow_eq_ok.mpr ⟨hv, rfl⟩⟩

theorem looks_readJson (path : String) : Looks (readJson m path) :=
  fun _ _ _ h => (readJson_eq_ok.mp h).2

theorem within_readJson {cwd : Place} {touched : Set Place} (path : String) :
    Within cwd touched (readJson m path) :=
  within_bind (within_readFileSync path) (fun _ => within_orThrow _)

theorem within_readJsonNames {cwd : Place} {touched : Set Place} (dir : String) :
    Within cwd touched (readJsonNames m dir) :=
  within_bind (within_readdirSync _ dir) (fun _ => within_pure _)

theorem readJsonNames_eq_ok {names : List String} : readJsonNames m path fs = .ok names after ↔
    (hasNul path = false ∧ fs.node (resolve fs.cwd path) = some .dir ∧
      names = jsonNames (m.listing.names fs (resolve fs.cwd path))) ∧ after = fs := by
  rw [readJsonNames, run_bind_eq_ok]
  constructor
  · intro h
    obtain ⟨listed, between, hread, hpure⟩ := h
    obtain ⟨⟨hnul, hdir, rfl⟩, rfl⟩ := readdirSync_eq_ok.mp hread
    obtain ⟨rfl, rfl⟩ := pure_eq_ok.mp hpure
    exact ⟨⟨hnul, hdir, rfl⟩, rfl⟩
  · intro h
    obtain ⟨⟨hnul, hdir, rfl⟩, rfl⟩ := h
    exact ⟨_, _, readdirSync_eq_ok.mpr ⟨⟨hnul, hdir, rfl⟩, rfl⟩, rfl⟩

theorem mem_jsonNames {names : List String} {name : String} :
    name ∈ jsonNames names ↔ name ∈ names ∧ Text.endsWith name ".json" = true := by
  rw [jsonNames, (List.perm_insertionSort _ _).mem_iff, List.mem_filter]

/-- The sorted names of a directory are those of any list of what is in it. -/
theorem jsonNames_eq_of_mem {place : Place} {names : List String} (hnodup : names.Nodup)
    (hmem : ∀ name, name ∈ names ↔ fs.node (name :: place) ≠ none) :
    jsonNames (m.listing.names fs place) = jsonNames names := by
  have hfinite : {name | fs.node (name :: place) ≠ none}.Finite :=
    names.finite_toSet.subset (fun name hname => (hmem name).mpr hname)
  have hperm : (m.listing.names fs place).Perm names := by
    rw [List.perm_ext_iff_of_nodup (m.listing.nodup _ _) hnodup]
    intro name
    rw [m.listing.mem_names fs place hfinite, hmem]
  exact insertionSort_eq_of_perm textLe (fun _ _ _ _ => textLe_antisymm) (hperm.filter _)

/-- The sorted names of a finite directory are the same in every order it is listed in. -/
theorem jsonNames_eq_of_nodes {fs other : FileSystem} {place : Place}
    (hfinite : {name | fs.node (name :: place) ≠ none}.Finite)
    (hsame : ∀ name, fs.node (name :: place) ≠ none ↔ other.node (name :: place) ≠ none) :
    jsonNames (m.listing.names other place) = jsonNames (m.listing.names fs place) := by
  refine jsonNames_eq_of_mem (m.listing.nodup _ _) (fun name => ?_)
  rw [m.listing.mem_names fs place hfinite, hsame]

/-! ## Reading where directories were made -/

section Made
variable {dirs : List Place} {between : FileSystem} {place : Place}

theorem node_ne_none_iff {place : Place} :
    fs.node place ≠ none ↔ fs.node place = some .dir ∨ ∃ text, fs.text place = some text := by
  simp only [FileSystem.text_eq_some_iff]
  cases fs.node place with
  | none => simp
  | some node => cases node <;> simp

theorem text_of_made (h : Laid fs dirs [] between) (place : Place) :
    between.text place = fs.text place := by
  rw [h.wrote.text]
  rfl

/-- What is not above a directory that was made is a directory if it was one. -/
theorem dir_iff_of_made (h : Laid fs dirs [] between) (hapart : ∀ dir ∈ dirs, ¬ place <:+ dir) :
    between.node place = some .dir ↔ fs.node place = some .dir := by
  rw [h.dir_iff]
  refine or_iff_left (fun hmade => ?_)
  obtain ⟨dir, hdir, hsuffix⟩ := hmade
  exact hapart dir hdir hsuffix

theorem readJson_of_made (h : Laid fs dirs [] between) {v : Value} :
    readJson m path between = .ok v between ↔ readJson m path fs = .ok v fs := by
  rw [readJson_eq_ok, readJson_eq_ok, h.wrote.cwd]
  simp only [text_of_made h, and_true]

theorem jsonNames_of_made (h : Laid fs dirs [] between)
    (hfinite : {name | fs.node (name :: place) ≠ none}.Finite)
    (hapart : ∀ dir ∈ dirs, ¬ place <:+ dir) :
    jsonNames (m.listing.names between place) = jsonNames (m.listing.names fs place) := by
  refine jsonNames_eq_of_nodes hfinite (fun name => ?_)
  have hchild : between.node (name :: place) = some .dir ↔ fs.node (name :: place) = some .dir :=
    dir_iff_of_made h (fun dir hdir hsuffix =>
      hapart dir hdir ((List.suffix_cons name place).trans hsuffix))
  rw [node_ne_none_iff, node_ne_none_iff, hchild, text_of_made h]

end Made

end Processes

end Admissorium.Scripts
