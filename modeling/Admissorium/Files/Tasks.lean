import Admissorium.Files.Programs

/-!
# Tasks

A program that stores files makes directories and writes files, one task after another. Where
every file is written into a directory that was made before, and no file is in the way of a
directory, what the tasks need of a tree is known before they start: the directories can be made
and no directory is in the place of a file.
-/
namespace Admissorium.Files
set_option autoImplicit false

inductive FileTask where
  | make (path : String)
  | write (path text : String)

def FileTask.run : FileTask → Fs Unit
  | make path => mkdirSync path
  | write path text => writeFileSync path text

def runTasks : List FileTask → Fs Unit
  | [] => pure ()
  | task :: rest => do
      task.run
      runTasks rest

/-- The directories that are made, in order. -/
def madeBy (cwd : Place) : List FileTask → List Place
  | [] => []
  | .make path :: rest => resolve cwd path :: madeBy cwd rest
  | .write _ _ :: rest => madeBy cwd rest

/-- The files that are written, in order. -/
def writtenBy (cwd : Place) : List FileTask → List (Place × String)
  | [] => []
  | .make _ :: rest => writtenBy cwd rest
  | .write path text :: rest => (resolve cwd path, text) :: writtenBy cwd rest

/-- Every file is written into a directory that is there: one of those made before. -/
def Prepared (cwd : Place) : List Place → List FileTask → Prop
  | _, [] => True
  | made, .make path :: rest =>
      hasNul path = false ∧ Prepared cwd (made ++ [resolve cwd path]) rest
  | made, .write path _ :: rest =>
      hasNul path = false ∧ (∃ name, ∃ dir ∈ made, resolve cwd path = name :: dir) ∧
        Prepared cwd made rest

/-- No file is in the way of a directory. -/
def Apart (written : List (Place × String)) (made : List Place) : Prop :=
  ∀ write ∈ written, ∀ dir ∈ made, ¬ write.1 <:+ dir

/-- What a list of tasks can be seen to keep to without a tree. -/
structure Tidy (cwd : Place) (tasks : List FileTask) : Prop where
  prepared : Prepared cwd [] tasks
  apart : Apart (writtenBy cwd tasks) (madeBy cwd tasks)

/-- What tidy tasks need of a tree. -/
structure Roomy (fs : FileSystem) (tasks : List FileTask) : Prop where
  make : ∀ dir ∈ madeBy fs.cwd tasks, fs.CanMake dir
  free : ∀ write ∈ writtenBy fs.cwd tasks, fs.node write.1 ≠ some .dir

section Tasks
variable {fs between after : FileSystem} {tasks : List FileTask} {made : List Place}
  {written : List (Place × String)}

/-- A tree that has been worked on can take a directory if it could before. -/
theorem Laid.canMake_iff (h : Laid fs made written between) {place : Place}
    (hapart : ∀ write ∈ written, ¬ write.1 <:+ place) : between.CanMake place ↔ fs.CanMake place := by
  have hsame : ∀ above ∈ place.tails, between.text above = fs.text above := by
    intro above habove
    refine h.wrote.text_of_not_mem (fun hmem => ?_)
    obtain ⟨write, hwrite, rfl⟩ := List.mem_map.mp hmem
    exact hapart write hwrite ((List.mem_tails _ _).mp habove)
  constructor
  · intro hcan above habove
    rw [← hsame above habove]
    exact hcan above habove
  · intro hcan above habove
    rw [hsame above habove]
    exact hcan above habove

/-- What the tasks leave: the directories and the files they are for, and nothing else. -/
theorem laid_of_runTasks (h : Laid fs made written between)
    (hrun : runTasks tasks between = .ok () after) :
    Laid fs (made ++ madeBy fs.cwd tasks) (written ++ writtenBy fs.cwd tasks) after := by
  induction tasks generalizing made written between with
  | nil =>
      obtain ⟨_, rfl⟩ := pure_eq_ok.mp hrun
      rw [madeBy, writtenBy, List.append_nil, List.append_nil]
      exact h
  | cons task rest ih =>
      obtain ⟨_, middle, htask, hrest⟩ := run_bind_eq_ok.mp hrun
      cases task with
      | make path =>
          obtain ⟨_, hcan, rfl⟩ := mkdirSync_eq_ok.mp htask
          have hlaid := ih (h.makeDirs hcan) hrest
          rw [h.wrote.cwd, List.append_assoc] at hlaid
          exact hlaid
      | write path text =>
          obtain ⟨_, hcan, rfl⟩ := writeFileSync_eq_ok.mp htask
          have hlaid := ih (h.putFile text hcan) hrest
          rw [h.wrote.cwd, List.append_assoc written] at hlaid
          exact hlaid

/-- Tasks that are prepared and apart are done exactly where there is room. -/
theorem exists_runTasks_iff (h : Laid fs made written between) (hprepared : Prepared fs.cwd made tasks)
    (hapart : Apart (written ++ writtenBy fs.cwd tasks) (made ++ madeBy fs.cwd tasks)) :
    (∃ after, runTasks tasks between = .ok () after) ↔ Roomy fs tasks := by
  induction tasks generalizing made written between with
  | nil =>
      refine iff_of_true ⟨between, rfl⟩ ⟨?_, ?_⟩
      · exact List.forall_mem_nil _
      · exact List.forall_mem_nil _
  | cons task rest ih =>
      cases task with
      | make path =>
          obtain ⟨hnul, hrest⟩ := hprepared
          have hcan : between.CanMake (resolve fs.cwd path) ↔ fs.CanMake (resolve fs.cwd path) := by
            refine h.canMake_iff (fun write hwrite => ?_)
            exact hapart write (List.mem_append_left _ hwrite) _
              (List.mem_append_right _ List.mem_cons_self)
          have hmore : Apart (written ++ writtenBy fs.cwd rest)
              (made ++ [resolve fs.cwd path] ++ madeBy fs.cwd rest) := by
            rw [List.append_assoc]
            exact hapart
          constructor
          · intro hdone
            obtain ⟨after, hrun⟩ := hdone
            obtain ⟨_, middle, htask, hloop⟩ := run_bind_eq_ok.mp hrun
            obtain ⟨_, hmake, rfl⟩ := mkdirSync_eq_ok.mp htask
            have hroomy := (ih (h.makeDirs hmake) (h.wrote.cwd ▸ hrest) (h.wrote.cwd ▸ hmore)).mp
              ⟨after, hloop⟩
            rw [h.wrote.cwd] at hmake
            exact ⟨List.forall_mem_cons.mpr ⟨hcan.mp hmake, hroomy.make⟩, hroomy.free⟩
          · intro hroomy
            obtain ⟨hhead, htail⟩ := List.forall_mem_cons.mp hroomy.make
            have hmake := hcan.mpr hhead
            rw [← h.wrote.cwd] at hmake
            obtain ⟨after, hloop⟩ := (ih (h.makeDirs hmake) (h.wrote.cwd ▸ hrest)
              (h.wrote.cwd ▸ hmore)).mpr ⟨htail, hroomy.free⟩
            exact ⟨after, run_bind_eq_ok.mpr ⟨(), _, mkdirSync_eq_ok.mpr ⟨hnul, hmake, rfl⟩, hloop⟩⟩
      | write path text =>
          obtain ⟨hnul, ⟨name, dir, hdir, hplace⟩, hrest⟩ := hprepared
          have hthere : between.node dir = some .dir :=
            (h.dir_iff dir).mpr (Or.inr ⟨dir, hdir, List.suffix_refl dir⟩)
          have hfree : between.node (resolve fs.cwd path) ≠ some .dir ↔
              fs.node (resolve fs.cwd path) ≠ some .dir := by
            refine not_congr ((h.dir_iff _).trans (or_iff_left (fun hmade => ?_)))
            obtain ⟨other, hother, hsuffix⟩ := hmade
            exact hapart (resolve fs.cwd path, text)
              (List.mem_append_right _ List.mem_cons_self) other
              (List.mem_append_left _ hother) hsuffix
          have hmore : Apart (written ++ [(resolve fs.cwd path, text)] ++ writtenBy fs.cwd rest)
              (made ++ madeBy fs.cwd rest) := by
            rw [List.append_assoc]
            exact hapart
          have hcan : between.CanWrite (resolve between.cwd path) ↔
              fs.node (resolve fs.cwd path) ≠ some .dir := by
            rw [h.wrote.cwd, ← hfree, hplace]
            exact and_iff_right hthere
          constructor
          · intro hdone
            obtain ⟨after, hrun⟩ := hdone
            obtain ⟨_, middle, htask, hloop⟩ := run_bind_eq_ok.mp hrun
            obtain ⟨_, hwrite, rfl⟩ := writeFileSync_eq_ok.mp htask
            have hroomy := (ih (h.putFile text hwrite) hrest (h.wrote.cwd ▸ hmore)).mp ⟨after, hloop⟩
            exact ⟨hroomy.make, List.forall_mem_cons.mpr ⟨hcan.mp hwrite, hroomy.free⟩⟩
          · intro hroomy
            obtain ⟨hhead, htail⟩ := List.forall_mem_cons.mp hroomy.free
            have hwrite := hcan.mpr hhead
            obtain ⟨after, hloop⟩ := (ih (h.putFile text hwrite) hrest (h.wrote.cwd ▸ hmore)).mpr
              ⟨hroomy.make, htail⟩
            exact ⟨after, run_bind_eq_ok.mpr
              ⟨(), _, writeFileSync_eq_ok.mpr ⟨hnul, hwrite, rfl⟩, hloop⟩⟩

theorem roomy_of_runTasks (htidy : Tidy fs.cwd tasks) (hrun : runTasks tasks fs = .ok () after) :
    Roomy fs tasks ∧ Laid fs (madeBy fs.cwd tasks) (writtenBy fs.cwd tasks) after :=
  ⟨(exists_runTasks_iff (Laid.refl fs) htidy.prepared htidy.apart).mp ⟨after, hrun⟩,
    laid_of_runTasks (Laid.refl fs) hrun⟩

theorem runTasks_append (first second : List FileTask) :
    runTasks (first ++ second) = runTasks first >>= fun _ => runTasks second := by
  induction first with
  | nil => rw [List.nil_append, runTasks, pure_bind]
  | cons task rest ih => rw [List.cons_append, runTasks, runTasks, ih, bind_assoc]

/-- Tasks change nothing but the files they write. -/
theorem within_runTasks {cwd : Place} {touched : Set Place} (tasks : List FileTask)
    (h : ∀ write ∈ writtenBy cwd tasks, write.1 ∈ touched) : Within cwd touched (runTasks tasks) := by
  induction tasks with
  | nil => exact within_pure ()
  | cons task rest ih =>
      cases task with
      | make path => exact within_bind (within_mkdirSync path) (fun _ => ih h)
      | write path text =>
          obtain ⟨hhead, htail⟩ := List.forall_mem_cons.mp h
          exact within_bind (within_writeFileSync hhead) (fun _ => ih htail)

end Tasks

end Admissorium.Files
