import Admissorium.Scripts.ReadinessGate

/-!
# Histories of runs

Commands are run one after another, each at its own times and on the tree the one before left,
whether that came to its end or threw. However many there are and in whatever order, what is changed
in the directory they are run in is below its reports, and a snapshot is only written again by a run
of its script at what that takes for the same time.
-/

namespace Admissorium.Scripts
set_option autoImplicit false

open JavaScript Json Files

/-- One of the eight scripts, the bundle or the readiness artifact, with its times. -/
inductive Command where
  | script (step : {step : String × String // step ∈ STEPS}) (clocks : Clocks)
  | bundle (clocks : Clocks) (stamp generated : Instant)
  | readiness (clocks : Clocks) (stamp : Instant)

/-- What `npm` does depends on the times its scripts are run at. -/
def Command.run (m : Machine) (npm : Clocks → String → Fs Outcome) : Command → Fs Unit
  | .script step clocks => npm clocks step.1.1 >>= fun _ => pure ()
  | .bundle clocks stamp generated =>
      writeReportBundle m (npm clocks) stamp generated >>= fun _ => pure ()
  | .readiness clocks stamp => compileReadinessArtifact m (npm clocks) stamp >>= fun _ => pure ()

def Command.reach : Command → Reach
  | .script step clocks => stepReach clocks step.1.1
  | .bundle clocks stamp _ => bundleReach clocks stamp
  | .readiness clocks stamp => readinessReach clocks stamp

section History
variable {m : Machine} {npm : Clocks → String → Fs Outcome} {clocks : Clocks} {stamp : Instant}
  {cwd : Place} {own : Set Place} {fs : FileSystem}

theorem within_compileReadinessArtifact (h : RunsScripts m clocks cwd own (npm clocks))
    (hnamed : Named cwd) : Within cwd ((readinessReach clocks stamp).places cwd ∪ own)
      (compileReadinessArtifact m (npm clocks) stamp) := by
  have htasks (gates : List Gate) : Within cwd ((readinessReach clocks stamp).places cwd ∪ own)
      (runTasks (readinessTasks m (cwdPath cwd) stamp gates)) :=
    (within_stores (stores_readinessTasks hnamed)).mono
      ((Reach.mono (List.cons_subset.mpr ⟨List.mem_cons_self, List.nil_subset _⟩)
        (List.cons_subset.mpr ⟨List.mem_cons_self, List.nil_subset _⟩)).trans Set.subset_union_left)
  have hgates : Within cwd ((readinessReach clocks stamp).places cwd ∪ own)
      ((gateIds.zip STEPS).mapM (runGate (npm clocks))) :=
    (within_gates h).mono (Set.union_subset_union_left own
      (Reach.mono (List.subset_cons_self _ _) (List.subset_cons_self _ _)))
  exact within_processCwd_bind (within_bind hgates (fun steps =>
    within_bind (within_assertFileGate _ _ _ _) (fun bundle =>
      within_bind (htasks (steps ++ [bundle])) (fun _ => within_pure _))))

theorem within_command (h : ∀ clocks, RunsScripts m clocks cwd own (npm clocks))
    (hnamed : Named cwd) (command : Command) :
    Within cwd (command.reach.places cwd ∪ own) (command.run m npm) := by
  cases command with
  | script step clocks =>
      exact within_bind (within_step (h clocks) step.1 step.2) (fun _ => within_pure ())
  | bundle clocks stamp generated =>
      exact within_bind (within_writeReportBundle (h clocks) hnamed) (fun _ => within_pure ())
  | readiness clocks stamp =>
      exact within_bind (within_compileReadinessArtifact (h clocks) hnamed) (fun _ => within_pure ())

/-- Whatever is run, and however it ends: what is not below the reports and none of npm's own files
has the text it had, every directory is still one, and what the earlier commands filed is only changed
by a later one, a snapshot by a run of its script at what that takes for the same time and a current
report by a run that reports under its name. -/
theorem history_contained (h : ∀ clocks, RunsScripts m clocks fs.cwd own (npm clocks))
    (hnamed : Named fs.cwd) (earlier later : List Command) :
    (∀ place, place ∉ own → ¬ ("reports" :: fs.cwd) <:+ place →
      (runAll (Command.run m npm) (earlier ++ later) fs).text place = fs.text place) ∧
    (∀ place, fs.node place = some .dir →
      (runAll (Command.run m npm) (earlier ++ later) fs).node place = some .dir) ∧
    (∀ kind stamp file, (∀ command ∈ later, ∀ u, (kind, u) ∈ command.reach.snapshots →
        ¬ SnapshotKind.SameStamp kind stamp u) →
      (runAll (Command.run m npm) (earlier ++ later) fs).text
          (file :: snapshotPlace fs.cwd kind stamp) =
        (runAll (Command.run m npm) earlier fs).text (file :: snapshotPlace fs.cwd kind stamp)) ∧
    ∀ name, (∀ command ∈ later, name ∉ command.reach.names) →
      (runAll (Command.run m npm) (earlier ++ later) fs).text (currentPlace fs.cwd name) =
        (runAll (Command.run m npm) earlier fs).text (currentPlace fs.cwd name) := by
  have hwithin : ∀ command ∈ earlier ++ later, Within fs.cwd (command.reach.places fs.cwd ∪ own)
      (command.run m npm) := fun command _ => within_command h hnamed command
  have hframed := framed_runAll hwithin rfl
  refine ⟨fun place hspared hplace => ?_, hframed.dir, fun kind stamp file hapart => ?_,
    fun name hapart => ?_⟩
  · refine hframed.text place (fun hmem => ?_)
    obtain ⟨command, _, hreach | hown⟩ := Set.mem_iUnion₂.mp hmem
    · exact hplace (reports_suffix_of_places hreach)
    · exact hspared hown
  · have hinside : fs.cwd <:+ file :: snapshotPlace fs.cwd kind stamp :=
      List.suffix_append [file, kind.dirName stamp, "history", "reports"] fs.cwd
    refine text_runAll_append hwithin rfl (fun command hcommand hmem => ?_)
    rcases hmem with hmem | hown
    · obtain ⟨u, hreach, hsame⟩ := snapshot_mem_iff.mp hmem
      exact hapart command hcommand u hreach hsame
    · exact (h (Classical.arbitrary Clocks)).not_mem hinside hown
  · refine text_runAll_append hwithin rfl (fun command hcommand hmem => ?_)
    rcases hmem with hmem | hown
    · exact hapart command hcommand (currentPlace_mem_iff.mp hmem)
    · exact (h (Classical.arbitrary Clocks)).not_mem (suffix_currentPlace fs.cwd name) hown

/-- A bundle leaves the candidates and the snapshot of the artifact before it. -/
theorem history_contained_readyTree :
    (runAll (Command.run readyMachine (unloggedNpm readyMachine)) ([.readiness readyClocks epoch] ++
        [.bundle readyClocks epoch epoch]) readyTree).text
      ["secret-bearing.example.json", "candidates", "v020", "fixtures"] = some publishText ∧
    (runAll (Command.run readyMachine (unloggedNpm readyMachine)) ([.readiness readyClocks epoch] ++
        [.bundle readyClocks epoch epoch]) readyTree).text
      ("manifest.json" :: snapshotPlace [] .readiness epoch) =
    (runAll (Command.run readyMachine (unloggedNpm readyMachine)) [.readiness readyClocks epoch]
      readyTree).text ("manifest.json" :: snapshotPlace [] .readiness epoch) := by
  have hnamed : Named readyTree.cwd := List.forall_mem_nil _
  have hkinds : SnapshotKind.readiness ∉ (bundleReach readyClocks epoch).snapshots.map Prod.fst := by
    decide
  obtain ⟨houtside, _, hsnapshots, _⟩ := @history_contained readyMachine
    (unloggedNpm readyMachine) ∅ readyTree (fun _ => runsScripts_unloggedNpm _ _ _) hnamed
    [.readiness readyClocks epoch] [.bundle readyClocks epoch epoch]
  refine ⟨houtside _ (Set.notMem_empty _) (by decide), hsnapshots _ _ _ ?_⟩
  rw [List.forall_mem_singleton]
  exact fun u hmem => absurd (List.mem_map_of_mem hmem) hkinds

end History

end Admissorium.Scripts
