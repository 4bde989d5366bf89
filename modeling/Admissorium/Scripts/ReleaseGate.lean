import Admissorium.Scripts.ReadinessArtifact
import Admissorium.Scripts.StepNeeds

/-!
# The release gate

Where the two scripts that only run as the main module are it, the report bundle comes to its end
exactly when its tree is ready for the eight steps, the current reports can be read and the bundle can
be stored. All of that is told of the tree before the first step, for what is stored changes nothing
about it.
-/
namespace Admissorium.Scripts
set_option autoImplicit false

open JavaScript Json Files Signing ValidateObject Reports.JsonReport App.WebhookIntake

/-! ## The writer as tasks -/

def reportTasks (rt : Runtime) (call : ReportCall) : List FileTask :=
  [.make call.currentDir, .make call.historyDir, .write call.currentPath (call.serialized rt),
    .write call.historyPath (call.serialized rt), .write call.manifestPath (call.manifestText rt)]

section Writer
variable {rt : Runtime} {call : ReportCall} {cwd : Place} {name : String} {kind : SnapshotKind}
  {reach : Reach} {fs : FileSystem} {stamp generated : Instant}

theorem writeJsonReport_eq (hvalid : validName call.name = true)
    (haccepted : assertReportOnly call.report = .ok ()) :
    writeJsonReport rt call = runTasks (reportTasks rt call) >>= fun _ => pure (call.result rt) := by
  rw [writeJsonReport, hvalid, if_neg (by decide), haccepted, orThrow_ok]
  simp only [reportTasks, runTasks, FileTask.run, bind_assoc, pure_bind]
  rfl

/-- No flag of a bundle is on. -/
theorem accepted_bundleReport (steps : List StepResult) (current : List CurrentReport) :
    assertReportOnly (.obj (bundleReport steps current)) = .ok () := rfl

/-- A call with a name and a run writes its three files into the two directories of both. -/
theorem stores_reportTasks (hvalid : validName call.name = true) (hname : call.name = name)
    (hcurrent : resolve cwd call.currentDir = currentDir cwd)
    (hhistory : resolve cwd call.historyDir = snapshotPlace cwd kind stamp)
    (hnul : hasNul call.currentDir = false) (hnul' : hasNul call.historyDir = false) :
    Stores cwd name kind stamp [name ++ ".json", "manifest.json"] (reportTasks rt call) := by
  obtain ⟨hjson, hjsonNul⟩ := json_of_validName hvalid
  have hreport : resolve cwd call.currentPath = (name ++ ".json") :: currentDir cwd := by
    rw [← hcurrent, ← hname]
    exact resolve_join cwd (join_ne_empty _) hjson
  have hkept : resolve cwd call.historyPath = (name ++ ".json") :: snapshotPlace cwd kind stamp := by
    rw [← hhistory, ← hname]
    exact resolve_join cwd (join_ne_empty _) hjson
  have hmanifest : resolve cwd call.manifestPath =
      "manifest.json" :: snapshotPlace cwd kind stamp := by
    rw [← hhistory]
    exact resolve_join cwd (join_ne_empty _) isName_manifestJson
  have hmade : madeBy cwd (reportTasks rt call) = [currentDir cwd, snapshotPlace cwd kind stamp] := by
    simp only [reportTasks, madeBy, hcurrent, hhistory]
  constructor
  · refine ⟨hnul, hnul', hasNul_join hnul hjsonNul, ⟨_, _, ?_, hreport⟩,
      hasNul_join hnul' hjsonNul, ⟨_, _, ?_, hkept⟩, hasNul_join hnul' (by decide),
      ⟨_, _, ?_, hmanifest⟩, trivial⟩
    · rw [hcurrent]
      exact List.mem_cons_self
    · rw [hhistory]
      exact List.mem_cons_of_mem _ List.mem_cons_self
    · rw [hhistory]
      exact List.mem_cons_of_mem _ List.mem_cons_self
  · rw [hmade, List.forall_mem_cons, List.forall_mem_singleton]
    exact ⟨Or.inl rfl, Or.inr (Or.inr rfl)⟩
  · rw [hmade]
    exact List.mem_cons_self
  · rw [hmade]
    exact List.mem_cons_of_mem _ List.mem_cons_self
  · simp only [reportTasks, writtenBy, hreport, hkept, hmanifest, List.map_cons, List.map_nil]
    rfl

theorem stores_bundleCall (h : Named fs.cwd) (steps : List StepResult)
    (current : List CurrentReport) :
    Stores fs.cwd bundleName .reportBundle stamp [bundleName ++ ".json", "manifest.json"]
      (reportTasks rt (bundleCall (cwdPath fs.cwd) stamp generated steps current)) := by
  refine stores_reportTasks validName_bundleName rfl (currentPlace_bundleCall h)
    (historyPlace_bundleCall h) (hasNul_rootCurrent h) (hasNul_join_of_forall ?_)
  simp only [List.forall_mem_cons, List.not_mem_nil, false_imp_iff, implies_true, and_true]
  exact ⟨hasNul_cwdPath h, by decide, by decide, hasNul_dirName .reportBundle stamp⟩

/-- What is stored for a run needs the room for it that was there before. -/
theorem ends_of_stores {files : List String} {tasks : List FileTask}
    (hname : name ∈ reach.names) (hsnapshot : (kind, stamp) ∈ reach.snapshots)
    (h : Stores fs.cwd name kind stamp files tasks) :
    Ends (Filed reach fs) (runTasks tasks) (RoomFor fs name kind stamp files) where
  iff := by
    intro tree htree
    rw [← htree.cwd] at h
    rw [← htree.roomFor_iff, ← h.run_iff.1]
    constructor
    · intro hends
      obtain ⟨_, after, hrun⟩ := hends
      exact ⟨after, hrun⟩
    · intro hends
      obtain ⟨after, hrun⟩ := hends
      exact ⟨(), after, hrun⟩
  keeps := by
    intro tree _ after htree hrun
    rw [← htree.cwd] at h
    have hfiled := filed_of_stores h hrun
    exact htree.trans (hfiled.mono (List.cons_subset.mpr ⟨hname, List.nil_subset _⟩)
      (List.cons_subset.mpr ⟨hsnapshot, List.nil_subset _⟩))

end Writer

/-! ## The current reports -/

section Current
variable {m : Machine} {reach : Reach} {fs after : FileSystem}

/-- No directory has the name of a current report. -/
def ReportsReadable (fs : FileSystem) : Prop :=
  ∀ name, Text.endsWith name ".json" = true → fs.node (name :: currentDir fs.cwd) ≠ some .dir

theorem Filed.reportsReadable_iff (h : Filed reach fs after) :
    ReportsReadable after ↔ ReportsReadable fs := by
  unfold ReportsReadable
  rw [h.cwd]
  refine forall_congr' (fun name => imp_congr_right (fun _ => not_congr ?_))
  exact h.dir_iff _ (List.suffix_append [name, "current", "reports"] fs.cwd)
    (fun _ hdir => current_not_above hdir)

theorem Filed.current_text (h : Filed reach fs after) :
    after.text (currentDir fs.cwd) = fs.text (currentDir fs.cwd) := by
  refine h.text _ (List.suffix_append ["current", "reports"] fs.cwd) (fun hplace => ?_)
  rcases hplace with ⟨name, _, hsame | hsame⟩ | ⟨snapshot, _, file, hsame⟩ <;>
    · have hlength := congrArg List.length hsame
      simp only [currentPlace, latestPlace, snapshotPlace, currentDir, historyDir,
        List.length_cons] at hlength
      omega

/-- Where no file is in the place of the directory, the current reports can be hashed exactly when
they can be read. -/
theorem readCurrent_iff (hnamed : Named fs.cwd) (hbrowse : Browsable fs (currentDir fs.cwd))
    (hfile : fs.text (currentDir fs.cwd) = none) :
    (∃ current, readCurrentReportHashes m fs = .ok current fs) ↔ ReportsReadable fs := by
  have hlisted := m.listing.mem_names _ _ hbrowse.finite
  have hroot : processCwd fs = .ok (cwdPath fs.cwd) fs := rfl
  rw [readCurrentReportHashes, run_bind_of_ok hroot]
  cases hnode : fs.node (currentDir fs.cwd) with
  | none =>
      have hthere : existsSync (join [cwdPath fs.cwd, "reports", "current"]) fs = .ok false fs := by
        rw [existsSync, resolve_rootCurrent hnamed, hnode, Bool.and_false]
      rw [run_bind_of_ok hthere]
      refine iff_of_true ⟨[], rfl⟩ (fun name _ hdir => ?_)
      rw [FileSystem.node_child_eq_none hnode] at hdir
      cases hdir
  | some node =>
      have hdir : fs.node (currentDir fs.cwd) = some .dir :=
        (node_ne_none_iff.mp (by rw [hnode]; exact Option.some_ne_none node)).resolve_right
          (fun htext => by
            obtain ⟨text, htext⟩ := htext
            rw [hfile] at htext
            cases htext)
      have hthere := existsSync_of_dir (hasNul_rootCurrent hnamed)
        ((resolve_rootCurrent hnamed).symm ▸ hdir)
      have hnames : readJsonNames m (join [cwdPath fs.cwd, "reports", "current"]) fs =
          .ok (jsonNames (m.listing.names fs (currentDir fs.cwd))) fs := by
        rw [readJsonNames_eq_ok, resolve_rootCurrent hnamed]
        exact ⟨⟨hasNul_rootCurrent hnamed, hdir, rfl⟩, rfl⟩
      rw [run_bind_of_ok hthere, if_pos rfl, run_bind_of_ok hnames]
      have hplace : ∀ {name}, IsName name →
          resolve fs.cwd (join [join [cwdPath fs.cwd, "reports", "current"], name]) =
            name :: currentDir fs.cwd := fun hname => resolve_rootReport hnamed hname
      constructor
      · intro h
        obtain ⟨current, hloop⟩ := h
        obtain ⟨hall, _⟩ := (mapM_looks_eq_ok (looks_hashReport _)).mp hloop
        intro name hjson hchild
        have hmem : fs.node (name :: currentDir fs.cwd) ≠ none := by
          rw [hchild]
          exact Option.some_ne_none _
        obtain ⟨entry, _, hentry⟩ := exists_of_forall₂_left hall
          (mem_jsonNames.mpr ⟨(hlisted name).mpr hmem, hjson⟩)
        obtain ⟨_, text, htext, _⟩ :=
          hashes_of_hashReport hnamed (hbrowse.names name hmem).1 hentry
        rw [FileSystem.text_eq_some_iff, hchild] at htext
        cases htext
      · intro hreadable
        have hall : ∀ name ∈ jsonNames (m.listing.names fs (currentDir fs.cwd)), ∃ entry,
            hashReport m (join [cwdPath fs.cwd, "reports", "current"]) name fs = .ok entry fs := by
          intro name hname
          obtain ⟨hmem, hjson⟩ := mem_jsonNames.mp hname
          have hthere := (hlisted name).mp hmem
          obtain ⟨hisName, hnul⟩ := hbrowse.names name hthere
          obtain ⟨text, htext⟩ :=
            (node_ne_none_iff.mp hthere).resolve_left (hreadable name hjson)
          have hread : readFileSync (join [join [cwdPath fs.cwd, "reports", "current"], name]) fs =
              .ok text fs := by
            rw [readFileSync_eq_ok, hplace hisName]
            exact ⟨⟨hasNul_join (hasNul_rootCurrent hnamed) hnul, htext⟩, rfl⟩
          exact ⟨_, run_bind_eq_ok.mpr ⟨text, fs, hread, rfl⟩⟩
        obtain ⟨current, hcurrent⟩ := exists_forall₂ hall
        exact ⟨current, (mapM_looks_eq_ok (looks_hashReport _)).mpr ⟨hcurrent, rfl⟩⟩

end Current

/-! ## The gate of the bundle -/

section Gate
variable {m : Machine} {reach : Reach} {fs between : FileSystem} {schemas : List Schema}
  {clocks : Clocks} {own : Set Place} {npm : String → Fs Outcome} {stamp generated : Instant}

/-- What the two gates rely on: a host with numerals and digests, on which the two scripts that only
run as the main module are it, a tree as hosts have it, and schema files of the keywords that are
used. -/
structure Gated (m : Machine) (schemas : List Schema) (fs : FileSystem) : Prop where
  mains : Mains m fs.cwd
  numerals : Numerals m
  digest : IsHexDigest (m.rt.hmacSha256 webhookSecret (webhookPayload m.rt))
  hosted : Hosted m fs
  described : List.Forall₂ (HoldsSchema m fs) PAIRS schemas

/-- The steps of a gate end in a tree of reports exactly if the tree was ready for them. -/
theorem ends_steps (h : Gated m schemas fs) (hruns : RunsScripts m clocks fs.cwd own npm)
    (husable : reach.Usable) (hnames : (stepsReach clocks).names ⊆ reach.names)
    (hsnapshots : (stepsReach clocks).snapshots ⊆ reach.snapshots) {α β : Type} {items : List α}
    {stepOf : α → String × String} (hitems : items.map stepOf = STEPS) {command : α → String}
    {result : α → String → β} :
    Ends (Filed reach fs) (items.mapM (fun item =>
        execFileSync (command item) (npm (stepOf item).1) >>= fun output =>
          pure (result item output))) (Ready m clocks schemas fs) := by
  have hstep : ∀ item ∈ items, Ends (Filed reach fs)
      (execFileSync (command item) (npm (stepOf item).1) >>= fun output =>
        pure (result item output)) (stepNeeds m clocks schemas fs (stepOf item).1) := by
    intro item hitem
    refine (ends_step hruns h.mains h.numerals h.hosted husable h.digest h.described hnames
      hsnapshots _ ?_ _).bind_pure _
    rw [← hitems]
    exact List.mem_map_of_mem hitem
  refine (ends_mapM hstep).congr ?_
  rw [← ready_iff, ← hitems, List.forall_mem_map]

theorem Ready.current_text (h : Ready m clocks schemas fs) : fs.text (currentDir fs.cwd) = none :=
  h.schema_room.current _ ((List.mem_tails _ _).mpr (List.suffix_refl _))

theorem usable_bundleReach (clocks : Clocks) (stamp : Instant) : (bundleReach clocks stamp).Usable := by
  have hnames : (bundleReach clocks stamp).names = bundleName :: ["v020-schema-validation",
      "v020-classifier-comparator", verdictReceiptSuite.name, quarantineRepairSuite.name,
      quarantineRepairSuite.name, operatorName, quarantineRepairSuite.name, operatorName,
      simulationName, "admissorium-v020-webhook-signature", batteryName] := rfl
  rw [Reach.Usable, hnames]
  decide +kernel

theorem ends_writeReportBundle (h : Gated m schemas fs)
    (hruns : RunsScripts m clocks fs.cwd own npm) (husable : reach.Usable)
    (hnames : (bundleReach clocks stamp).names ⊆ reach.names)
    (hsnapshots : (bundleReach clocks stamp).snapshots ⊆ reach.snapshots) :
    Ends (Filed reach fs) (writeReportBundle m npm stamp generated)
      (Ready m clocks schemas fs ∧ ReportsReadable fs ∧
        RoomFor fs bundleName .reportBundle stamp [bundleName ++ ".json", "manifest.json"]) := by
  obtain ⟨hname, hstepNames⟩ := List.cons_subset.mp hnames
  obtain ⟨hsnapshot, hstepSnapshots⟩ := List.cons_subset.mp hsnapshots
  refine Ends.bind_of_needs (ends_steps h hruns husable hstepNames hstepSnapshots (List.map_id _))
    (fun hready steps => ?_)
  refine (ends_of_looks looks_readCurrent (fun tree htree => ?_)).bind (fun current => ?_)
  · have hhost := h.hosted.of_filed husable htree
    rw [← htree.reportsReadable_iff]
    refine readCurrent_iff hhost.named hhost.reports ?_
    rw [htree.cwd, htree.current_text]
    exact hready.current_text
  · refine ends_processCwd_bind (fun tree htree => htree.cwd) ?_
    rw [writeJsonReport_eq validName_bundleName (accepted_bundleReport steps current), bind_assoc]
    simp only [pure_bind]
    exact (ends_of_stores hname hsnapshot
      (stores_bundleCall h.hosted.named steps current)).bind_pure _

/-- A run of the report bundle comes to its end exactly if its tree is ready for the eight steps, its
current reports can be read and there is room for the bundle. It then exits with 0 and has changed
nothing about whether any other run of the bundle comes to its end. -/
theorem writeReportBundle_exit_zero_iff (h : Gated m schemas fs)
    (hruns : RunsScripts m clocks fs.cwd own npm) :
    ((∃ outcome after, writeReportBundle m npm stamp generated fs = .ok outcome after) ↔
      Ready m clocks schemas fs ∧ ReportsReadable fs ∧
        RoomFor fs bundleName .reportBundle stamp [bundleName ++ ".json", "manifest.json"]) ∧
    ∀ outcome after, writeReportBundle m npm stamp generated fs = .ok outcome after →
      outcome.code = 0 ∧ ∀ clocks' own' npm' stamp' generated',
        RunsScripts m clocks' fs.cwd own' npm' →
        ((∃ again last, writeReportBundle m npm' stamp' generated' after = .ok again last) ↔
          ∃ again last, writeReportBundle m npm' stamp' generated' fs = .ok again last) := by
  refine ⟨(ends_writeReportBundle h hruns (usable_bundleReach _ _) (List.Subset.refl _)
    (List.Subset.refl _)).iff fs (Filed.refl fs), fun outcome after hrun => ⟨?_, ?_⟩⟩
  · obtain ⟨steps, current, between, last, written, hsteps, _, _, _, rfl, _⟩ :=
      bundleText_of_run hruns h.hosted.named hrun
    rw [bundleOutcome, failedSteps_eq_nil (allPassed_of_steps hruns h.mains rfl hsteps).2]
    rfl
  · intro clocks' own' npm' stamp' generated' hruns'
    -- both runs file what either of them can reach
    have hfirst := @ends_writeReportBundle m ⟨(bundleReach clocks stamp).names,
      (bundleReach clocks stamp).snapshots ++ (bundleReach clocks' stamp').snapshots⟩ fs schemas
      clocks own npm stamp generated h hruns (usable_bundleReach clocks stamp)
      (List.Subset.refl _)
      (List.subset_append_left _ _)
    have hsecond := @ends_writeReportBundle m ⟨(bundleReach clocks stamp).names,
      (bundleReach clocks stamp).snapshots ++ (bundleReach clocks' stamp').snapshots⟩ fs schemas
      clocks' own' npm' stamp' generated' h hruns' (usable_bundleReach clocks stamp)
      (List.Subset.refl _)
      (List.subset_append_right _ _)
    rw [hsecond.iff after (hfirst.keeps fs outcome after (Filed.refl fs) hrun),
      hsecond.iff fs (Filed.refl fs)]

/-- The last of the eight steps leaves a current report. -/
theorem batteryText_of_steps (h : Gated m schemas fs) (hruns : RunsScripts m clocks fs.cwd own npm)
    {steps : List StepResult} (hrun : STEPS.mapM (runStep m npm) fs = .ok steps between) :
    ∃ text, between.text (currentPlace fs.cwd batteryName) = some text := by
  have husable : (stepsReach clocks).Usable :=
    (List.forall_mem_cons.mp (usable_bundleReach clocks clocks.hostile)).2
  have hends := @ends_step m (stepsReach clocks) fs schemas clocks own npm hruns h.mains h.numerals
    h.hosted husable h.digest h.described (List.Subset.refl _) (List.Subset.refl _)
  have hsplit : STEPS = STEPS.dropLast ++
      [("v020:hostile", "ADMISSORIUM_V020_HOSTILE_FIXTURES_PASS=true")] := rfl
  rw [hsplit, run_mapM_concat_eq_ok] at hrun
  obtain ⟨others, before, battery, hothers, hbattery, _⟩ := hrun
  have hbefore : Filed (stepsReach clocks) fs before :=
    (ends_mapM (fun step hstep =>
      (hends step (List.mem_of_mem_dropLast hstep) _).bind_pure _)).keeps fs others before
        (Filed.refl fs) hothers
  obtain ⟨output, left, hchild, hresult⟩ := run_bind_eq_ok.mp hbattery
  obtain ⟨_, rfl⟩ := pure_eq_ok.mp hresult
  obtain ⟨start, hspawns⟩ := hruns.runs "v020:hostile" _ rfl before hbefore.cwd
  obtain ⟨_, printed, _, stored, _, hscript, hbehind⟩ :=
    hspawns.of_succeeds (execFileSync_eq_ok.mp hchild)
  have hstart : Filed (stepsReach clocks) fs start :=
    hbefore.trans (filed_of_spares (hbefore.cwd ▸ hruns.outside) hspawns.before)
  have hfinite := (h.hosted.of_filed husable hstart).fixtures.finite
  obtain ⟨results, _, htasks, _⟩ := (runHostileFixtures_eq_ok_iff hfinite).mp hscript
  refine ⟨storedJson m (.obj (batteryReport results)), ?_⟩
  rw [hbehind.framed.text _ (hruns.not_mem (suffix_currentPlace _ _)), ← hstart.cwd]
  refine (stores_battery start.cwd _).text_of_mem (by decide) htasks ?_
  rw [writtenBy_battery]
  exact List.mem_cons_self

/-- After a bundle, the battery has a current report. -/
theorem batteryText_of_run (h : Gated m schemas fs) (hruns : RunsScripts m clocks fs.cwd own npm)
    {outcome : Outcome} {after : FileSystem}
    (hrun : writeReportBundle m npm stamp generated fs = .ok outcome after) :
    ∃ text, after.text (currentPlace fs.cwd batteryName) = some text := by
  obtain ⟨steps, current, between, last, written, hsteps, _, hwrote, rfl, _, hcwd, _⟩ :=
    bundleText_of_run hruns h.hosted.named hrun
  obtain ⟨text, htext⟩ := batteryText_of_steps h hruns hsteps
  refine ⟨text, ?_⟩
  rw [← htext]
  refine hwrote.text_of_not_mem ?_
  rw [writes_bundleCall (hcwd ▸ h.hosted.named), hcwd]
  simp only [List.map_cons, List.map_nil, List.mem_cons, List.not_mem_nil, or_false, not_or]
  exact ⟨fun hsame => absurd (List.cons.inj hsame).1 (by decide),
    fun hsame => absurd (congrArg List.length hsame) (by simp [currentPlace, currentDir,
      snapshotPlace, historyDir]),
    fun hsame => absurd (congrArg List.length hsame) (by simp [currentPlace, currentDir,
      snapshotPlace, historyDir])⟩

end Gate

/-! ## A tree that is ready -/

/-- The fixtures: five candidates, an accepted graph and a hostile fixture that expects nothing. -/
def readyEntries : List (Place × Node) :=
  [(["fixtures"], .dir), (["v020", "fixtures"], .dir), (["candidates", "v020", "fixtures"], .dir),
    (["accepted-graph.example.json", "v020", "fixtures"], .file graphText),
    (["projection-clean.example.json", "candidates", "v020", "fixtures"], .file listedText),
    (["protected-truth-touch.example.json", "candidates", "v020", "fixtures"], .file publishText),
    (["sovereign-language.example.json", "candidates", "v020", "fixtures"], .file publishText),
    (["package-publish.example.json", "candidates", "v020", "fixtures"], .file publishText),
    (["secret-bearing.example.json", "candidates", "v020", "fixtures"], .file publishText),
    (["hostile", "v020", "fixtures"], .dir),
    (["publish.json", "hostile", "v020", "fixtures"], .file publishText)]

/-- The fixtures, beside the schemas and objects of `pairNode`. -/
def readyNode : Place → Option Node
  | [] => some .dir
  | place => (readyEntries.lookup place).or (pairNode place)

theorem parent_of_readyEntries : ∀ entry ∈ readyEntries, readyNode entry.1.tail = some .dir := by
  decide

theorem readyEntries_apart : ∀ entry ∈ readyEntries, pairNode entry.1 = none := by decide

def readyTree : FileSystem where
  node := readyNode
  cwd := []
  root_dir := rfl
  parent_dir := by
    intro name place hthere
    cases hentry : readyEntries.lookup (name :: place) with
    | some node =>
        obtain ⟨before, rest, hsplit, _⟩ := List.lookup_eq_some_iff.mp hentry
        exact parent_of_readyEntries (name :: place, node) (by rw [hsplit]; simp)
    | none =>
        have hpair : pairNode (name :: place) ≠ none := by
          intro hnone
          apply hthere
          show (readyEntries.lookup (name :: place)).or (pairNode (name :: place)) = none
          rw [hentry, hnone]
          rfl
        have hdir := pairTree.parent_dir name place hpair
        cases place with
        | nil => rfl
        | cons dir above =>
            have hnone : readyEntries.lookup (dir :: above) = none := by
              rw [List.lookup_eq_none_iff]
              intro entry hmem
              rw [bne_iff_ne]
              intro heq
              have hother := readyEntries_apart entry hmem
              rw [← heq] at hother
              exact absurd (hother.symm.trans hdir) (by simp)
            show (readyEntries.lookup (dir :: above)).or (pairNode (dir :: above)) = some .dir
            rw [hnone]
            exact hdir

/-- A host that reads whole numbers, with one digest for everything. -/
noncomputable def readyMachine : Machine :=
  ⟨{ JavaScript.Runtime.counting with hmacSha256 := fun _ _ => pushDigest }, readWhole,
    Classical.choice exists_listing, fun path => "file://" ++ path⟩

def readyClocks : Clocks := ⟨epoch, epoch, epoch, epoch, epoch, epoch⟩

instance : Nonempty Clocks := ⟨readyClocks⟩

/-- The commands that `package.json` has under the names. -/
def npmCommands : List (String × String) :=
  [("v020:schema:validate", "node " ++ objectsScript), ("v020:classify", "node " ++ candidatesScript),
    ("v020:verdict", "node src/v020/compile-verdict-receipt.js"),
    ("v020:quarantine", "node src/v020/route-quarantine-repair.js"),
    ("v020:operator-review", "node src/v020/compile-operator-review-bundle.js"),
    ("v020:writer-sim", "node src/v020/simulate-test-mode-writer.js"),
    ("v020:webhook", "node src/v020/verify-webhook-signature.js"),
    ("v020:hostile", "node src/v020/run-hostile-fixtures.js")]

def npmBanner (name : String) : String :=
  "\n> @verifrax/admissorium@0.6.0 " ++ name ++ "\n> " ++ (npmCommands.lookup name).getD "" ++ "\n\n"

/-- An `npm` that keeps no logs: a banner, what the script prints, and the exit code of the script. -/
def unloggedNpm (m : Machine) (clocks : Clocks) (name : String) : Fs Outcome := fun fs =>
  match (npmScripts m clocks).lookup name with
  | some script =>
      match script fs with
      | .ok outcome after => .ok ⟨npmBanner name ++ outcome.stdout, outcome.code⟩ after
      | .error _ after => .ok ⟨npmBanner name, 1⟩ after
  | none => .ok ⟨"", 1⟩ fs

theorem runsScripts_unloggedNpm (m : Machine) (clocks : Clocks) (cwd : Place) :
    RunsScripts m clocks cwd ∅ (unloggedNpm m clocks) where
  outside := fun _ hown => absurd hown (Set.notMem_empty _)
  runs := by
    intro name script hlookup fs _
    refine ⟨fs, Spares.refl _ _, ?_, fun stdout ended hscript => ?_, fun stdout after hchild => ?_⟩
    · rw [unloggedNpm, hlookup]
      cases hrun : script fs <;> simp only [hrun] <;> exact Spares.refl _ _
    · refine ⟨npmBanner name, "", ended, ?_⟩
      rw [Succeeds] at hscript
      rw [Succeeds, unloggedNpm, hlookup, String.append_empty]
      simp only [hscript]
    · rw [Succeeds, unloggedNpm, hlookup] at hchild
      cases hrun : script fs with
      | ok outcome ended =>
          simp only [hrun, EStateM.Result.ok.injEq, Outcome.mk.injEq] at hchild
          obtain ⟨⟨_, hcode⟩, rfl⟩ := hchild
          exact ⟨outcome.stdout, ended, by rw [Succeeds, hrun, outcome_eq_of_code hcode]⟩
      | error e ended =>
          simp only [hrun, EStateM.Result.ok.injEq, Outcome.mk.injEq] at hchild
          exact absurd hchild.1.2 (by decide)

theorem node_readyTree {name : String} {place : Place} :
    readyTree.node (name :: place) ≠ none ↔
      name :: place ∈ readyEntries.map Prod.fst ∨ pairNode (name :: place) ≠ none := by
  show (readyEntries.lookup (name :: place)).or (pairNode (name :: place)) ≠ none ↔ _
  rw [Ne, Option.or_eq_none_iff, not_and_or, List.lookup_eq_none_iff]
  simp only [not_forall, bne_iff_ne, not_not, List.mem_map, eq_comm (a := name :: place),
    exists_prop]

theorem mem_readyCandidates (name : String) :
    name ∈ caseNames ↔ readyTree.node (name :: candidatePlace []) ≠ none := by
  rw [node_readyTree]
  simp [readyEntries, caseNames, candidatePlace, pairNode]

theorem mem_readyFixtures (name : String) :
    name ∈ ["publish.json"] ↔ readyTree.node (name :: hostilePlace []) ≠ none := by
  rw [node_readyTree]
  simp [readyEntries, hostilePlace, pairNode]

theorem node_readyCurrent (name : String) : readyTree.node (name :: currentDir []) = none := by
  by_contra hthere
  rw [← Ne, node_readyTree] at hthere
  simp [readyEntries, currentDir, pairNode] at hthere

/-- A directory with names from a list is as hosts have it. -/
theorem browsable_of_mem {fs : FileSystem} {place : Place} {names : List String}
    (hmem : ∀ name, name ∈ names ↔ fs.node (name :: place) ≠ none)
    (hnames : ∀ name ∈ names, IsName name ∧ hasNul name = false) : Browsable fs place where
  finite := names.finite_toSet.subset (fun name hname => (hmem name).mpr hname)
  names := fun name hname => hnames name ((hmem name).mpr hname)

theorem jsonNames_readyCandidates :
    jsonNames (readyMachine.listing.names readyTree (candidatePlace [])) =
      sortedCases.map Prod.fst := by
  rw [jsonNames_eq_of_mem (by decide) mem_readyCandidates]
  decide

theorem hosted_readyTree : Hosted readyMachine readyTree where
  named := List.forall_mem_nil _
  candidates := browsable_of_mem mem_readyCandidates (by decide)
  fixtures := browsable_of_mem mem_readyFixtures (by decide)
  reports := browsable_of_mem
    (fun name => iff_of_false List.not_mem_nil (not_not_intro (node_readyCurrent name)))
    (List.forall_mem_nil _)
  small := by
    show (jsonNames (readyMachine.listing.names readyTree (candidatePlace []))).length < 2 ^ 32
    rw [jsonNames_readyCandidates]
    decide

theorem numerals_readyMachine : Numerals readyMachine where
  printed q text h :=
    have hread := numerals_wholeMachine.printed q text h
    ⟨hread.read_eq, hread.word, hread.literal⟩
  counts n h :=
    have hread := numerals_wholeMachine.counts n h
    ⟨hread.read_eq, hread.word, hread.literal⟩

theorem read_readyPairs : ∀ pair ∈ PAIRS,
    (hasNul pair.1 = false ∧ readyTree.text (resolve [] pair.1) = some stateSchemaText) ∧
      (hasNul pair.2 = false ∧ readyTree.text (resolve [] pair.2) = some stateObjectText) := by
  decide

theorem read_readyCandidates : ∀ file ∈ sortedCases,
    readJson readyMachine (join [candidateDir, file.1]) readyTree = .ok file.2 readyTree := by
  have hpublish : Json.parse readWhole publishText = .ok publishCandidate := rfl
  have hlisted : Json.parse readWhole listedText = .ok listedCandidate := rfl
  simp only [sortedCases, List.forall_mem_cons, List.not_mem_nil, false_imp_iff, implies_true,
    and_true]
  exact ⟨readJson_eq_ok.mpr ⟨⟨publishText, by decide, hpublish⟩, rfl⟩,
    readJson_eq_ok.mpr ⟨⟨listedText, by decide, hlisted⟩, rfl⟩,
    readJson_eq_ok.mpr ⟨⟨publishText, by decide, hpublish⟩, rfl⟩,
    readJson_eq_ok.mpr ⟨⟨publishText, by decide, hpublish⟩, rfl⟩,
    readJson_eq_ok.mpr ⟨⟨publishText, by decide, hpublish⟩, rfl⟩⟩

theorem gated_readyTree : Gated readyMachine (PAIRS.map (fun _ => stateSchema)) readyTree where
  mains := ⟨rfl, rfl⟩
  numerals := numerals_readyMachine
  digest := by
    show IsHexDigest pushDigest
    decide
  hosted := hosted_readyTree
  described := by
    have hparse : Json.parse readWhole stateSchemaText = .ok stateSchemaStored := rfl
    rw [List.forall₂_map_right_iff, List.forall₂_same]
    intro pair hpair
    exact ⟨inFragment_stateSchema, _, readJson_eq_ok.mpr
      ⟨⟨stateSchemaText, (read_readyPairs pair hpair).1, hparse⟩, rfl⟩, describes_stateSchema⟩

theorem fourOfFive_sortedCases : FourOfFive readyMachine sortedCases := by
  have hpublish : Classify.Rewrapping.riskOf readyMachine.rt publishCandidate = .ok .red := by
    show Classify.Rewrapping.riskOf
      { JavaScript.Runtime.counting with hmacSha256 := fun _ _ => pushDigest } _ = _
    decide +kernel
  have hlisted : Classify.Rewrapping.riskOf readyMachine.rt listedCandidate = .ok .green := by
    show Classify.Rewrapping.riskOf
      { JavaScript.Runtime.counting with hmacSha256 := fun _ _ => pushDigest } _ = _
    decide +kernel
  obtain ⟨haccepted, hblocked⟩ := blocks_of_riskOf hpublish
  obtain ⟨hnothing, hfree⟩ := blocks_of_riskOf hlisted
  refine ⟨?_, ?_, rfl, ?_⟩
  · simp only [Pipeline.WriterSimulation.Accepted, sortedCases, List.forall_mem_cons,
      List.not_mem_nil, false_imp_iff, implies_true, and_true]
    exact ⟨haccepted, hnothing, haccepted, haccepted, haccepted⟩
  · simp only [sortedCases, List.forall_mem_cons, List.not_mem_nil, false_imp_iff, implies_true,
      and_true]
    exact ⟨⟨_, rfl⟩, ⟨_, rfl⟩, ⟨_, rfl⟩, ⟨_, rfl⟩, ⟨_, rfl⟩⟩
  · simp [sortedCases, hblocked, hfree]

theorem compared_readyTree : ∀ name ∈ caseNames, ∃ report, evaluateCandidateFiles readyMachine
    acceptedGraphPath (casePath name) readyTree = .ok report readyTree := by
  have hgraph : Json.parse readWhole graphText =
      .ok (.obj [("repos", .arr [.obj [("name", .str "A")]])]) := rfl
  have hnames : Compare.AcceptedVsCandidate.acceptedRepos
      (.obj [("repos", .arr [.obj [("name", .str "A")]])]) = .ok [.str "A"] := rfl
  have hread : hasNul acceptedGraphPath = false ∧
      readyTree.text (resolve readyTree.cwd acceptedGraphPath) = some graphText := by decide
  have hcases : ∀ name ∈ caseNames, ∃ candidate, (name, candidate) ∈ sortedCases := by
    simp [caseNames, sortedCases]
  intro name hname
  obtain ⟨candidate, hcandidate⟩ := hcases name hname
  have hsame := read_readyCandidates _ hcandidate
  rw [← (casePath_eq_join name hname).1] at hsame
  obtain ⟨⟨candidateText, hfound, hparse⟩, _⟩ := readJson_eq_ok.mp hsame
  obtain ⟨report, hreport⟩ := exists_evaluateCandidate.mpr
    ⟨fourOfFive_sortedCases.accepted _ hcandidate, _, hnames⟩
  exact ⟨report, evaluateCandidateFiles_eq_ok_iff.mpr
    ⟨⟨graphText, candidateText, _, candidate, hread, hfound, hgraph, hparse, hreport⟩, rfl⟩⟩

theorem fixtures_readyTree : ∃ results, Evaluates readyMachine readyTree results ∧
    ∀ result ∈ results, result.passed = true := by
  have hparse : Json.parse readWhole publishText = .ok publishCandidate := rfl
  obtain ⟨result, hresult, hpassed⟩ := exists_evaluate_publish readyMachine.rt
  have hnames : jsonNames (readyMachine.listing.names readyTree (hostilePlace [])) =
      ["publish.json"] := by
    rw [jsonNames_eq_of_mem (by decide) mem_readyFixtures]
    decide
  refine ⟨[result], ⟨rfl, ?_⟩, List.forall_mem_singleton.mpr hpassed⟩
  show List.Forall₂ _ (jsonNames (readyMachine.listing.names readyTree (hostilePlace []))) _
  rw [hnames]
  exact List.Forall₂.cons ⟨publishCandidate,
    readJson_eq_ok.mpr ⟨⟨publishText, by decide, hparse⟩, rfl⟩, hresult⟩ List.Forall₂.nil

theorem room_readyTree (name : String) (kind : SnapshotKind) (files : List String) :
    RoomFor readyTree name kind epoch files := roomFor_of_none _ _ _ _ (by decide) rfl

theorem ready_readyTree :
    Ready readyMachine readyClocks (PAIRS.map (fun _ => stateSchema)) readyTree where
  objects := by
    have hparse : Json.parse readWhole stateObjectText = .ok (.obj [("state", .str "PASS")]) := rfl
    rw [List.forall₂_map_right_iff, List.forall₂_same]
    intro pair hpair
    exact ⟨_, readJson_eq_ok.mpr ⟨⟨stateObjectText, (read_readyPairs pair hpair).2, hparse⟩, rfl⟩,
      valid_stateObject⟩
  compared := compared_readyTree
  candidates := ⟨sortedCases, ⟨rfl, jsonNames_readyCandidates.symm, read_readyCandidates⟩,
    fourOfFive_sortedCases⟩
  fixtures := fixtures_readyTree
  storable := ⟨⟨by decide, by decide⟩, ⟨by decide, by decide⟩, ⟨by decide, by decide⟩,
    ⟨by decide, by decide⟩⟩
  verdict_free := ⟨by decide, by decide⟩
  schema_room := room_readyTree _ _ _
  classifier_room := room_readyTree _ _ _
  webhook_room := room_readyTree _ _ _
  hostile_room := room_readyTree _ _ _

theorem reportsReadable_readyTree : ReportsReadable readyTree := by
  intro name _ hdir
  have hnone : readyTree.node (name :: currentDir readyTree.cwd) = none := node_readyCurrent name
  rw [hnone] at hdir
  cases hdir

/-- The `npm` of the tree. -/
noncomputable def readyNpm : String → Fs Outcome := unloggedNpm readyMachine readyClocks

theorem runsScripts_readyNpm : RunsScripts readyMachine readyClocks readyTree.cwd ∅ readyNpm :=
  runsScripts_unloggedNpm _ _ _

/-- The bundle comes to its end on the tree. -/
theorem writeReportBundle_exit_zero_iff_readyTree : ∃ outcome after,
    writeReportBundle readyMachine readyNpm epoch epoch readyTree = .ok outcome after ∧
      outcome.code = 0 := by
  obtain ⟨hends, hcode⟩ := @writeReportBundle_exit_zero_iff readyMachine readyTree _ readyClocks ∅
    readyNpm epoch epoch gated_readyTree runsScripts_readyNpm
  obtain ⟨outcome, after, hrun⟩ :=
    hends.mpr ⟨ready_readyTree, reportsReadable_readyTree, room_readyTree _ _ _⟩
  exact ⟨outcome, after, hrun, (hcode outcome after hrun).1⟩

theorem ends_readyTree : ∃ outcome after,
    writeReportBundle readyMachine readyNpm epoch epoch readyTree = .ok outcome after ∧
      Filed (bundleReach readyClocks epoch) readyTree after := by
  have hends := @ends_writeReportBundle readyMachine (bundleReach readyClocks epoch) readyTree _
    readyClocks ∅ readyNpm epoch epoch gated_readyTree runsScripts_readyNpm (usable_bundleReach _ _)
    (List.Subset.refl _) (List.Subset.refl _)
  obtain ⟨outcome, after, hrun⟩ := (hends.iff _ (Filed.refl _)).mpr
    ⟨ready_readyTree, reportsReadable_readyTree, room_readyTree _ _ _⟩
  exact ⟨outcome, after, hrun, hends.keeps _ _ _ (Filed.refl _) hrun⟩

/-- The run stores a bundle of eight steps that have passed. -/
theorem bundle_never_fails_readyTree : ∃ outcome after,
    writeReportBundle readyMachine readyNpm epoch epoch readyTree = .ok outcome after ∧
      outcome.code = 0 ∧ StoresPassed readyMachine epoch epoch after := by
  obtain ⟨outcome, after, hrun, _⟩ := ends_readyTree
  exact ⟨outcome, after, hrun, (bundle_never_fails runsScripts_readyNpm gated_readyTree.mains
    gated_readyTree.hosted.named).2.1 outcome after hrun⟩

/-- The bundle of that run lists the report of its last step, with the hash of its text. -/
theorem bundle_binds_current_readyTree : ∃ outcome after steps current text,
    writeReportBundle readyMachine readyNpm epoch epoch readyTree = .ok outcome after ∧
      after.text (currentPlace [] bundleName) =
        some ((bundleCall "/" epoch epoch steps current).serialized readyMachine.rt) ∧
      after.text (currentPlace [] batteryName) = some text ∧
      ∃ entry ∈ current, entry.file = batteryName ++ ".json" ∧
        entry.sha256 = readyMachine.rt.sha256 text := by
  obtain ⟨outcome, after, hrun, hfiled⟩ := ends_readyTree
  have hhost := hosted_readyTree.of_filed (usable_bundleReach readyClocks epoch) hfiled
  have hnamed := gated_readyTree.hosted.named
  have hcwd : after.cwd = [] := hfiled.cwd
  obtain ⟨text, htext⟩ := batteryText_of_run gated_readyTree runsScripts_readyNpm hrun
  obtain ⟨steps, current, hstored, hentries, _, hlisted⟩ :=
    bundle_binds_current runsScripts_readyNpm hnamed hrun hhost.reports
  rw [hcwd] at hstored hlisted
  obtain ⟨entry, hentry, hfile⟩ := hlisted (batteryName ++ ".json") text (by decide) (by decide) htext
  obtain ⟨_, other, hother, hhash⟩ := hentries entry hentry (by rw [hfile]; decide)
  rw [hfile, hcwd] at hother
  have hsame : other = text := Option.some.inj (hother.symm.trans htext)
  exact ⟨outcome, after, steps, current, text, hrun, hstored, htext, entry, hentry, hfile,
    hsame ▸ hhash⟩

end Admissorium.Scripts
