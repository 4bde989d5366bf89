import Admissorium.Scripts.ClassifierSuite
import Admissorium.Scripts.HostileBattery
import Admissorium.Scripts.StoredChain
import Admissorium.Scripts.WebhookSuite

/-!
# The eight steps

The report bundle and the readiness artifact both start the eight scripts through `npm` and look
for a token in what each prints. Where the two scripts that only run as the main module are it, a
script that exits with 0 has printed its token, so that no step that comes to its end is ever counted
as failed. Of `npm` itself no more is used than what it does with a script.
-/
namespace Admissorium.Scripts
set_option autoImplicit false

open JavaScript Json Files Signing Hostile

/-- When each script reads the clock. -/
structure Clocks where
  schemaStamp : Instant
  schemaCreated : Instant
  classifierStamp : Instant
  classifierCreated : Instant
  webhook : Instant
  hostile : Instant

/-- The scripts of `package.json` that the steps are. -/
def npmScripts (m : Machine) (clocks : Clocks) : List (String × Fs Outcome) :=
  [("v020:schema:validate", validateObjects m clocks.schemaStamp clocks.schemaCreated),
    ("v020:classify", evaluateCandidates m clocks.classifierStamp clocks.classifierCreated),
    ("v020:verdict", compileVerdictReceipt m), ("v020:quarantine", routeQuarantineRepair m),
    ("v020:operator-review", compileOperatorReview m),
    ("v020:writer-sim", simulateTestModeWriter m),
    ("v020:webhook", verifyWebhookSignatures m clocks.webhook),
    ("v020:hostile", runHostileFixtures m clocks.hostile)]

/-- What `npm run` is relied on for: it runs the script that `package.json` has under the name in the
working directory, and the files it changes of its own, its logs, are neither in that directory nor
on the way to it. -/
structure RunsScripts (m : Machine) (clocks : Clocks) (cwd : Place) (own : Set Place)
    (npm : String → Fs Outcome) : Prop where
  outside : ∀ place ∈ own, ¬ cwd <:+ place ∧ ¬ place <:+ cwd
  runs : ∀ name script, (npmScripts m clocks).lookup name = some script →
    ∀ fs : FileSystem, fs.cwd = cwd → ∃ start, Spawns own script (npm name) fs start

/-- Both scripts that only run as the main module are it. -/
structure Mains (m : Machine) (cwd : Place) : Prop where
  objects : IsMain m cwd objectsScript
  candidates : IsMain m cwd candidatesScript

def STEPS : List (String × String) :=
  [("v020:schema:validate", "ADMISSORIUM_V020_OBJECT_SCHEMAS_PASS=true"),
    ("v020:classify", "ADMISSORIUM_V020_CLASSIFIER_COMPARATOR_PASS=true"),
    ("v020:verdict", "ADMISSORIUM_V020_ACTUATOR_VERDICT_RECEIPT_PASS=true"),
    ("v020:quarantine", "ADMISSORIUM_V020_QUARANTINE_REPAIR_PASS=true"),
    ("v020:operator-review", "ADMISSORIUM_V020_OPERATOR_REVIEW_BUNDLE_PASS=true"),
    ("v020:writer-sim", "ADMISSORIUM_V020_TEST_MODE_WRITER_SIMULATION_PASS=true"),
    ("v020:webhook", "ADMISSORIUM_V020_WEBHOOK_SIGNATURE_VERIFICATION_PASS=true"),
    ("v020:hostile", "ADMISSORIUM_V020_HOSTILE_FIXTURES_PASS=true")]

/-! ## Tokens -/

section Tokens
variable {m : Machine} {cwd : Place} {token name : String}

theorem includes_printed (m : Machine) (token : String) (fields : Fields) :
    Text.includes (printed m token fields) token = true :=
  Text.includes_append_left (Text.includes_append_left
    (Text.includes_append_left (Text.includes_self token) _) _) _

/-- A program that prints a text whenever it exits with 0 in the directory. -/
def Prints (cwd : Place) (program : Fs Outcome) (token : String) : Prop :=
  ∀ fs stdout after, fs.cwd = cwd → Succeeds program fs stdout after →
    Text.includes stdout token = true

theorem prints_validateObjects (hmain : IsMain m cwd objectsScript) (stamp created : Instant) :
    Prints cwd (validateObjects m stamp created) "ADMISSORIUM_V020_OBJECT_SCHEMAS_PASS=true" := by
  intro fs stdout after hcwd h
  rw [← hcwd] at hmain
  obtain ⟨results, _, _, hout⟩ := (validateObjects_eq_ok_iff hmain).mp h
  rw [objectsOutcome, Outcome.mk.injEq] at hout
  obtain ⟨rfl, hcode⟩ := hout
  have hnone : (failedResults results).length = 0 := by
    by_contra hfailed
    rw [if_pos hfailed] at hcode
    cases hcode
  rw [objectsState, if_neg (not_not_intro hnone)]
  exact includes_printed m _ _

theorem prints_evaluateCandidates (hmain : IsMain m cwd candidatesScript)
    (stamp created : Instant) : Prints cwd (evaluateCandidates m stamp created)
      "ADMISSORIUM_V020_CLASSIFIER_COMPARATOR_PASS=true" := by
  intro fs stdout after hcwd h
  rw [← hcwd] at hmain
  obtain ⟨reports, _, _, hout⟩ := (evaluateCandidates_eq_ok_iff hmain).mp h
  rw [Outcome.mk.injEq] at hout
  rw [hout.1]
  exact includes_printed m _ _

theorem prints_runSuite (s : Suite) : Prints cwd (runSuite m s) s.token := by
  intro fs stdout after _ h
  obtain ⟨_, made, _, hread⟩ := run_bind_eq_ok.mp h
  obtain ⟨names, listed, _, hcompile⟩ := run_bind_eq_ok.mp hread
  obtain ⟨results, looked, _, hstore⟩ := run_bind_eq_ok.mp hcompile
  obtain ⟨_, saved, _, hend⟩ := run_bind_eq_ok.mp hstore
  obtain ⟨hout, _⟩ := pure_eq_ok.mp hend
  split at hout
  case isTrue => cases hout
  case isFalse =>
    rw [Outcome.mk.injEq] at hout
    rw [hout.1]
    exact includes_printed m _ _

theorem prints_compileOperatorReview :
    Prints cwd (compileOperatorReview m) "ADMISSORIUM_V020_OPERATOR_REVIEW_BUNDLE_PASS=true" := by
  intro fs stdout after _ h
  obtain ⟨inherited, between, _, hread⟩ := run_bind_eq_ok.mp h
  obtain ⟨suite, _, _, hcompile⟩ := run_bind_eq_ok.mp hread
  obtain ⟨bundle, _, _, hverify⟩ := run_bind_eq_ok.mp hcompile
  obtain ⟨ok, last, _, hend⟩ := run_bind_eq_ok.mp hverify
  split at hend
  case isTrue =>
    obtain ⟨hout, _⟩ := pure_eq_ok.mp hend
    cases hout
  case isFalse =>
    obtain ⟨_, saved, _, hpure⟩ := run_bind_eq_ok.mp hend
    obtain ⟨hout, _⟩ := pure_eq_ok.mp hpure
    rw [Outcome.mk.injEq] at hout
    rw [hout.1]
    exact Text.includes_append_right (includes_printed m _ _) _

theorem prints_simulateTestModeWriter : Prints cwd (simulateTestModeWriter m)
    "ADMISSORIUM_V020_TEST_MODE_WRITER_SIMULATION_PASS=true" := by
  intro fs stdout after _ h
  obtain ⟨inherited, between, _, hread⟩ := run_bind_eq_ok.mp h
  obtain ⟨report, _, _, hcompile⟩ := run_bind_eq_ok.mp hread
  obtain ⟨simulation, _, _, hpackets⟩ := run_bind_eq_ok.mp hcompile
  obtain ⟨verified, _, _, hverify⟩ := run_bind_eq_ok.mp hpackets
  obtain ⟨ok, last, _, hend⟩ := run_bind_eq_ok.mp hverify
  split at hend
  case isTrue =>
    obtain ⟨hout, _⟩ := pure_eq_ok.mp hend
    cases hout
  case isFalse =>
    obtain ⟨_, saved, _, hpure⟩ := run_bind_eq_ok.mp hend
    obtain ⟨hout, _⟩ := pure_eq_ok.mp hpure
    rw [Outcome.mk.injEq] at hout
    rw [hout.1]
    exact Text.includes_append_right (includes_printed m _ _) _

theorem prints_verifyWebhookSignatures (generated : Instant) :
    Prints cwd (verifyWebhookSignatures m generated)
      "ADMISSORIUM_V020_WEBHOOK_SIGNATURE_VERIFICATION_PASS=true" := by
  intro fs stdout after _ h
  obtain ⟨results, _, _, hout⟩ := verifyWebhookSignatures_eq_ok_iff.mp h
  rw [webhookOutcome] at hout
  split at hout
  case isTrue => cases hout
  case isFalse =>
    rw [Outcome.mk.injEq] at hout
    rw [hout.1]
    refine Text.includes_append_left ?_ _
    decide +kernel

theorem prints_runHostileFixtures (stamp : Instant) :
    Prints cwd (runHostileFixtures m stamp) "ADMISSORIUM_V020_HOSTILE_FIXTURES_PASS=true" := by
  intro fs stdout after _ h
  obtain ⟨_, _, _, h1⟩ := run_bind_eq_ok.mp h
  obtain ⟨_, _, _, h2⟩ := run_bind_eq_ok.mp h1
  obtain ⟨names, _, _, h3⟩ := run_bind_eq_ok.mp h2
  obtain ⟨results, _, _, h4⟩ := run_bind_eq_ok.mp h3
  obtain ⟨_, _, _, h5⟩ := run_bind_eq_ok.mp h4
  obtain ⟨_, _, _, hend⟩ := run_bind_eq_ok.mp h5
  obtain ⟨hout, _⟩ := pure_eq_ok.mp hend
  rw [batteryOutcome] at hout
  split at hout
  case isTrue =>
    rw [Outcome.mk.injEq] at hout
    rw [hout.1]
    exact includes_printed m _ _
  case isFalse => cases hout

variable {clocks : Clocks} {own : Set Place} {npm : String → Fs Outcome}

theorem RunsScripts.prints (h : RunsScripts m clocks cwd own npm) {script : Fs Outcome}
    (hlookup : (npmScripts m clocks).lookup name = some script) (hprints : Prints cwd script token) :
    Prints cwd (npm name) token := by
  intro fs stdout after hcwd hrun
  obtain ⟨start, hspawns⟩ := h.runs name script hlookup fs hcwd
  obtain ⟨above, printed, below, ended, rfl, hscript, _⟩ := hspawns.of_succeeds hrun
  have hincludes := hprints start printed ended (hspawns.before.cwd.trans hcwd) hscript
  exact Text.includes_append_left (Text.includes_append_right hincludes _) _

/-- A step that exits with 0 has printed its token. -/
theorem prints_step (h : RunsScripts m clocks cwd own npm) (hmains : Mains m cwd) :
    ∀ step ∈ STEPS, Prints cwd (npm step.1) step.2 := by
  simp only [STEPS, List.forall_mem_cons, List.not_mem_nil, false_imp_iff, implies_true, and_true]
  exact ⟨h.prints rfl (prints_validateObjects hmains.objects _ _),
    h.prints rfl (prints_evaluateCandidates hmains.candidates _ _),
    h.prints rfl (prints_runSuite verdictReceiptSuite),
    h.prints rfl (prints_runSuite quarantineRepairSuite),
    h.prints rfl prints_compileOperatorReview,
    h.prints rfl prints_simulateTestModeWriter,
    h.prints rfl (prints_verifyWebhookSignatures _),
    h.prints rfl (prints_runHostileFixtures _)⟩

end Tokens

/-! ## What a step can change -/

/-- The reports a program can store under their names, and the directories of runs it can fill. -/
structure Reach where
  names : List String
  snapshots : List (SnapshotKind × Instant)

def Reach.places (cwd : Place) (reach : Reach) : Set Place :=
  {place | (∃ name ∈ reach.names, place = currentPlace cwd name ∨ place = latestPlace cwd name) ∨
    ∃ snapshot ∈ reach.snapshots, ∃ file, place = file :: snapshotPlace cwd snapshot.1 snapshot.2}

/-- What a step reaches; the last two run others as children. -/
def stepReach (clocks : Clocks) : String → Reach
  | "v020:schema:validate" => ⟨["v020-schema-validation"], [(.schemaValidation, clocks.schemaStamp)]⟩
  | "v020:classify" =>
      ⟨["v020-classifier-comparator"], [(.classifierComparator, clocks.classifierStamp)]⟩
  | "v020:verdict" => ⟨[verdictReceiptSuite.name], []⟩
  | "v020:quarantine" => ⟨[quarantineRepairSuite.name], []⟩
  | "v020:operator-review" => ⟨[quarantineRepairSuite.name, operatorName], []⟩
  | "v020:writer-sim" => ⟨[quarantineRepairSuite.name, operatorName, simulationName], []⟩
  | "v020:webhook" =>
      ⟨["admissorium-v020-webhook-signature"], [(.webhookSignature, clocks.webhook)]⟩
  | "v020:hostile" => ⟨[batteryName], [(.hostileFixtures, clocks.hostile)]⟩
  | _ => ⟨[], []⟩

section Reach
variable {m : Machine} {cwd : Place} {name : String} {names : List String} {kind : SnapshotKind}
  {stamp : Instant} {reach : Reach} {clocks : Clocks} {own : Set Place}
  {npm : String → Fs Outcome}

theorem Reach.mono {more : Reach} (hnames : reach.names ⊆ more.names)
    (hsnapshots : reach.snapshots ⊆ more.snapshots) : reach.places cwd ⊆ more.places cwd := by
  intro place hplace
  rcases hplace with ⟨name, hname, hplace⟩ | ⟨snapshot, hsnapshot, hplace⟩
  · exact Or.inl ⟨name, hnames hname, hplace⟩
  · exact Or.inr ⟨snapshot, hsnapshots hsnapshot, hplace⟩

theorem currentPlace_mem_iff : currentPlace cwd name ∈ reach.places cwd ↔ name ∈ reach.names := by
  constructor
  · intro h
    rcases h with ⟨other, hother, hplace | hplace⟩ | ⟨snapshot, _, file, hplace⟩
    · have hjson := (List.cons.inj hplace).1
      rw [String.append_left_inj] at hjson
      rw [hjson]
      exact hother
    · have hdir := (List.cons.inj hplace).2
      rw [currentDir, historyDir] at hdir
      exact absurd (List.cons.inj hdir).1 (by decide)
    · have hlength := congrArg List.length hplace
      simp only [currentPlace, currentDir, snapshotPlace, historyDir, List.length_cons] at hlength
      omega
  · intro h
    exact Or.inl ⟨name, h, Or.inl rfl⟩

theorem suffix_currentPlace (cwd : Place) (name : String) : cwd <:+ currentPlace cwd name :=
  List.suffix_append [name ++ ".json", "current", "reports"] cwd

/-- A file of a run is reached by a run of the same script at what it takes for the same time. -/
theorem snapshot_mem_iff {file : String} : file :: snapshotPlace cwd kind stamp ∈ reach.places cwd ↔
    ∃ u, (kind, u) ∈ reach.snapshots ∧ kind.SameStamp stamp u := by
  constructor
  · intro h
    rcases h with ⟨name, _, hplace | hplace⟩ | ⟨⟨other, u⟩, hmem, file, hplace⟩
    · have hlength := congrArg List.length hplace
      simp only [currentPlace, currentDir, snapshotPlace, historyDir, List.length_cons] at hlength
      omega
    · have hlength := congrArg List.length hplace
      simp only [latestPlace, snapshotPlace, historyDir, List.length_cons] at hlength
      omega
    · have hname := (List.cons.inj (List.cons.inj hplace).2).1
      obtain ⟨rfl, hstamp⟩ := dirName_eq_iff.mp hname
      exact ⟨u, hmem, hstamp⟩
  · intro h
    obtain ⟨u, hmem, hstamp⟩ := h
    have hname : kind.dirName stamp = kind.dirName u := dirName_eq_iff.mpr ⟨rfl, hstamp⟩
    refine Or.inr ⟨(kind, u), hmem, file, ?_⟩
    rw [snapshotPlace, snapshotPlace, hname]

/-- Tasks that store a run reach its report and its directory. -/
theorem within_stores {files : List String} {tasks : List FileTask}
    (h : Stores cwd name kind stamp files tasks) :
    Within cwd (Reach.places cwd ⟨[name], [(kind, stamp)]⟩) (runTasks tasks) := by
  refine h.within.mono (fun place hplace => ?_)
  rcases hplace with rfl | ⟨file, rfl⟩
  · exact Or.inl ⟨name, List.mem_cons_self, Or.inl rfl⟩
  · exact Or.inr ⟨(kind, stamp), List.mem_cons_self, file, rfl⟩

theorem within_saveSummary (summary : Fields) (hname : Nameable name) (hmem : name ∈ reach.names) :
    Within cwd (reach.places cwd) (saveSummary m name summary) := by
  refine within_bind (within_writeFileSync ?_) (fun _ => within_writeFileSync ?_)
  · rw [resolve_currentPath hname.current]
    exact Or.inl ⟨name, hmem, Or.inl rfl⟩
  · rw [resolve_latestPath hname.latest]
    exact Or.inl ⟨name, hmem, Or.inr rfl⟩

theorem within_runSuite {s : Suite} (hname : Nameable s.name) (hmem : s.name ∈ reach.names) :
    Within cwd (reach.places cwd) (runSuite m s) := by
  refine within_bind (within_bind (within_mkdirSync _) (fun _ => within_mkdirSync _)) (fun _ =>
    within_bind (within_readJsonNames _) (fun _ => within_bind (within_mapM (fun _ _ => ?_))
      (fun _ => within_bind (within_saveSummary _ hname hmem) (fun _ => within_pure _))))
  exact within_bind (within_readJson _) (fun _ => within_orThrow _)

theorem within_compileOperatorReview (hsuite : quarantineRepairSuite.name ∈ reach.names)
    (hmem : operatorName ∈ reach.names) :
    Within cwd (reach.places cwd) (compileOperatorReview m) := by
  refine within_bind (within_execFileSync (within_runSuite nameable_quarantineRepairSuite hsuite))
    (fun _ => within_bind (within_readJson _) (fun _ => within_bind (within_orThrow _) (fun _ =>
      within_bind (within_orThrow _) (fun _ => within_ite (within_pure _) ?_))))
  exact within_bind (within_saveSummary _ nameable_operatorName hmem) (fun _ => within_pure _)

theorem within_simulateTestModeWriter (hsuite : quarantineRepairSuite.name ∈ reach.names)
    (hoperator : operatorName ∈ reach.names) (hmem : simulationName ∈ reach.names) :
    Within cwd (reach.places cwd) (simulateTestModeWriter m) := by
  refine within_bind (within_execFileSync (within_compileOperatorReview hsuite hoperator))
    (fun _ => within_bind (within_readJson _) (fun _ => within_bind (within_orThrow _) (fun _ =>
      within_bind (within_orThrow _) (fun _ => within_bind (within_orThrow _) (fun _ =>
        within_ite (within_pure _) ?_)))))
  exact within_bind (within_saveSummary _ nameable_simulationName hmem) (fun _ => within_pure _)

theorem within_validateObjects (created : Instant) :
    Within cwd (Reach.places cwd ⟨["v020-schema-validation"], [(.schemaValidation, stamp)]⟩)
      (validateObjects m stamp created) := by
  rw [validateObjects_eq]
  apply within_whenMain
  refine within_bind (within_mapM (fun _ _ => ?_)) (fun results =>
    within_bind (within_stores (stores_objectsTasks cwd results)) (fun _ => within_pure _))
  exact within_bind (within_readFileSync _) (fun _ => within_bind (within_readFileSync _) (fun _ =>
    within_bind (within_orThrow _) (fun _ => within_bind (within_orThrow _) (fun _ =>
      within_bind (within_orThrow _) (fun _ => within_pure _)))))

theorem within_evaluateCandidates (created : Instant) :
    Within cwd (Reach.places cwd ⟨["v020-classifier-comparator"], [(.classifierComparator, stamp)]⟩)
      (evaluateCandidates m stamp created) := by
  rw [evaluateCandidates_eq]
  apply within_whenMain
  refine within_bind (within_mapM (fun _ _ => ?_)) (fun reports =>
    within_bind (within_stores (stores_classifierTasks cwd reports)) (fun _ => within_pure _))
  exact within_bind (within_readFileSync _) (fun _ => within_bind (within_readFileSync _) (fun _ =>
    within_bind (within_orThrow _) (fun _ => within_bind (within_orThrow _) (fun _ =>
      within_orThrow _))))

theorem within_verifyWebhookSignatures :
    Within cwd (Reach.places cwd
      ⟨["admissorium-v020-webhook-signature"], [(.webhookSignature, stamp)]⟩)
      (verifyWebhookSignatures m stamp) := by
  rw [verifyWebhookSignatures_eq]
  exact within_bind (within_orThrow _) (fun results =>
    within_bind (within_stores (stores_webhookTasks cwd results)) (fun _ => within_pure _))

theorem within_runHostileFixtures :
    Within cwd (Reach.places cwd ⟨[batteryName], [(.hostileFixtures, stamp)]⟩)
      (runHostileFixtures m stamp) := by
  have hwrites : ∀ text, ∀ write ∈ writtenBy cwd (batteryWrites stamp text),
      write.1 ∈ Reach.places cwd ⟨[batteryName], [(.hostileFixtures, stamp)]⟩ := by
    intro text
    have hwritten : writtenBy cwd (batteryWrites stamp text) = _ := writtenBy_battery cwd text
    rw [hwritten, List.forall_mem_cons, List.forall_mem_singleton]
    exact ⟨Or.inl ⟨_, List.mem_cons_self, Or.inl rfl⟩,
      Or.inr ⟨_, List.mem_cons_self, _, rfl⟩⟩
  rw [runHostileFixtures_eq]
  refine within_bind (within_runTasks _ (List.forall_mem_nil _)) (fun _ =>
    within_bind (within_readJsonNames _) (fun files => within_bind (within_mapM (fun _ _ => ?_))
      (fun results => within_bind (within_runTasks _ (hwrites _)) (fun _ => within_pure _))))
  exact within_bind (within_readJson _) (fun _ => within_orThrow _)

theorem RunsScripts.within (h : RunsScripts m clocks cwd own npm) {script : Fs Outcome}
    {touched : Set Place} (hlookup : (npmScripts m clocks).lookup name = some script)
    (hwithin : Within cwd touched script) : Within cwd (touched ∪ own) (npm name) := by
  intro fs hcwd
  obtain ⟨start, hspawns⟩ := h.runs name script hlookup fs hcwd
  exact hspawns.framed hwithin hcwd

/-- A step changes nothing but what it reaches and files of npm, whether it returns or throws. -/
theorem within_step (h : RunsScripts m clocks cwd own npm) : ∀ step ∈ STEPS,
    Within cwd ((stepReach clocks step.1).places cwd ∪ own) (npm step.1) := by
  simp only [STEPS, List.forall_mem_cons, List.not_mem_nil, false_imp_iff, implies_true, and_true]
  exact ⟨h.within rfl (within_validateObjects _), h.within rfl (within_evaluateCandidates _),
    h.within rfl (within_runSuite nameable_verdictReceiptSuite (by simp [stepReach])),
    h.within rfl (within_runSuite nameable_quarantineRepairSuite (by simp [stepReach])),
    h.within rfl (within_compileOperatorReview (by simp [stepReach]) (by simp [stepReach])),
    h.within rfl (within_simulateTestModeWriter (by simp [stepReach]) (by simp [stepReach])
      (by simp [stepReach])),
    h.within rfl within_verifyWebhookSignatures, h.within rfl within_runHostileFixtures⟩

/-- What all eight steps reach. -/
def stepsReach (clocks : Clocks) : Reach where
  names := STEPS.flatMap (fun step => (stepReach clocks step.1).names)
  snapshots := STEPS.flatMap (fun step => (stepReach clocks step.1).snapshots)

theorem within_allSteps (h : RunsScripts m clocks cwd own npm) : ∀ step ∈ STEPS,
    Within cwd ((stepsReach clocks).places cwd ∪ own) (npm step.1) := by
  intro step hstep
  refine (within_step h step hstep).mono (Set.union_subset_union_left own ?_)
  exact Reach.mono (fun _ hname => List.mem_flatMap.mpr ⟨step, hstep, hname⟩)
    (fun _ hsnapshot => List.mem_flatMap.mpr ⟨step, hstep, hsnapshot⟩)

/-- Files of npm are no reports. -/
theorem RunsScripts.not_mem (h : RunsScripts m clocks cwd own npm) {place : Place}
    (hplace : cwd <:+ place) : place ∉ own :=
  fun hown => (h.outside place hown).1 hplace

end Reach

end Admissorium.Scripts
