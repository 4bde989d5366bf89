import Admissorium.Compare.AcceptedVsCandidate
import Admissorium.Scripts.SchemaValidation
import Admissorium.Scripts.SuiteReports

/-!
# The classifier suite

`v020/evaluate-candidate` compares five candidates with the accepted graph. It counts what is
blocked but never fails for it. A report passes exactly when the verdict suite admits the same
candidate and the graph lists the candidate's repository. The script only runs as the main module.
-/
namespace Admissorium.Scripts
set_option autoImplicit false

open JavaScript Json Files Signing Classify Verdict Verdict.Admission
open Compare.AcceptedVsCandidate Pipeline.QuarantineSuite

/-! ## The script -/

def acceptedGraphPath : String := "fixtures/v020/accepted-graph.example.json"

/-- The names of the candidate files, all of `candidateDir`. -/
def caseNames : List String :=
  ["projection-clean.example.json", "protected-truth-touch.example.json",
    "sovereign-language.example.json", "package-publish.example.json",
    "secret-bearing.example.json"]

def casePath (name : String) : String := "fixtures/v020/candidates/" ++ name

/-- `evaluateCandidate({ acceptedPath, candidatePath })`. -/
def evaluateCandidateFiles (m : Machine) (acceptedPath candidatePath : String) : Fs Value := do
  let acceptedText ← readFileSync acceptedPath
  let candidateText ← readFileSync candidatePath
  let accepted ← orThrow (Json.parse m.read acceptedText)
  let candidate ← orThrow (Json.parse m.read candidateText)
  orThrow (evaluateCandidate m.rt acceptedText candidateText accepted candidate)

/-- `report.state.endsWith(ending)`. -/
def stateEnds (ending : String) (report : Value) : Bool :=
  match report.get "state" with
  | .str state => Text.endsWith state ending
  | _ => false

def classifierCounts (reports : List Value) : Fields :=
  [("total", .num (reports.length : Nat)), ("blocked", count (stateEnds "_BLOCK") reports),
    ("passed", count (stateEnds "_PASS") reports)]

def classifierSuite (reports : List Value) : Fields :=
  [("report_type", .str "ADMISSORIUM_V020_CLASSIFIER_COMPARATOR_SUITE"),
    ("schema_version", .str "1.0.0"), ("admissorium_version", .str "0.2.0"),
    ("truth_warning", .str "NOT_TRUTH_SOURCE"),
    ("state", .str "ADMISSORIUM_V020_CLASSIFIER_COMPARATOR_SUITE_PASS"),
    ("system_complete", .bool false), ("writer_enabled", .bool false),
    ("webhook_enabled", .bool false)] ++ classifierCounts reports ++
  [("reports", .arr ((caseNames.zip reports).map fun (name, report) =>
    .obj [("candidatePath", .str (casePath name)), ("report", report)]))]

def classifierManifest (created : Instant) : Fields :=
  [("history_type", .str "ADMISSORIUM_V020_CLASSIFIER_COMPARATOR_HISTORY"),
    ("created_at", .str created.toISOString),
    ("current_report", .str "reports/current/v020-classifier-comparator.json"),
    ("state", .str "ADMISSORIUM_V020_CLASSIFIER_COMPARATOR_SUITE_PASS"),
    ("system_complete", .bool false), ("writer_enabled", .bool false),
    ("webhook_enabled", .bool false), ("check_run_writer_enabled", .bool false)]

def writeReports (m : Machine) (stamp created : Instant) : Fs (List Value) := do
  let reports ← caseNames.mapM (fun name => evaluateCandidateFiles m acceptedGraphPath (casePath name))
  mkdirSync "reports/current"
  saveJson m "reports/current/v020-classifier-comparator.json" (.obj (classifierSuite reports))
  mkdirSync (snapshotDir .classifierComparator stamp)
  saveJson m (snapshotDir .classifierComparator stamp ++ "/" ++ "manifest.json")
    (.obj (classifierManifest created))
  return reports

def candidatesScript : String := "src/v020/evaluate-candidate.js"

/-- `src/v020/evaluate-candidate.js`. -/
def evaluateCandidates (m : Machine) (stamp created : Instant) : Fs Outcome :=
  whenMain m candidatesScript do
    let reports ← writeReports m stamp created
    return ⟨printed m "ADMISSORIUM_V020_CLASSIFIER_COMPARATOR_PASS=true" (classifierCounts reports),
      0⟩

/-! ## Runs -/

section Runs
variable {m : Machine} {fs after after' : FileSystem} {stamp created : Instant} {outcome : Outcome}
  {stdout name : String}

def classifierTasks (m : Machine) (stamp created : Instant) (reports : List Value) :
    List FileTask :=
  manifestTasks "v020-classifier-comparator" .classifierComparator stamp
    (storedJson m (.obj (classifierSuite reports)))
    (storedJson m (.obj (classifierManifest created)))

theorem stores_classifierTasks (cwd : Place) (reports : List Value) :
    Stores cwd "v020-classifier-comparator" .classifierComparator stamp ["manifest.json"]
      (classifierTasks m stamp created reports) :=
  stores_manifestTasks (by decide) (by decide)

/-- Both files are read and the candidate is compared with the graph. -/
theorem evaluateCandidateFiles_eq_ok_iff {acceptedPath candidatePath : String} {report : Value} :
    evaluateCandidateFiles m acceptedPath candidatePath fs = .ok report after ↔
      (∃ acceptedText candidateText accepted candidate,
        (hasNul acceptedPath = false ∧ fs.text (resolve fs.cwd acceptedPath) = some acceptedText) ∧
        (hasNul candidatePath = false ∧
          fs.text (resolve fs.cwd candidatePath) = some candidateText) ∧
        Json.parse m.read acceptedText = .ok accepted ∧
        Json.parse m.read candidateText = .ok candidate ∧
        evaluateCandidate m.rt acceptedText candidateText accepted candidate = .ok report) ∧
      after = fs := by
  constructor
  · intro h
    obtain ⟨acceptedText, _, hfirst, hrest⟩ := run_bind_eq_ok.mp h
    obtain ⟨haccepted, rfl⟩ := readFileSync_eq_ok.mp hfirst
    obtain ⟨candidateText, _, hsecond, hparses⟩ := run_bind_eq_ok.mp hrest
    obtain ⟨hcandidate, rfl⟩ := readFileSync_eq_ok.mp hsecond
    obtain ⟨accepted, _, hthird, hlast⟩ := run_bind_eq_ok.mp hparses
    obtain ⟨hparse, rfl⟩ := orThrow_eq_ok.mp hthird
    obtain ⟨candidate, _, hfourth, hcompare⟩ := run_bind_eq_ok.mp hlast
    obtain ⟨hparse', rfl⟩ := orThrow_eq_ok.mp hfourth
    obtain ⟨hreport, rfl⟩ := orThrow_eq_ok.mp hcompare
    exact ⟨⟨acceptedText, candidateText, accepted, candidate, haccepted, hcandidate, hparse, hparse',
      hreport⟩, rfl⟩
  · intro h
    obtain ⟨⟨acceptedText, candidateText, accepted, candidate, haccepted, hcandidate, hparse,
      hparse', hreport⟩, rfl⟩ := h
    rw [evaluateCandidateFiles, run_bind_of_ok (readFileSync_eq_ok.mpr ⟨haccepted, rfl⟩),
      run_bind_of_ok (readFileSync_eq_ok.mpr ⟨hcandidate, rfl⟩),
      run_bind_of_ok (orThrow_eq_ok.mpr ⟨hparse, rfl⟩),
      run_bind_of_ok (orThrow_eq_ok.mpr ⟨hparse', rfl⟩)]
    exact orThrow_eq_ok.mpr ⟨hreport, rfl⟩

theorem looks_evaluateCandidateFiles (acceptedPath candidatePath : String) :
    Looks (evaluateCandidateFiles m acceptedPath candidatePath) :=
  fun _ _ _ h => (evaluateCandidateFiles_eq_ok_iff.mp h).2

def classifierOutcome (m : Machine) (reports : List Value) : Outcome :=
  ⟨printed m "ADMISSORIUM_V020_CLASSIFIER_COMPARATOR_PASS=true" (classifierCounts reports), 0⟩

theorem evaluateCandidates_eq (m : Machine) (stamp created : Instant) :
    evaluateCandidates m stamp created = whenMain m candidatesScript
      (caseNames.mapM (fun name => evaluateCandidateFiles m acceptedGraphPath (casePath name)) >>=
        fun reports => runTasks (classifierTasks m stamp created reports) >>= fun _ =>
          pure (classifierOutcome m reports)) := by
  simp only [evaluateCandidates, writeReports, classifierTasks, manifestTasks, runTasks,
    FileTask.run, saveJson, bind_assoc, pure_bind]
  rfl

theorem evaluateCandidates_eq_ok_iff (hmain : IsMain m fs.cwd candidatesScript) :
    evaluateCandidates m stamp created fs = .ok outcome after ↔
      ∃ reports, List.Forall₂ (fun name report =>
          evaluateCandidateFiles m acceptedGraphPath (casePath name) fs = .ok report fs)
        caseNames reports ∧ runTasks (classifierTasks m stamp created reports) fs = .ok () after ∧
        outcome = classifierOutcome m reports := by
  have hlooks : ∀ name, Looks (evaluateCandidateFiles m acceptedGraphPath (casePath name)) :=
    fun name => looks_evaluateCandidateFiles _ _
  rw [evaluateCandidates_eq, whenMain_of_isMain hmain, run_bind_eq_ok]
  constructor
  · intro h
    obtain ⟨reports, between, hcompare, h⟩ := h
    obtain ⟨hreports, rfl⟩ := (mapM_looks_eq_ok hlooks).mp hcompare
    obtain ⟨_, stored, htasks, hpure⟩ := run_bind_eq_ok.mp h
    obtain ⟨rfl, rfl⟩ := pure_eq_ok.mp hpure
    exact ⟨reports, hreports, htasks, rfl⟩
  · intro h
    obtain ⟨reports, hreports, htasks, rfl⟩ := h
    exact ⟨reports, fs, (mapM_looks_eq_ok hlooks).mpr ⟨hreports, rfl⟩,
      run_bind_eq_ok.mpr ⟨(), after, htasks, rfl⟩⟩

/-- There is a report once the candidate can be classified and the graph can be read. -/
theorem exists_evaluateCandidate {rt : Runtime} {acceptedText candidateText : String}
    {accepted candidate : Value} : (∃ report,
      evaluateCandidate rt acceptedText candidateText accepted candidate = .ok report) ↔
    (∃ surface, classifySurface rt candidate = .ok surface) ∧
      ∃ names, acceptedRepos accepted = .ok names := by
  constructor
  · intro h
    obtain ⟨report, hreport⟩ := h
    obtain ⟨surface, hsurface, hclassify⟩ := bind_eq_ok.mp hreport
    obtain ⟨_, _, hrisk⟩ := bind_eq_ok.mp hclassify
    obtain ⟨_, _, hcompare⟩ := bind_eq_ok.mp hrisk
    obtain ⟨_, hcomparison, _⟩ := bind_eq_ok.mp hcompare
    obtain ⟨names, hnames, _⟩ := bind_eq_ok.mp hcomparison
    exact ⟨⟨surface, hsurface⟩, names, hnames⟩
  · intro h
    obtain ⟨⟨surface, hsurface⟩, names, hnames⟩ := h
    obtain ⟨mutation, risk, hclass⟩ := exists_classified hsurface
    obtain ⟨paths, text, hread, _⟩ := reads_of_surface hclass.surface_eq
    obtain ⟨_, hfiles, _⟩ := bind_eq_ok.mp hread.paths_eq
    have hcomparison : ∃ comparison,
        compareAcceptedVsCandidate accepted candidate surface mutation risk = .ok comparison :=
      ⟨_, bind_eq_ok.mpr ⟨names, hnames, bind_eq_ok.mpr
        ⟨_, Value.prop_eq_get hfiles "repo", rfl⟩⟩⟩
    obtain ⟨comparison, hcomparison⟩ := hcomparison
    exact ⟨_, bind_eq_ok.mpr ⟨surface, hclass.surface_eq, bind_eq_ok.mpr ⟨mutation,
      hclass.mutation_eq, bind_eq_ok.mpr ⟨risk, hclass.risk_eq, bind_eq_ok.mpr
        ⟨comparison, hcomparison, rfl⟩⟩⟩⟩⟩

/-! ## Agreement with the verdict suite -/

/-- A candidate file that can be read is among the candidates. -/
theorem Candidates.mem {files : List (String × Value)} {candidate : Value}
    (h : Candidates m fs files)
    (hfinite : {name | fs.node (name :: candidatePlace fs.cwd) ≠ none}.Finite) (hname : IsName name)
    (hjson : Text.endsWith name ".json" = true)
    (hread : readJson m (join [candidateDir, name]) fs = .ok candidate fs) :
    (name, candidate) ∈ files := by
  have hplace : resolve fs.cwd (join [candidateDir, name]) = name :: candidatePlace fs.cwd :=
    resolve_join fs.cwd (by decide) hname
  obtain ⟨⟨text, ⟨_, htext⟩, _⟩, _⟩ := readJson_eq_ok.mp hread
  rw [hplace] at htext
  have hthere : fs.node (name :: candidatePlace fs.cwd) ≠ none :=
    node_ne_none_iff.mpr (Or.inr ⟨text, htext⟩)
  have hlisted := (m.listing.mem_names fs _ hfinite name).mpr hthere
  have hmem : name ∈ files.map Prod.fst := by
    rw [h.names, jsonNames, List.mem_insertionSort, List.mem_filter]
    exact ⟨hlisted, hjson⟩
  obtain ⟨file, hfile, rfl⟩ := List.mem_map.mp hmem
  have hsame := h.read file hfile
  rw [hread, EStateM.Result.ok.injEq] at hsame
  rw [hsame.1]
  exact hfile

/-- The report on a candidate passes when the graph lists its repository and its verdict admits
it. -/
theorem passes_iff_admitted {rt : Runtime} {file : String × Value} {accepted report v : Value}
    {acceptedText candidateText : String}
    (hreport : evaluateCandidate rt acceptedText candidateText accepted file.2 = .ok report)
    (hv : verdictResult rt file.1 file.2 = .ok v) :
    report.get "state" = .str "ADMISSORIUM_V020_CLASSIFIER_COMPARATOR_PASS" ↔
      RepoKnown accepted file.2 ∧ admittedReportOnly v = true := by
  obtain ⟨verdict, receipt, hverdict, _, rfl⟩ := verdictResult_eq_ok_iff.mp hv
  obtain ⟨surface, mutation, risk, hclass, hget⟩ := get_of_verdict hverdict
  obtain ⟨paths, text, hread, _⟩ := reads_of_surface hclass.surface_eq
  have hstate : verdict.get "state" = .str (verdictState risk) := hget _ (by decide)
  have hadmits : admittedReportOnly (.obj (verdictResultFields file.1 verdict receipt true true)) =
      true ↔ Admitted rt file.2 := by
    show (verdict.get "state").strictEquals (.str "ADMISSIBLE_REPORT_ONLY") = true ↔ _
    rw [hstate, Value.strictEquals_str, Value.str.injEq, verdictState_eq, admitted_iff]
    have hgreen := hclass.green_iff hread
    constructor
    · intro h
      refine ⟨paths, text, hread, hgreen.mp ?_⟩
      cases hrisk : risk.risk with
      | green => rfl
      | red =>
          rw [hrisk] at h
          exact absurd h (by decide)
    · intro h
      obtain ⟨paths', text', hread', hcalm⟩ := h
      rw [(hclass.green_iff hread').mpr hcalm]
  rw [hadmits, ← comparesAdmissible_iff, ← evaluateCandidate_pass_iff acceptedText candidateText]
  exact ⟨fun h => ⟨report, hreport, h⟩, fun h => by
    obtain ⟨other, hother, hpass⟩ := h
    rw [hreport, Except.ok.injEq] at hother
    exact hother ▸ hpass⟩

/-- What the classifier suite and the verdict suite say of a candidate file. -/
def CaseAgrees (m : Machine) (fs : FileSystem) (vs : List Value) (name : String) (report : Value) :
    Prop :=
  ∃ accepted candidate, ∃ v ∈ vs, readJson m acceptedGraphPath fs = .ok accepted fs ∧
    readJson m (casePath name) fs = .ok candidate fs ∧ v.get "file" = .str name ∧
    (report.get "state" = .str "ADMISSORIUM_V020_CLASSIFIER_COMPARATOR_PASS" ↔
      RepoKnown accepted candidate ∧ admittedReportOnly v = true)

theorem casePath_eq_join : ∀ name ∈ caseNames, casePath name = join [candidateDir, name] ∧
    IsName name ∧ Text.endsWith name ".json" = true := by decide +kernel

/-- The reports that the two suites of one tree store agree on the five candidates, if the
classifier suite is the main module; if not, it leaves the tree as it is. -/
theorem classifier_agrees_with_verdicts
    (hfinite : {name | fs.node (name :: candidatePlace fs.cwd) ≠ none}.Finite)
    (hc : evaluateCandidates m stamp created fs = .ok outcome after)
    (hv : Succeeds (compileVerdictReceipt m) fs stdout after') :
    (IsMain m fs.cwd candidatesScript →
      ∃ reports vs, List.Forall₂ (CaseAgrees m fs vs) caseNames reports ∧
        after.text (currentPlace fs.cwd "v020-classifier-comparator") =
          some (storedJson m (.obj (classifierSuite reports))) ∧
        after'.text (currentPlace fs.cwd verdictReceiptSuite.name) =
          some (storedJson m (.obj (verdictSummary vs)))) ∧
    (¬ IsMain m fs.cwd candidatesScript → outcome = ⟨"", 0⟩ ∧ after = fs) := by
  have hother : ¬ IsMain m fs.cwd candidatesScript → outcome = ⟨"", 0⟩ ∧ after = fs := by
    intro hmain
    rw [evaluateCandidates, whenMain_of_not_isMain hmain, EStateM.Result.ok.injEq] at hc
    exact ⟨hc.1.symm, hc.2.symm⟩
  refine ⟨fun hmain => ?_, hother⟩
  obtain ⟨reports, hreports, htasks, _⟩ := (evaluateCandidates_eq_ok_iff hmain).mp hc
  obtain ⟨_, _, files, vs, hcand, hpasses, _, hlaid⟩ :=
    of_runSuite nameable_verdictReceiptSuite hfinite hv
  have hstores : Stores fs.cwd "v020-classifier-comparator" .classifierComparator stamp
      ["manifest.json"] (classifierTasks m stamp created reports) := stores_classifierTasks _ _
  have hstored : after.text (currentPlace fs.cwd "v020-classifier-comparator") =
      some (storedJson m (.obj (classifierSuite reports))) :=
    hstores.text_of_mem (by decide) htasks List.mem_cons_self
  refine ⟨reports, vs, ?_, hstored, text_of_stored [] [] hlaid List.not_mem_nil⟩
  have hcases := (List.forall₂_and_left _ _).mpr ⟨casePath_eq_join, hreports⟩
  refine hcases.imp (fun name report hcase => ?_)
  obtain ⟨⟨hpath, hisName, hjson⟩, hreport⟩ := hcase
  obtain ⟨⟨acceptedText, candidateText, accepted, candidate, haccepted, hcandidate, hparse, hparse',
    hcompared⟩, _⟩ := evaluateCandidateFiles_eq_ok_iff.mp hreport
  have hread : readJson m (casePath name) fs = .ok candidate fs :=
    readJson_eq_ok.mpr ⟨⟨candidateText, hcandidate, hparse'⟩, rfl⟩
  have hmem : (name, candidate) ∈ files := hcand.mem hfinite hisName hjson (hpath ▸ hread)
  obtain ⟨v, hv, hresult⟩ := exists_of_forall₂_left hpasses.compiled hmem
  refine ⟨accepted, candidate, v, hv, readJson_eq_ok.mpr ⟨⟨acceptedText, haccepted, hparse⟩, rfl⟩,
    hread, ?_, passes_iff_admitted hcompared hresult⟩
  obtain ⟨_, _, _, _, rfl⟩ := verdictResult_eq_ok_iff.mp hresult
  rfl

end Runs

/-! ## One candidate of five admitted -/

def graphText : String := "\x7b\"repos\":[\x7b\"name\":\"A\"\x7d]\x7d"

def listedText : String := "\x7b\"repo\":\"A\"\x7d"

def listedCandidate : Value := .obj [("repo", .str "A")]

/-- A harmless candidate of a listed repository, and four that publish. -/
def caseTree : FileSystem :=
  .ofList [(["fixtures"], .dir), (["v020", "fixtures"], .dir),
    (["candidates", "v020", "fixtures"], .dir),
    (["accepted-graph.example.json", "v020", "fixtures"], .file graphText),
    (["projection-clean.example.json", "candidates", "v020", "fixtures"], .file listedText),
    (["protected-truth-touch.example.json", "candidates", "v020", "fixtures"], .file publishText),
    (["sovereign-language.example.json", "candidates", "v020", "fixtures"], .file publishText),
    (["package-publish.example.json", "candidates", "v020", "fixtures"], .file publishText),
    (["secret-bearing.example.json", "candidates", "v020", "fixtures"], .file publishText)]
    (by decide)

theorem mem_caseNames (name : String) :
    name ∈ caseNames ↔ caseTree.node (name :: candidatePlace []) ≠ none := by
  rw [caseTree, node_ofList_ne_none]
  simp [caseNames, candidatePlace]

theorem finite_caseTree :
    {name | caseTree.node (name :: candidatePlace caseTree.cwd) ≠ none}.Finite :=
  caseNames.finite_toSet.subset (fun name hname => (mem_caseNames name).mpr hname)

/-- The candidates in the order they are listed. -/
def sortedCases : List (String × Value) :=
  [("package-publish.example.json", publishCandidate),
    ("projection-clean.example.json", listedCandidate),
    ("protected-truth-touch.example.json", publishCandidate),
    ("secret-bearing.example.json", publishCandidate),
    ("sovereign-language.example.json", publishCandidate)]

theorem read_caseTree : ∀ file ∈ sortedCases,
    readJson wholeMachine (join [candidateDir, file.1]) caseTree = .ok file.2 caseTree := by
  have hpublish : Json.parse readWhole publishText = .ok publishCandidate := rfl
  have hlisted : Json.parse readWhole listedText = .ok listedCandidate := rfl
  simp only [sortedCases, List.forall_mem_cons, List.not_mem_nil, false_imp_iff, implies_true,
    and_true]
  exact ⟨readJson_eq_ok.mpr ⟨⟨publishText, by decide, hpublish⟩, rfl⟩,
    readJson_eq_ok.mpr ⟨⟨listedText, by decide, hlisted⟩, rfl⟩,
    readJson_eq_ok.mpr ⟨⟨publishText, by decide, hpublish⟩, rfl⟩,
    readJson_eq_ok.mpr ⟨⟨publishText, by decide, hpublish⟩, rfl⟩,
    readJson_eq_ok.mpr ⟨⟨publishText, by decide, hpublish⟩, rfl⟩⟩

theorem candidates_caseTree : Candidates wholeMachine caseTree sortedCases where
  dir := rfl
  names := by
    have hnames : jsonNames (wholeMachine.listing.names caseTree (candidatePlace [])) =
        jsonNames caseNames := jsonNames_eq_of_mem (by decide) mem_caseNames
    show sortedCases.map Prod.fst =
      jsonNames (wholeMachine.listing.names caseTree (candidatePlace []))
    rw [hnames]
    decide
  read := read_caseTree

theorem classified_caseTree : ∀ file ∈ sortedCases,
    ∃ surface, classifySurface wholeMachine.rt file.2 = .ok surface := by
  have hpublish : Rewrapping.riskOf .counting publishCandidate = .ok .red := by decide +kernel
  have hlisted : Rewrapping.riskOf .counting listedCandidate = .ok .green := by decide +kernel
  have hred := (blocks_of_riskOf hpublish).1
  have hgreen := (blocks_of_riskOf hlisted).1
  simp only [sortedCases, List.forall_mem_cons, List.not_mem_nil, false_imp_iff, implies_true,
    and_true]
  exact ⟨hred, hgreen, hred, hred, hred⟩

theorem succeeds_verdicts_caseTree :
    ∃ stdout after, Succeeds (compileVerdictReceipt wholeMachine) caseTree stdout after :=
  exists_compileVerdictReceipt finite_caseTree ⟨by decide, by decide⟩ ⟨by decide, by decide⟩
    candidates_caseTree classified_caseTree

theorem classifier_agrees_with_verdicts_caseTree : ∃ outcome after reports vs,
    evaluateCandidates wholeMachine epoch epoch caseTree = .ok outcome after ∧
      after.text (currentPlace [] "v020-classifier-comparator") =
        some (storedJson wholeMachine (.obj (classifierSuite reports))) ∧
      List.Forall₂ (CaseAgrees wholeMachine caseTree vs) caseNames reports := by
  have hgraph : Json.parse readWhole graphText =
      .ok (.obj [("repos", .arr [.obj [("name", .str "A")]])]) := rfl
  have hnames : acceptedRepos (.obj [("repos", .arr [.obj [("name", .str "A")]])]) =
      .ok [.str "A"] := rfl
  have hread : hasNul acceptedGraphPath = false ∧
      caseTree.text (resolve caseTree.cwd acceptedGraphPath) = some graphText := by decide
  have hcases : ∀ name ∈ caseNames, ∃ candidate, (name, candidate) ∈ sortedCases := by
    simp [caseNames, sortedCases]
  have hreports : ∀ name ∈ caseNames, ∃ report, evaluateCandidateFiles wholeMachine
      acceptedGraphPath (casePath name) caseTree = .ok report caseTree := by
    intro name hname
    obtain ⟨candidate, hcandidate⟩ := hcases name hname
    have hsame := read_caseTree _ hcandidate
    rw [← (casePath_eq_join name hname).1] at hsame
    obtain ⟨⟨candidateText, hfound, hparse⟩, _⟩ := readJson_eq_ok.mp hsame
    obtain ⟨report, hreport⟩ := exists_evaluateCandidate.mpr
      ⟨classified_caseTree _ hcandidate, _, hnames⟩
    exact ⟨report, evaluateCandidateFiles_eq_ok_iff.mpr
      ⟨⟨graphText, candidateText, _, candidate, hread, hfound, hgraph, hparse, hreport⟩, rfl⟩⟩
  obtain ⟨reports, hreports⟩ := exists_forall₂ hreports
  have hroom : RoomFor caseTree "v020-classifier-comparator" .classifierComparator epoch
      ["manifest.json"] := roomFor_of_none _ _ _ _ (by decide) rfl
  have hstores : Stores caseTree.cwd "v020-classifier-comparator" .classifierComparator epoch
      ["manifest.json"] (classifierTasks wholeMachine epoch epoch reports) :=
    stores_classifierTasks _ _
  obtain ⟨after, htasks⟩ := hstores.run_iff.1.mpr hroom
  have hmain : IsMain wholeMachine caseTree.cwd candidatesScript := rfl
  have hrun := (evaluateCandidates_eq_ok_iff hmain).mpr ⟨reports, hreports, htasks, rfl⟩
  obtain ⟨_, _, hverdicts⟩ := succeeds_verdicts_caseTree
  obtain ⟨stored, vs, hagree, htext, _⟩ :=
    (classifier_agrees_with_verdicts finite_caseTree hrun hverdicts).1 hmain
  exact ⟨_, after, stored, vs, hrun, htext, hagree⟩

end Admissorium.Scripts
