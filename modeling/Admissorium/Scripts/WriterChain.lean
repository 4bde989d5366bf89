import Admissorium.Classify.Rewrapping
import Admissorium.Pipeline.WriterSeed
import Admissorium.Scripts.StoredSuites

/-!
# The chain that ends in the simulated writer

`v020/simulate-test-mode-writer` runs `v020/compile-operator-review-bundle` as a child, which runs
`v020/route-quarantine-repair`; each hands its summary to the next in a file of `reports/current`.
The last one insists on five cases, of which four are quarantined.
-/
namespace Admissorium.Scripts
set_option autoImplicit false

open JavaScript Json Files Signing Signing.Replay Classify Verdict Verdict.Admission
open Pipeline.QuarantineSuite Pipeline.WriterSimulation Pipeline.StoredBundle Pipeline.WriterSeed

/-! ## The operator's bundle -/

/-- The field of a summary is exactly `value`. -/
def tells (summary : Fields) (key : String) (value : Value) : Bool :=
  ((Value.obj summary).get key).strictEquals value

/-- The flags the script copies from a bundle and checks again. -/
def operatorFlags : List String :=
  ["writer_enabled", "webhook_enabled", "check_run_writer_enabled", "pr_writer_enabled",
    "issue_writer_enabled", "allowed_to_mutate_truth"]

def operatorSummary (bundle : Value) (bundle_signature_ok : Bool) : Fields :=
  [("report_type", .str "ADMISSORIUM_V020_OPERATOR_REVIEW_BUNDLE_SUITE"),
    ("schema_version", .str "1.0.0"), ("generated_at", epochStart),
    ("state", .str "ADMISSORIUM_V020_OPERATOR_REVIEW_BUNDLE_PASS"),
    ("bundle_signature_ok", .bool bundle_signature_ok), ("total", bundle.get "total"),
    ("quarantined", bundle.get "quarantined"),
    ("passed_without_quarantine", bundle.get "passed_without_quarantine"),
    ("failed", bundle.get "failed")] ++
  operatorFlags.map (fun key => (key, bundle.get key)) ++ [("bundle", bundle)]

def operatorRefuses (summary : Fields) : Bool :=
  !((Value.obj summary).get "bundle_signature_ok").truthy || !tells summary "failed" (.num 0) ||
    operatorFlags.any (fun key => !tells summary key (.bool false))

def operatorName : String := "v020-operator-review-bundle"

/-- What the child has printed, and the script after it. -/
def operatorOutput (m : Machine) (inherited : String) (summary : Fields) : String :=
  inherited ++ printed m "ADMISSORIUM_V020_OPERATOR_REVIEW_BUNDLE_PASS=true"
    (picked ["total", "quarantined", "passed_without_quarantine", "bundle_signature_ok", "failed"]
      summary)

/-- `src/v020/compile-operator-review-bundle.js`. -/
def compileOperatorReview (m : Machine) : Fs Outcome := do
  let inherited ← execFileSync "node src/v020/route-quarantine-repair.js" (routeQuarantineRepair m)
  let suite ← readJson m (currentPath quarantineRepairSuite.name)
  let bundle ← orThrow (compileOperatorReviewBundle m.rt suite suiteOptions)
  let bundle_signature_ok ← orThrow (signatureOk m.rt bundle)
  let summary := operatorSummary bundle bundle_signature_ok
  if operatorRefuses summary then return ⟨inherited, 1⟩
  else do
    saveSummary m operatorName summary
    return ⟨operatorOutput m inherited summary, 0⟩

/-! ## The simulated writer -/

/-- The flags that are off in every packet and in the simulation. -/
def simulationFlags : List String :=
  ["writer_enabled", "network_enabled", "token_required", "webhook_enabled",
    "check_run_writer_enabled", "pr_writer_enabled", "issue_writer_enabled",
    "allowed_to_mutate_truth"]

/-- A packet that is not a dry run, or that could reach something. -/
def writerViolation (p : Value) : Bool :=
  !(p.get "executed").strictEquals (.bool false) || !(p.get "dry_run").strictEquals (.bool true) ||
    simulationFlags.any (fun key => !(p.get key).strictEquals (.bool false)) ||
    !(p.get "external_target").strictEquals (.str "NONE")

def simulationSummary (simulation : Value) (simulation_signature_ok : Bool)
    (packet_signature_failures writer_violations : Nat) : Fields :=
  [("report_type", .str "ADMISSORIUM_V020_TEST_MODE_WRITER_SIMULATION_SUITE"),
    ("schema_version", .str "1.0.0"), ("generated_at", epochStart),
    ("state", .str "ADMISSORIUM_V020_TEST_MODE_WRITER_SIMULATION_PASS"),
    ("simulation_signature_ok", .bool simulation_signature_ok),
    ("packet_signature_failures", .num packet_signature_failures),
    ("writer_violations", .num writer_violations), ("total_cases", simulation.get "total_cases"),
    ("check_run_packet_count", simulation.get "check_run_packet_count"),
    ("issue_packet_count", simulation.get "issue_packet_count"),
    ("pull_request_packet_count", simulation.get "pull_request_packet_count"),
    ("total_packets", simulation.get "total_packets")] ++
  simulationFlags.map (fun key => (key, simulation.get key)) ++ [("simulation", simulation)]

/-- The numbers the script insists on. -/
def expectedCounts : List (String × Number) :=
  [("packet_signature_failures", 0), ("writer_violations", 0), ("total_cases", 5),
    ("check_run_packet_count", 5), ("issue_packet_count", 4), ("pull_request_packet_count", 5),
    ("total_packets", 14)]

def simulationRefuses (summary : Fields) : Bool :=
  !tells summary "simulation_signature_ok" (.bool true) ||
    expectedCounts.any (fun expected => !tells summary expected.1 (.num expected.2)) ||
    simulationFlags.any (fun key => !tells summary key (.bool false))

def simulationName : String := "v020-test-mode-writer-simulation"

def simulationOutput (m : Machine) (inherited : String) (summary : Fields) : String :=
  inherited ++ printed m "ADMISSORIUM_V020_TEST_MODE_WRITER_SIMULATION_PASS=true"
    (picked ["total_cases", "total_packets", "check_run_packet_count", "issue_packet_count",
      "pull_request_packet_count", "writer_violations"] summary)

/-- `src/v020/simulate-test-mode-writer.js`. -/
def simulateTestModeWriter (m : Machine) : Fs Outcome := do
  let inherited ← execFileSync "node src/v020/compile-operator-review-bundle.js"
    (compileOperatorReview m)
  let operatorReport ← readJson m (currentPath operatorName)
  let simulation ← orThrow (compileTestModeWriterSimulation m.rt operatorReport suiteOptions)
  let verified ← orThrow ((packetsOf simulation).mapM (signatureOk m.rt))
  let simulation_signature_ok ← orThrow (signatureOk m.rt simulation)
  let summary := simulationSummary simulation simulation_signature_ok
    (verified.filter (fun ok => !ok)).length ((packetsOf simulation).filter writerViolation).length
  if simulationRefuses summary then return ⟨inherited, 1⟩
  else do
    saveSummary m simulationName summary
    return ⟨simulationOutput m inherited summary, 0⟩

theorem nameable_operatorName : Nameable operatorName := by decide +kernel

theorem nameable_simulationName : Nameable simulationName := by decide +kernel

/-! ## The quarantine suite passes -/

section Suite
variable {m : Machine} {fs after : FileSystem} {files : List (String × Value)}
  {results : List Value} {stdout : String}

theorem Candidates.parsed (h : Candidates m fs files) : ∀ file ∈ files, Parsed m.read file.2 := by
  intro file hfile
  obtain ⟨⟨text, _, hparse⟩, _⟩ := readJson_eq_ok.mp (h.read file hfile)
  exact parsed_of_parse hparse

theorem resultOf_of_suiteResult {file : String × Value} {result : Value}
    (h : suiteResult m.rt file.1 file.2 = .ok result) : ResultOf m.rt file result := by
  obtain ⟨stages, hstages, _⟩ := bind_eq_ok.mp h
  obtain ⟨verdict, hverdict, _⟩ := bind_eq_ok.mp hstages
  obtain ⟨_, _, _, hclass, _⟩ := get_of_verdict hverdict
  exact resultOf_suiteResult hclass h

/-- The suite passes with the results of its candidates, whichever they are. -/
theorem passes_iff (hparsed : ∀ file ∈ files, Parsed m.read file.2) :
    Passes m quarantineRepairSuite files results ↔ List.Forall₂ (ResultOf m.rt) files results := by
  constructor
  · exact fun h => h.compiled.imp (fun _ _ => resultOf_of_suiteResult)
  · intro h
    refine ⟨h.imp (fun file result hresult => ?_), fun result hresult => ?_⟩
    · obtain ⟨_, _, _, stages, _, hstages, rfl⟩ := hresult.stages
      exact (suiteResult_eq_ok_iff file.1 _).mpr ⟨stages, hstages, rfl⟩
    · obtain ⟨file, hfile, hof⟩ := exists_of_forall₂_right h hresult
      exact resultFailed_eq_false hof (hparsed file hfile)

/-- There are results exactly when every candidate can be classified. -/
theorem exists_results_iff (m : Machine) (files : List (String × Value)) :
    (∃ results, List.Forall₂ (ResultOf m.rt) files results) ↔ Accepted m.rt files := by
  constructor
  · intro h file hfile
    obtain ⟨results, h⟩ := h
    obtain ⟨result, _, hresult⟩ := exists_of_forall₂_left h hfile
    obtain ⟨surface, _, _, _, hclass, _⟩ := hresult.stages
    exact ⟨surface, hclass.surface_eq⟩
  · intro h
    obtain ⟨results, _, hresults⟩ := exists_results h
    exact ⟨results, hresults⟩

end Suite

/-! ## The bundle passes -/

section Bundle
variable {m : Machine} {fs between after : FileSystem} {files : List (String × Value)}
  {results : List Value} {bundle : Value} {stdout : String}

/-- A summary is read back while nothing else is stored under its name. -/
theorem read_stored {name : String} {summary : Fields} (writes later : List (Place × String))
    (hm : Numerals m) (hname : Nameable name) (hparsed : Parsed m.read (.obj summary))
    (h : LaidReports fs (writes ++ (summaryWrites m fs.cwd name summary ++ later)) between)
    (hlater : currentPlace fs.cwd name ∉ later.map Prod.fst) :
    readJson m (currentPath name) between = .ok (.obj summary) between := by
  refine readJson_eq_ok.mpr ⟨⟨_, ⟨hname.current_nul, ?_⟩, parse_storedJson hm hparsed⟩, rfl⟩
  rw [resolve_currentPath hname.current, h.wrote.cwd]
  exact text_of_stored writes later h hlater

theorem read_last {name : String} {summary : Fields} (writes : List (Place × String))
    (hm : Numerals m) (hname : Nameable name) (hparsed : Parsed m.read (.obj summary))
    (h : LaidReports fs (writes ++ summaryWrites m fs.cwd name summary) between) :
    readJson m (currentPath name) between = .ok (.obj summary) between := by
  have hnil : writes ++ summaryWrites m fs.cwd name summary =
      writes ++ (summaryWrites m fs.cwd name summary ++ []) := by rw [List.append_nil]
  rw [hnil] at h
  exact read_stored writes [] hm hname hparsed h List.not_mem_nil

theorem failed_suite (h : List.Forall₂ (ResultOf m.rt) files results)
    (hparsed : ∀ file ∈ files, Parsed m.read file.2) : count resultFailed results = .num 0 := by
  have hnone : results.filter resultFailed = [] := by
    rw [List.filter_eq_nil_iff]
    intro result hresult
    obtain ⟨file, hfile, hof⟩ := exists_of_forall₂_right h hresult
    rw [resultFailed_eq_false hof (hparsed file hfile)]
    exact Bool.false_ne_true
  rw [count, hnone]
  rfl

theorem flags_bundle (hbundle : signObject m.rt (bundleOfResults results) .undefined = .ok bundle) :
    ∀ key ∈ operatorFlags, bundle.get key = .bool false := by
  simp only [operatorFlags, List.forall_mem_cons, List.not_mem_nil, false_imp_iff, implies_true,
    and_true]
  exact ⟨get_of_signObject hbundle (by decide), get_of_signObject hbundle (by decide),
    get_of_signObject hbundle (by decide), get_of_signObject hbundle (by decide),
    get_of_signObject hbundle (by decide), get_of_signObject hbundle (by decide)⟩

/-- The bundle of parsed candidates is signed, has its writers off and no failure. -/
theorem accepts_bundle (h : List.Forall₂ (ResultOf m.rt) files results)
    (hparsed : ∀ file ∈ files, Parsed m.read file.2)
    (hbundle : signObject m.rt (bundleOfResults results) .undefined = .ok bundle) :
    signatureOk m.rt bundle = .ok true ∧ operatorRefuses (operatorSummary bundle true) = false := by
  have hflags := flags_bundle hbundle
  have hfailed : bundle.get "failed" = .num 0 := by
    have hget : bundle.get "failed" = count resultFailed results :=
      get_of_signObject hbundle (by decide)
    rw [hget, failed_suite h hparsed]
  have hcopied : ∀ key ∈ operatorFlags,
      (Value.obj (operatorSummary bundle true)).get key = bundle.get key := by
    simp only [operatorFlags, List.forall_mem_cons, List.not_mem_nil, false_imp_iff, implies_true,
      and_true]
    exact ⟨rfl, rfl, rfl, rfl, rfl, rfl⟩
  have hoff : operatorFlags.any
      (fun key => !tells (operatorSummary bundle true) key (.bool false)) = false := by
    rw [List.any_eq_false]
    intro key hkey
    rw [tells, hcopied key hkey, hflags key hkey]
    decide
  have hzero : tells (operatorSummary bundle true) "failed" (.num 0) = true := by
    change (bundle.get "failed").strictEquals (.num 0) = true
    rw [hfailed]
    decide
  constructor
  · obtain ⟨own, rfl⟩ := isObject_of_signObject hbundle
    exact verify_of_signObject hbundle
  · rw [operatorRefuses, hoff, hzero]
    rfl

theorem parsed_operatorSummary (hm : Numerals m) (hlength : results.length < 2 ^ 32)
    (h : List.Forall₂ (ResultOf m.rt) files results)
    (hparsed : ∀ file ∈ files, Parsed m.read file.2)
    (hbundle : signObject m.rt (bundleOfResults results) .undefined = .ok bundle) :
    Parsed m.read (.obj (operatorSummary bundle true)) := by
  have hkeys : (operatorSummary bundle true).map Prod.fst =
      (operatorSummary .undefined true).map Prod.fst := rfl
  have hcount : ∀ test : Value → Bool, Parsed m.read (count test results) := fun test =>
    parsed_count hm (Nat.lt_of_le_of_lt (List.length_filter_le test results) hlength)
  have htotal : bundle.get "total" = .num (results.length : Nat) :=
    get_of_signObject hbundle (by decide)
  have hquarantined : bundle.get "quarantined" = count quarantineRequired results :=
    get_of_signObject hbundle (by decide)
  have hpassed : bundle.get "passed_without_quarantine" =
      count (fun r => !quarantineRequired r) results := get_of_signObject hbundle (by decide)
  have hfailed : bundle.get "failed" = count resultFailed results :=
    get_of_signObject hbundle (by decide)
  refine parsed_obj ⟨by rw [hkeys]; decide +kernel, ?_⟩
  simp only [operatorSummary, List.forall_mem_append, List.forall_mem_map, List.forall_mem_cons,
    List.not_mem_nil, false_imp_iff, implies_true, and_true, parsed_str, parsed_bool, epochStart,
    htotal, hquarantined, hpassed, hfailed, hcount, parsed_count hm hlength,
    parsed_bundleOfResults hm hlength h hparsed hbundle, true_and]
  intro key hkey
  rw [flags_bundle hbundle key hkey]
  exact parsed_bool false

end Bundle

/-! ## The chain up to the bundle -/

/-- The candidate directory is finite, and its names fit into an array. -/
structure Listable (m : Machine) (fs : FileSystem) : Prop where
  finite : {name | fs.node (name :: candidatePlace fs.cwd) ≠ none}.Finite
  small : (jsonNames (m.listing.names fs (candidatePlace fs.cwd))).length < 2 ^ 32

/-- The suite and the bundle can be compiled and stored. -/
structure Reviewed (m : Machine) (fs : FileSystem) (files : List (String × Value))
    (results : List Value) (bundle : Value) : Prop where
  makeable : Makeable fs
  suite_free : Free fs quarantineRepairSuite.name
  bundle_free : Free fs operatorName
  candidates : Candidates m fs files
  of_files : List.Forall₂ (ResultOf m.rt) files results
  bundle_eq : signObject m.rt (bundleOfResults results) .undefined = .ok bundle

def reviewWrites (m : Machine) (cwd : Place) (results : List Value) (bundle : Value) :
    List (Place × String) :=
  summaryWrites m cwd quarantineRepairSuite.name (suiteFields results) ++
    summaryWrites m cwd operatorName (operatorSummary bundle true)

section Review
variable {m : Machine} {fs after : FileSystem} {files : List (String × Value)}
  {results : List Value} {bundle : Value} {stdout : String}

theorem length_results (hlist : Listable m fs) (hcand : Candidates m fs files)
    (h : List.Forall₂ (ResultOf m.rt) files results) : results.length < 2 ^ 32 := by
  have hnames := congrArg List.length hcand.names
  rw [List.length_map] at hnames
  rw [← h.length_eq, hnames]
  exact hlist.small

theorem parsed_suiteFields (hm : Numerals m) (hlist : Listable m fs) (hcand : Candidates m fs files)
    (h : List.Forall₂ (ResultOf m.rt) files results) :
    Parsed m.read (.obj (suiteFields results)) := by
  refine parsed_suite hm (length_results hlist hcand h) (fun result hresult => ?_)
  obtain ⟨file, hfile, hof⟩ := exists_of_forall₂_right h hresult
  exact parsed_result hof (hcand.parsed file hfile)

/-- A review that exits with 0 has stored the suite and the bundle, and nothing else. -/
theorem reviewed_of_operator (hm : Numerals m) (hlist : Listable m fs)
    (h : Succeeds (compileOperatorReview m) fs stdout after) :
    ∃ files results bundle, Reviewed m fs files results bundle ∧
      LaidReports fs (reviewWrites m fs.cwd results bundle) after := by
  obtain ⟨inherited, between, hchild, hread⟩ := run_bind_eq_ok.mp h
  obtain ⟨suite, looked, hsuite, hcompile⟩ := run_bind_eq_ok.mp hread
  obtain ⟨bundle, compiled, hbundle, hverify⟩ := run_bind_eq_ok.mp hcompile
  obtain ⟨ok, verified, hok, hend⟩ := run_bind_eq_ok.mp hverify
  obtain ⟨hmakeable, hfree, files, results, hcand, hpasses, _, hlaid⟩ :=
    of_runSuite nameable_quarantineRepairSuite hlist.finite (execFileSync_eq_ok.mp hchild)
  have hof := (passes_iff hcand.parsed).mp hpasses
  have hstored := read_last [] hm nameable_quarantineRepairSuite
    (parsed_suiteFields hm hlist hcand hof) hlaid
  rw [hstored, EStateM.Result.ok.injEq] at hsuite
  obtain ⟨rfl, rfl⟩ := hsuite
  obtain ⟨heq, rfl⟩ := orThrow_eq_ok.mp hbundle
  obtain ⟨hverified, rfl⟩ := orThrow_eq_ok.mp hok
  rw [compile_bundleOfResults hof] at heq
  obtain ⟨hsigned, haccepts⟩ := accepts_bundle hof hcand.parsed heq
  obtain rfl := Except.ok.inj (hsigned.symm.trans hverified)
  simp only [haccepts, Bool.false_eq_true, if_false] at hend
  obtain ⟨_, saved, hsave, hpure⟩ := run_bind_eq_ok.mp hend
  obtain ⟨_, rfl⟩ := pure_eq_ok.mp hpure
  obtain ⟨hbundleFree, hafter⟩ := free_of_saveSummary nameable_operatorName hlaid hsave
  exact ⟨files, results, bundle, ⟨hmakeable, hfree, hbundleFree, hcand, hof, heq⟩, hafter⟩

theorem exists_operator (hm : Numerals m) (hlist : Listable m fs)
    (h : Reviewed m fs files results bundle) :
    ∃ stdout after, Succeeds (compileOperatorReview m) fs stdout after ∧
      LaidReports fs (reviewWrites m fs.cwd results bundle) after := by
  have hparsed := h.candidates.parsed
  obtain ⟨between, hchild, hlaid⟩ := exists_runSuite nameable_quarantineRepairSuite hlist.finite
    h.makeable h.suite_free h.candidates ((passes_iff hparsed).mpr h.of_files)
  have hread := read_last [] hm nameable_quarantineRepairSuite
    (parsed_suiteFields hm hlist h.candidates h.of_files) hlaid
  have hcompile : orThrow (compileOperatorReviewBundle m.rt (.obj (suiteFields results))
      suiteOptions) between = .ok bundle between :=
    orThrow_eq_ok.mpr ⟨(compile_bundleOfResults h.of_files).trans h.bundle_eq, rfl⟩
  obtain ⟨hsigned, haccepts⟩ := accepts_bundle h.of_files hparsed h.bundle_eq
  have hverify : orThrow (signatureOk m.rt bundle) between = .ok true between :=
    orThrow_eq_ok.mpr ⟨hsigned, rfl⟩
  obtain ⟨after, hsave⟩ := exists_saveSummary m (operatorSummary bundle true)
    nameable_operatorName hlaid h.bundle_free
  refine ⟨operatorOutput m (quarantineRepairSuite.output m results) (operatorSummary bundle true),
    after, ?_, (free_of_saveSummary nameable_operatorName hlaid hsave).2⟩
  have hquarantine : execFileSync "node src/v020/route-quarantine-repair.js"
      (routeQuarantineRepair m) fs = .ok (quarantineRepairSuite.output m results) between :=
    execFileSync_eq_ok.mpr hchild
  rw [Succeeds, compileOperatorReview, run_bind_of_ok hquarantine, run_bind_of_ok hread, run_bind_of_ok hcompile, run_bind_of_ok hverify]
  simp only [haccepts, Bool.false_eq_true, if_false]
  rw [run_bind_of_ok hsave, pure_eq_ok]
  exact ⟨rfl, rfl⟩

end Review

/-! ## The simulation of a bundle -/

section Simulation
variable {m : Machine} {files : List (String × Value)} {results cases : List Value}
  {bundle report simulation generated_at c packet : Value}
  {checkRuns issues pulls : List Value}

theorem casesOf_operatorSummary (hbundle : signObject m.rt (bundleOfResults results) .undefined =
    .ok bundle) : casesOf (.obj (operatorSummary bundle true)) =
      .ok (results.map (fun r => .obj (caseFields r))) := by
  obtain ⟨own, rfl⟩ := isObject_of_signObject hbundle
  have hcases : (Value.obj own).get "cases" = .arr (results.map (fun r => .obj (caseFields r))) :=
    get_of_signObject hbundle (by decide)
  have hprop : Value.prop (.obj (operatorSummary (.obj own) true)) "bundle" = .ok (.obj own) := rfl
  have hor : (Value.obj own).or (.obj (operatorSummary (.obj own) true)) = .obj own := rfl
  have harray : (((Value.obj own).get "cases").or (.arr [])).asArray =
      .ok (results.map (fun r => .obj (caseFields r))) := by
    rw [hcases]
    rfl
  rw [casesOf, hprop, ok_bind, hor]
  exact harray

theorem cases_of_results {rt : Runtime} (h : List.Forall₂ (ResultOf rt) files results) :
    List.Forall₂ (CaseOf rt) files (results.map (fun r => .obj (caseFields r))) := by
  rw [List.forall₂_map_right_iff]
  refine h.imp (fun file result hresult => ?_)
  obtain ⟨c, hc⟩ := exists_compileCase hresult
  have hcase := caseOf_compileCase hresult hc
  obtain ⟨_, _, hpure⟩ := bind_eq_ok.mp hc
  cases hpure
  exact hcase

/-- Cases whose ids have a text are compiled. -/
theorem exists_compiled_simulation (hcases : casesOf report = .ok cases)
    (hof : List.Forall₂ (CaseOf m.rt) files cases)
    (hids : ∀ file ∈ files, ∃ id, (candidateId file.2).toText m.rt = .ok id) :
    ∃ simulation, compileTestModeWriterSimulation m.rt report suiteOptions = .ok simulation := by
  have hid : ∀ c ∈ cases, ∃ file, CaseOf m.rt file c ∧
      ∃ id, (candidateId file.2).toText m.rt = .ok id := by
    intro c hc
    obtain ⟨file, hfile, hcase⟩ := exists_of_forall₂_right hof hc
    exact ⟨file, hcase, hids file hfile⟩
  obtain ⟨own, hbundle, hlist⟩ := bind_eq_ok.mp hcases
  have harray : (((own.or report).get "cases").or (.arr [])).asArray = .ok cases := hlist
  obtain ⟨checkRuns, hchecks⟩ := exists_mapM_eq_ok
    (f := checkRunPacket m.rt (generatedAt suiteOptions report)) (fun c hc => by
      obtain ⟨file, hcase, id, htext⟩ := hid c hc
      exact exists_checkRunPacket hcase htext)
  obtain ⟨issues, hissues⟩ := exists_mapM_eq_ok (l := cases.filter quarantineRequired)
    (f := issuePacket m.rt (generatedAt suiteOptions report)) (fun c hc => by
      obtain ⟨file, hcase, id, htext⟩ := hid c (List.mem_filter.mp hc).1
      exact exists_issuePacket hcase htext)
  obtain ⟨pulls, hpulls⟩ := exists_mapM_eq_ok
    (f := pullRequestPacket m.rt (generatedAt suiteOptions report)) (fun c hc => by
      obtain ⟨file, hcase, id, htext⟩ := hid c hc
      exact exists_pullRequestPacket hcase htext)
  obtain ⟨signed, hsigned, _⟩ := exists_signObject m.rt (simulationFields (own.or report)
    (generatedAt suiteOptions report) cases.length checkRuns issues pulls) seedText_undefined
  refine ⟨.obj signed, ?_⟩
  simp only [compileTestModeWriterSimulation, hbundle, ok_bind, harray, hchecks, hissues, hpulls]
  exact hsigned

/-- The first packet of a case writes the id of its candidate. -/
theorem ids_of_compiled (hof : List.Forall₂ (CaseOf m.rt) files cases)
    (h : Compiled m.rt report suiteOptions cases checkRuns issues pulls simulation) :
    ∀ file ∈ files, ∃ id, (candidateId file.2).toText m.rt = .ok id := by
  intro file hfile
  obtain ⟨c, hc, hcase⟩ := exists_of_forall₂_left hof hfile
  obtain ⟨packet, _, hpacket⟩ := exists_of_mem_of_mapM h.check_run_packets hc
  obtain ⟨id, hid, _⟩ := bind_eq_ok.mp hpacket
  rw [templated, hcase.id] at hid
  exact ⟨id, hid⟩

theorem length_mapM {α β : Type} {f : α → Except JsError β} {l : List α} {ms : List β}
    (h : l.mapM f = .ok ms) : ms.length = l.length :=
  ((mapM_eq_ok_iff f l ms).mp h).length_eq.symm

/-- The numbers of packets of each kind. -/
structure Counted (files : List (String × Value)) (blocked : Value → Bool) (simulation : Value) :
    Prop where
  total_cases : simulation.get "total_cases" = .num (files.length : Nat)
  check_runs : simulation.get "check_run_packet_count" = .num (files.length : Nat)
  issues : simulation.get "issue_packet_count" =
    .num ((files.filter (fun file => blocked file.2)).length : Nat)
  pulls : simulation.get "pull_request_packet_count" = .num (files.length : Nat)
  total : simulation.get "total_packets" =
    .num (files.length + (files.filter (fun file => blocked file.2)).length + files.length : Nat)

theorem counted_of_compiled (hof : List.Forall₂ (CaseOf m.rt) files cases)
    (h : Compiled m.rt report suiteOptions cases checkRuns issues pulls simulation) :
    Counted files (blocks m.rt) simulation := by
  obtain ⟨own, hsigned⟩ := h.signed
  have hcases : cases.length = files.length := hof.length_eq.symm
  have hissues : (cases.filter quarantineRequired).length =
      (files.filter (fun file => blocks m.rt file.2)).length := by
    have hbit : ∀ file c, CaseOf m.rt file c →
        (blocks m.rt file.2 = true ↔ quarantineRequired c = true) := fun file c hcase => by
      rw [hcase.quarantineRequired_eq]
    exact (List.rel_filter (fun _ _ hc => hbit _ _ hc) hof).length_eq.symm
  have hchecks := length_mapM h.check_run_packets
  have hlisted := length_mapM h.issue_packets
  have hpulls := length_mapM h.pull_request_packets
  have htotal : simulation.get "total_cases" = .num (cases.length : Nat) :=
    get_of_signObject hsigned (by decide)
  have hcheck : simulation.get "check_run_packet_count" = .num (checkRuns.length : Nat) :=
    get_of_signObject hsigned (by decide)
  have hissue : simulation.get "issue_packet_count" = .num (issues.length : Nat) :=
    get_of_signObject hsigned (by decide)
  have hpull : simulation.get "pull_request_packet_count" = .num (pulls.length : Nat) :=
    get_of_signObject hsigned (by decide)
  have hsum : simulation.get "total_packets" =
      .num (checkRuns.length + issues.length + pulls.length : Nat) :=
    get_of_signObject hsigned (by decide)
  rw [hcases] at htotal hchecks hpulls
  rw [hissues] at hlisted
  rw [hchecks] at hcheck hsum
  rw [hlisted] at hissue hsum
  rw [hpulls] at hpull hsum
  exact ⟨htotal, hcheck, hissue, hpull, hsum⟩

theorem flags_envelope {kind : String} {payload : Fields}
    (h : noWriterEnvelope m.rt kind c generated_at payload = .ok packet) :
    writerViolation packet = false := by
  obtain ⟨_, _, h⟩ := bind_eq_ok.mp h
  have hexecuted : packet.get "executed" = .bool false := get_of_signObject h (by decide)
  have hdry : packet.get "dry_run" = .bool true := get_of_signObject h (by decide)
  have htarget : packet.get "external_target" = .str "NONE" := get_of_signObject h (by decide)
  have hflags : ∀ key ∈ simulationFlags, packet.get key = .bool false := by
    simp only [simulationFlags, List.forall_mem_cons, List.not_mem_nil, false_imp_iff, implies_true,
      and_true]
    exact ⟨get_of_signObject h (by decide), get_of_signObject h (by decide),
      get_of_signObject h (by decide), get_of_signObject h (by decide),
      get_of_signObject h (by decide), get_of_signObject h (by decide),
      get_of_signObject h (by decide), get_of_signObject h (by decide)⟩
  have hoff : simulationFlags.any (fun key => !(packet.get key).strictEquals (.bool false)) =
      false := by
    rw [List.any_eq_false]
    intro key hkey
    rw [hflags key hkey]
    decide
  rw [writerViolation, hexecuted, hdry, htarget, hoff]
  decide

/-- Every packet verifies, and none of them violates anything. -/
theorem clean_of_compiled
    (h : Compiled m.rt report suiteOptions cases checkRuns issues pulls simulation) :
    (∀ packet ∈ packetsOf simulation,
      signatureOk m.rt packet = .ok true ∧ writerViolation packet = false) ∧
      signatureOk m.rt simulation = .ok true := by
  constructor
  · intro packet hpacket
    constructor
    · obtain ⟨fields, hsigned⟩ := signed_of_compiled h hpacket
      obtain ⟨own, rfl⟩ := isObject_of_signObject hsigned
      exact verify_of_signObject hsigned
    · rw [packetsOf_compiled h, List.mem_append, List.mem_append, mem_mapM_iff h.check_run_packets,
        mem_mapM_iff h.issue_packets, mem_mapM_iff h.pull_request_packets] at hpacket
      rcases hpacket with (⟨c, _, hcheck⟩ | ⟨c, _, hissue⟩) | ⟨c, _, hpull⟩
      · obtain ⟨_, _, hcheck⟩ := bind_eq_ok.mp hcheck
        obtain ⟨_, _, hcheck⟩ := bind_eq_ok.mp hcheck
        obtain ⟨_, _, hcheck⟩ := bind_eq_ok.mp hcheck
        exact flags_envelope hcheck
      · obtain ⟨_, _, hissue⟩ := bind_eq_ok.mp hissue
        obtain ⟨_, _, hissue⟩ := bind_eq_ok.mp hissue
        obtain ⟨_, _, hissue⟩ := bind_eq_ok.mp hissue
        obtain ⟨_, _, hissue⟩ := bind_eq_ok.mp hissue
        exact flags_envelope hissue
      · obtain ⟨_, _, hpull⟩ := bind_eq_ok.mp hpull
        obtain ⟨_, _, hpull⟩ := bind_eq_ok.mp hpull
        obtain ⟨_, _, hpull⟩ := bind_eq_ok.mp hpull
        exact flags_envelope hpull
  · obtain ⟨_, hsigned⟩ := h.signed
    obtain ⟨own, rfl⟩ := isObject_of_signObject hsigned
    exact verify_of_signObject hsigned

theorem flags_compiled
    (h : Compiled m.rt report suiteOptions cases checkRuns issues pulls simulation) :
    ∀ key ∈ simulationFlags, simulation.get key = .bool false := by
  obtain ⟨own, hsigned⟩ := h.signed
  simp only [simulationFlags, List.forall_mem_cons, List.not_mem_nil, false_imp_iff, implies_true,
    and_true]
  exact ⟨get_of_signObject hsigned (by decide), get_of_signObject hsigned (by decide),
    get_of_signObject hsigned (by decide), get_of_signObject hsigned (by decide),
    get_of_signObject hsigned (by decide), get_of_signObject hsigned (by decide),
    get_of_signObject hsigned (by decide), get_of_signObject hsigned (by decide)⟩

/-- The counts are the only thing a compiled simulation can be refused for. -/
theorem simulationRefuses_iff {blocked : Value → Bool}
    (h : Compiled m.rt report suiteOptions cases checkRuns issues pulls simulation)
    (hcounted : Counted files blocked simulation) :
    simulationRefuses (simulationSummary simulation true 0 0) = false ↔
      files.length = 5 ∧ (files.filter (fun file => blocked file.2)).length = 4 := by
  have hflags := flags_compiled h
  have hcopied : ∀ key ∈ simulationFlags,
      (Value.obj (simulationSummary simulation true 0 0)).get key = simulation.get key := by
    simp only [simulationFlags, List.forall_mem_cons, List.not_mem_nil, false_imp_iff, implies_true,
      and_true]
    exact ⟨rfl, rfl, rfl, rfl, rfl, rfl, rfl, rfl⟩
  have hoff : simulationFlags.any
      (fun key => !tells (simulationSummary simulation true 0 0) key (.bool false)) = false := by
    rw [List.any_eq_false]
    intro key hkey
    rw [tells, hcopied key hkey, hflags key hkey]
    decide
  have hsignature : tells (simulationSummary simulation true 0 0) "simulation_signature_ok"
      (.bool true) = true := rfl
  have hzero : ∀ key ∈ ["packet_signature_failures", "writer_violations"],
      tells (simulationSummary simulation true 0 0) key (.num 0) = true := by
    simp only [List.forall_mem_cons, List.not_mem_nil, false_imp_iff, implies_true, and_true]
    exact ⟨rfl, rfl⟩
  have hnumber : ∀ (key : String) (n : Nat) (q : Number),
      (Value.obj (simulationSummary simulation true 0 0)).get key = .num (n : Nat) →
      (tells (simulationSummary simulation true 0 0) key (.num q) = true ↔ (n : Number) = q) := by
    intro key n q hget
    rw [tells, hget]
    exact decide_eq_true_iff
  have htotal := hnumber "total_cases" _ 5 hcounted.total_cases
  have hchecks := hnumber "check_run_packet_count" _ 5 hcounted.check_runs
  have hissues := hnumber "issue_packet_count" _ 4 hcounted.issues
  have hpulls := hnumber "pull_request_packet_count" _ 5 hcounted.pulls
  have hsum := hnumber "total_packets" _ 14 hcounted.total
  rw [simulationRefuses, hoff, hsignature, Bool.or_false, Bool.not_true, Bool.false_or,
    List.any_eq_false]
  simp only [expectedCounts, List.forall_mem_cons, List.not_mem_nil, false_imp_iff, implies_true,
    and_true, Bool.not_eq_true', Bool.not_eq_false, hzero _ List.mem_cons_self,
    hzero "writer_violations" (by decide), true_and, htotal, hchecks, hissues, hpulls, hsum]
  norm_cast
  omega

end Simulation

/-! ## The whole chain -/

/-- The three reports of the chain can be stored. -/
structure Storable (fs : FileSystem) : Prop where
  makeable : Makeable fs
  suite_free : Free fs quarantineRepairSuite.name
  bundle_free : Free fs operatorName
  simulation_free : Free fs simulationName

/-- Five candidates that can be classified and named, four of which are blocked. -/
structure FourOfFive (m : Machine) (files : List (String × Value)) : Prop where
  accepted : Accepted m.rt files
  named : ∀ file ∈ files, ∃ id, (candidateId file.2).toText m.rt = .ok id
  five : files.length = 5
  four : (files.filter (fun file => blocks m.rt file.2)).length = 4

/-- What a run of the chain that exits with 0 has compiled and stored. -/
structure Simulated (m : Machine) (fs : FileSystem) (files : List (String × Value))
    (results : List Value) (bundle simulation : Value) (after : FileSystem) : Prop where
  reviewed : Reviewed m fs files results bundle
  compiled : compileTestModeWriterSimulation m.rt (.obj (operatorSummary bundle true))
    suiteOptions = .ok simulation
  simulation_free : Free fs simulationName
  fourOfFive : FourOfFive m files
  laid : LaidReports fs (reviewWrites m fs.cwd results bundle ++
    summaryWrites m fs.cwd simulationName (simulationSummary simulation true 0 0)) after

section Chain
variable {m : Machine} {fs after : FileSystem} {files : List (String × Value)}
  {results : List Value} {bundle simulation : Value} {stdout : String}

/-- What a simulation that is compiled from the stored bundle is checked with. -/
theorem checks_of_compiled {cases checkRuns issues pulls : List Value} {report : Value}
    (h : Compiled m.rt report suiteOptions cases checkRuns issues pulls simulation) :
    (packetsOf simulation).mapM (signatureOk m.rt) =
        .ok ((packetsOf simulation).map (fun _ => true)) ∧
      (((packetsOf simulation).map (fun _ => true)).filter (fun ok => !ok)).length = 0 ∧
      ((packetsOf simulation).filter writerViolation).length = 0 := by
  obtain ⟨hpackets, _⟩ := clean_of_compiled h
  refine ⟨mapM_eq_ok_map (fun packet hp => (hpackets packet hp).1), ?_, ?_⟩
  · rw [List.length_eq_zero_iff, List.filter_eq_nil_iff]
    intro ok hok
    obtain ⟨_, _, rfl⟩ := List.mem_map.mp hok
    decide
  · rw [List.length_eq_zero_iff, List.filter_eq_nil_iff]
    intro packet hp
    rw [(hpackets packet hp).2]
    exact Bool.false_ne_true

theorem simulated_of_run (hm : Numerals m) (hlist : Listable m fs)
    (h : Succeeds (simulateTestModeWriter m) fs stdout after) :
    ∃ files results bundle simulation, Simulated m fs files results bundle simulation after := by
  obtain ⟨inherited, between, hchild, hread⟩ := run_bind_eq_ok.mp h
  obtain ⟨report, looked, hreport, hcompile⟩ := run_bind_eq_ok.mp hread
  obtain ⟨simulation, compiled, hsimulation, hpackets⟩ := run_bind_eq_ok.mp hcompile
  obtain ⟨verified, verifiedTree, hverified, hsignature⟩ := run_bind_eq_ok.mp hpackets
  obtain ⟨ok, okTree, hok, hend⟩ := run_bind_eq_ok.mp hsignature
  obtain ⟨files, results, bundle, hreviewed, hlaid⟩ :=
    reviewed_of_operator hm hlist (execFileSync_eq_ok.mp hchild)
  have hparsed := hreviewed.candidates.parsed
  have hstored := read_last _ hm nameable_operatorName (parsed_operatorSummary hm
    (length_results hlist hreviewed.candidates hreviewed.of_files) hreviewed.of_files hparsed
    hreviewed.bundle_eq) hlaid
  rw [hstored, EStateM.Result.ok.injEq] at hreport
  obtain ⟨rfl, rfl⟩ := hreport
  obtain ⟨hcompiled, rfl⟩ := orThrow_eq_ok.mp hsimulation
  obtain ⟨checkRuns, issues, pulls, hall⟩ :=
    compile_cases (casesOf_operatorSummary hreviewed.bundle_eq) hcompiled
  have hof := cases_of_results hreviewed.of_files
  obtain ⟨hmap, hfailures, hviolations⟩ := checks_of_compiled hall
  obtain ⟨hverifiedEq, rfl⟩ := orThrow_eq_ok.mp hverified
  obtain rfl := Except.ok.inj (hmap.symm.trans hverifiedEq)
  obtain ⟨hokEq, rfl⟩ := orThrow_eq_ok.mp hok
  obtain rfl := Except.ok.inj ((clean_of_compiled hall).2.symm.trans hokEq)
  simp only [hfailures, hviolations] at hend
  split at hend
  case isTrue hrefused =>
    obtain ⟨hout, _⟩ := pure_eq_ok.mp hend
    rw [Outcome.mk.injEq] at hout
    cases hout.2
  case isFalse hpassed =>
    rw [Bool.not_eq_true] at hpassed
    obtain ⟨hfive, hfour⟩ := (simulationRefuses_iff hall (counted_of_compiled hof hall)).mp hpassed
    obtain ⟨_, saved, hsave, hpure⟩ := run_bind_eq_ok.mp hend
    obtain ⟨_, rfl⟩ := pure_eq_ok.mp hpure
    obtain ⟨hfree, hafter⟩ := free_of_saveSummary nameable_simulationName hlaid hsave
    exact ⟨files, results, bundle, simulation, {
      reviewed := hreviewed
      compiled := hcompiled
      simulation_free := hfree
      fourOfFive := ⟨(exists_results_iff m files).mp ⟨results, hreviewed.of_files⟩,
        ids_of_compiled hof hall, hfive, hfour⟩
      laid := hafter }⟩

theorem exists_simulation_of_fourOfFive (hm : Numerals m) (hlist : Listable m fs)
    (hstorable : Storable fs) (hcand : Candidates m fs files) (h : FourOfFive m files) :
    ∃ stdout after, Succeeds (simulateTestModeWriter m) fs stdout after := by
  have hparsed := hcand.parsed
  obtain ⟨results, hresults⟩ := (exists_results_iff m files).mpr h.accepted
  obtain ⟨own, hbundle, _⟩ := exists_signObject m.rt (bundleOfResults results) seedText_undefined
  have hreviewed : Reviewed m fs files results (.obj own) :=
    ⟨hstorable.makeable, hstorable.suite_free, hstorable.bundle_free, hcand, hresults, hbundle⟩
  obtain ⟨inherited, between, hchild, hlaid⟩ := exists_operator hm hlist hreviewed
  have hread := read_last _ hm nameable_operatorName (parsed_operatorSummary hm
    (length_results hlist hcand hresults) hresults hparsed hbundle) hlaid
  have hof := cases_of_results hresults
  have hcases := casesOf_operatorSummary hbundle
  obtain ⟨simulation, hcompiled⟩ := exists_compiled_simulation hcases hof h.named
  obtain ⟨checkRuns, issues, pulls, hall⟩ := compile_cases hcases hcompiled
  obtain ⟨hmap, hfailures, hviolations⟩ := checks_of_compiled hall
  have hpassed := (simulationRefuses_iff hall (counted_of_compiled hof hall)).mpr ⟨h.five, h.four⟩
  obtain ⟨after, hsave⟩ := exists_saveSummary m
    (simulationSummary simulation true 0 0) nameable_simulationName hlaid
    hstorable.simulation_free
  refine ⟨simulationOutput m inherited (simulationSummary simulation true 0 0), after, ?_⟩
  have hoperator : execFileSync "node src/v020/compile-operator-review-bundle.js"
      (compileOperatorReview m) fs = .ok inherited between := execFileSync_eq_ok.mpr hchild
  have hsimulation : orThrow (compileTestModeWriterSimulation m.rt
      (.obj (operatorSummary (.obj own) true)) suiteOptions) between = .ok simulation between :=
    orThrow_eq_ok.mpr ⟨hcompiled, rfl⟩
  have hverified : orThrow ((packetsOf simulation).mapM (signatureOk m.rt)) between =
      .ok ((packetsOf simulation).map (fun _ => true)) between := orThrow_eq_ok.mpr ⟨hmap, rfl⟩
  have hsigned : orThrow (signatureOk m.rt simulation) between = .ok true between :=
    orThrow_eq_ok.mpr ⟨(clean_of_compiled hall).2, rfl⟩
  rw [Succeeds, simulateTestModeWriter, run_bind_of_ok hoperator, run_bind_of_ok hread,
    run_bind_of_ok hsimulation, run_bind_of_ok hverified, run_bind_of_ok hsigned]
  simp only [hfailures, hviolations, hpassed, Bool.false_eq_true, if_false]
  rw [run_bind_of_ok hsave, pure_eq_ok]
  exact ⟨rfl, rfl⟩

/-- The simulated writer exits with 0 exactly when its reports can be stored and the candidate
directory holds five candidates of which four are blocked. -/
theorem simulateTestModeWriter_succeeds_iff (hm : Numerals m) (hlist : Listable m fs) :
    (∃ stdout after, Succeeds (simulateTestModeWriter m) fs stdout after) ↔
      Storable fs ∧ ∃ files, Candidates m fs files ∧ FourOfFive m files := by
  constructor
  · intro h
    obtain ⟨stdout, after, h⟩ := h
    obtain ⟨files, results, bundle, simulation, hrun⟩ := simulated_of_run hm hlist h
    exact ⟨⟨hrun.reviewed.makeable, hrun.reviewed.suite_free, hrun.reviewed.bundle_free,
      hrun.simulation_free⟩, files, hrun.reviewed.candidates, hrun.fourOfFive⟩
  · intro h
    obtain ⟨hstorable, files, hcand, hfour⟩ := h
    exact exists_simulation_of_fourOfFive hm hlist hstorable hcand hfour

end Chain

/-! ## A tree of five candidates -/

/-- Reads a numeral of digits only. -/
def readWhole (text : String) : Option Number :=
  if text ≠ "" ∧ ∀ c ∈ text.toList, c.isDigit = true then
    some (Nat.ofDigitChars 10 text.toList 0 : Nat)
  else none

theorem readsBack_whole (n : Nat) : ReadsBack .counting readWhole (n : Number) := by
  have htext : Runtime.counting.numberToString (n : Number) = toString n := by
    change fractionText (n : Number) = toString n
    rw [fractionText, Rat.den_natCast, if_pos rfl, String.append_empty, Rat.num_natCast]
    rfl
  have hdigits := natText_digits n
  have hne : toString n ≠ "" := by
    rw [Nat.toString_eq_repr]
    exact Nat.repr_ne_empty
  refine ⟨?_, ?_, ?_⟩
  · rw [htext, readWhole, if_pos ⟨hne, hdigits⟩, Nat.toString_eq_repr, Nat.toList_repr,
      Nat.ofDigitChars_ten_toDigits]
  · rw [htext]
    refine ⟨fun h => hne (String.toList_eq_nil_iff.mp h), fun c hc => ?_⟩
    have hapart : ∀ c ∈ blanks ++ marks ++ ['"'], c.isDigit = false := by decide
    have hdigit := hdigits c hc
    grind
  · rw [htext]
    refine ⟨fun h => ?_, fun h => ?_, fun h => ?_⟩ <;> rw [h] at hdigits <;>
      exact absurd hdigits (by decide)

/-- A host that reads and prints whole numbers in decimal. -/
noncomputable def wholeMachine : Machine :=
  ⟨.counting, readWhole, Classical.choice exists_listing, fun path => "file://" ++ path⟩

theorem numerals_wholeMachine : Numerals wholeMachine where
  printed q text h := by
    change readWhole text = some q at h
    rw [readWhole] at h
    split at h
    · obtain rfl := Option.some.inj h
      exact readsBack_whole _
    · cases h
  counts n _ := readsBack_whole n

def publishText : String := "\x7b\"summary\":\"npm publish\"\x7d"

def publishCandidate : Value := .obj [("summary", .str "npm publish")]

/-- Four candidates that publish, and one that does nothing. -/
def fiveFiles : List (String × Value) :=
  [("a.json", publishCandidate), ("b.json", publishCandidate), ("c.json", publishCandidate),
    ("d.json", publishCandidate), ("e.json", .obj [])]

def fiveTree : FileSystem :=
  .ofList [(["fixtures"], .dir), (["v020", "fixtures"], .dir),
    (["candidates", "v020", "fixtures"], .dir),
    (["a.json", "candidates", "v020", "fixtures"], .file publishText),
    (["b.json", "candidates", "v020", "fixtures"], .file publishText),
    (["c.json", "candidates", "v020", "fixtures"], .file publishText),
    (["d.json", "candidates", "v020", "fixtures"], .file publishText),
    (["e.json", "candidates", "v020", "fixtures"], .file "\x7b\x7d")] (by decide)

def fiveNames : List String := ["a.json", "b.json", "c.json", "d.json", "e.json"]

theorem mem_fiveNames (name : String) :
    name ∈ fiveNames ↔ fiveTree.node (name :: candidatePlace []) ≠ none := by
  rw [fiveTree, node_ofList_ne_none]
  simp [fiveNames, candidatePlace]

theorem jsonNames_fiveTree :
    jsonNames (wholeMachine.listing.names fiveTree (candidatePlace [])) = fiveNames := by
  have hnames : jsonNames (wholeMachine.listing.names fiveTree (candidatePlace [])) =
      jsonNames fiveNames := jsonNames_eq_of_mem (by decide) mem_fiveNames
  rw [hnames]
  decide

theorem candidates_fiveTree : Candidates wholeMachine fiveTree fiveFiles where
  dir := rfl
  names := jsonNames_fiveTree.symm
  read := by
    have hpublish : Json.parse readWhole publishText = .ok publishCandidate := rfl
    have hempty : Json.parse readWhole "\x7b\x7d" = .ok (.obj []) := rfl
    simp only [fiveFiles, List.forall_mem_cons, List.not_mem_nil, false_imp_iff, implies_true,
      and_true]
    exact ⟨readJson_eq_ok.mpr ⟨⟨publishText, by decide, hpublish⟩, rfl⟩,
      readJson_eq_ok.mpr ⟨⟨publishText, by decide, hpublish⟩, rfl⟩,
      readJson_eq_ok.mpr ⟨⟨publishText, by decide, hpublish⟩, rfl⟩,
      readJson_eq_ok.mpr ⟨⟨publishText, by decide, hpublish⟩, rfl⟩,
      readJson_eq_ok.mpr ⟨⟨"\x7b\x7d", by decide, hempty⟩, rfl⟩⟩

theorem listable_fiveTree : Listable wholeMachine fiveTree where
  finite := fiveNames.finite_toSet.subset (fun name hname => (mem_fiveNames name).mpr hname)
  small := by
    change (jsonNames (wholeMachine.listing.names fiveTree (candidatePlace []))).length < 2 ^ 32
    rw [jsonNames_fiveTree]
    decide

theorem storable_fiveTree : Storable fiveTree :=
  ⟨⟨by decide, by decide⟩, ⟨by decide, by decide⟩, ⟨by decide, by decide⟩, ⟨by decide, by decide⟩⟩


/-- The risk of a candidate decides whether it is blocked. -/
theorem blocks_of_riskOf {rt : Runtime} {candidate : Value} {risk : Risk}
    (h : Rewrapping.riskOf rt candidate = .ok risk) :
    (∃ surface, classifySurface rt candidate = .ok surface) ∧
      blocks rt candidate = decide (risk ≠ .green) := by
  obtain ⟨surface, hsurface, h⟩ := bind_eq_ok.mp h
  obtain ⟨mutation, hmutation, h⟩ := bind_eq_ok.mp h
  obtain ⟨truthRisk, htruthRisk, h⟩ := bind_eq_ok.mp h
  cases h
  have hclass : Classified rt candidate surface mutation truthRisk :=
    ⟨hsurface, hmutation, htruthRisk⟩
  obtain ⟨stages, hstages⟩ := exists_stages hclass
  refine ⟨⟨surface, hsurface⟩, ?_⟩
  rw [blocks, hstages]
  exact isBlocked_eq (says_of_stages hstages hclass).state

theorem fourOfFive_fiveFiles : FourOfFive wholeMachine fiveFiles := by
  have hpublish : Rewrapping.riskOf .counting publishCandidate = .ok .red := by decide +kernel
  have hempty : Rewrapping.riskOf .counting (.obj []) = .ok .green := by decide +kernel
  obtain ⟨haccepted, hblocked⟩ := blocks_of_riskOf hpublish
  obtain ⟨hnothing, hfree⟩ := blocks_of_riskOf hempty
  refine ⟨?_, ?_, rfl, ?_⟩
  · simp only [Accepted, fiveFiles, List.forall_mem_cons, List.not_mem_nil, false_imp_iff,
      implies_true, and_true]
    exact ⟨haccepted, haccepted, haccepted, haccepted, hnothing⟩
  · simp only [fiveFiles, List.forall_mem_cons, List.not_mem_nil, false_imp_iff, implies_true,
      and_true]
    exact ⟨⟨_, rfl⟩, ⟨_, rfl⟩, ⟨_, rfl⟩, ⟨_, rfl⟩, ⟨_, rfl⟩⟩
  · change (fiveFiles.filter (fun file => blocks .counting file.2)).length = 4
    simp [fiveFiles, hblocked, hfree]

/-- The simulated writer exits with 0 on the tree. -/
theorem simulateTestModeWriter_succeeds_fiveTree :
    ∃ stdout after, Succeeds (simulateTestModeWriter wholeMachine) fiveTree stdout after :=
  (simulateTestModeWriter_succeeds_iff numerals_wholeMachine listable_fiveTree).mpr
    ⟨storable_fiveTree, fiveFiles, candidates_fiveTree, fourOfFive_fiveFiles⟩

end Admissorium.Scripts
