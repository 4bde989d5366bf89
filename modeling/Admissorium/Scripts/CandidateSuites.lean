import Admissorium.Pipeline.QuarantineSuite
import Admissorium.Scripts.Processes

/-!
# Suites over the candidate files

`v020/compile-verdict-receipt` and `v020/route-quarantine-repair` read every candidate file, sum
up what they compile for it, and store the summary as a current report and as the latest one of
the history. They exit with 1 when something in it has failed, after they have stored it.
-/
namespace Admissorium.Scripts
set_option autoImplicit false

open JavaScript Json Files Signing Verdict Pipeline.QuarantineSuite

def candidateDir : String := "fixtures/v020/candidates"

/-! ## Where reports are -/

def currentPath (name : String) : String := "reports/current/" ++ (name ++ ".json")

def latestPath (name : String) : String := "reports/history/" ++ (name ++ ".latest.json")

def currentDir (cwd : Place) : Place := "current" :: "reports" :: cwd

def historyDir (cwd : Place) : Place := "history" :: "reports" :: cwd

def currentPlace (cwd : Place) (name : String) : Place := (name ++ ".json") :: currentDir cwd

def latestPlace (cwd : Place) (name : String) : Place := (name ++ ".latest.json") :: historyDir cwd

def saveJson (m : Machine) (path : String) (v : Value) : Fs Unit := writeFileSync path (storedJson m v)

/-- A summary is stored twice. -/
def saveSummary (m : Machine) (name : String) (summary : Fields) : Fs Unit := do
  saveJson m (currentPath name) (.obj summary)
  saveJson m (latestPath name) (.obj summary)

/-! ## A suite -/

/-- What the two scripts differ in. -/
structure Suite where
  name : String
  result : Runtime → String → Value → Except JsError Value
  summary : List Value → Fields
  failed : Value → Bool
  token : String
  printedKeys : List String

def Suite.resultOf (s : Suite) (m : Machine) (file : String) : Fs Value := do
  let candidate ← readJson m (join [candidateDir, file])
  orThrow (s.result m.rt file candidate)

/-- The fields a script prints of its summary. -/
def picked (keys : List String) (summary : Fields) : Fields :=
  keys.map (fun key => (key, (Value.obj summary).get key))

def makeReportDirs : Fs Unit := do
  mkdirSync "reports/current"
  mkdirSync "reports/history"

def runSuite (m : Machine) (s : Suite) : Fs Outcome := do
  makeReportDirs
  let files ← readJsonNames m candidateDir
  let results ← files.mapM (s.resultOf m)
  saveSummary m s.name (s.summary results)
  return if (results.filter s.failed).length ≠ 0 then ⟨"", 1⟩
    else ⟨printed m s.token (picked s.printedKeys (s.summary results)), 0⟩

/-! ## Verdicts and receipts -/

/-- The flags the suite copies from a verdict and checks again. -/
def verdictFlags : List String :=
  ["writer_enabled", "webhook_enabled", "check_run_writer_enabled", "package_publish_enabled",
    "allowed_to_mutate_truth"]

def verdictResultFields (file : String) (verdict receipt : Value)
    (verdict_signature_ok receipt_signature_ok : Bool) : Fields :=
  [("file", .str file), ("candidate_id", verdict.get "candidate_id"),
    ("verdict_state", verdict.get "state"), ("risk", verdict.get "risk"),
    ("verdict_signature_ok", .bool verdict_signature_ok),
    ("receipt_signature_ok", .bool receipt_signature_ok)] ++
  verdictFlags.map (fun key => (key, verdict.get key)) ++
  [("verdict", verdict), ("receipt", receipt)]

def verdictResult (rt : Runtime) (file : String) (candidate : Value) : Except JsError Value := do
  let verdict ← compileActuatorVerdict rt candidate suiteOptions
  let receipt ← compileAdmissionReceipt rt verdict suiteOptions
  let verdict_signature_ok ← signatureOk rt verdict
  let receipt_signature_ok ← signatureOk rt receipt
  return .obj (verdictResultFields file verdict receipt verdict_signature_ok receipt_signature_ok)

def admittedReportOnly (result : Value) : Bool :=
  (result.get "verdict_state").strictEquals (.str "ADMISSIBLE_REPORT_ONLY")

/-- A signature that fails, or a flag that is not off. -/
def verdictFailed (result : Value) : Bool :=
  !(result.get "verdict_signature_ok").truthy ||
    !(result.get "receipt_signature_ok").truthy ||
    verdictFlags.any (fun key => !(result.get key).strictEquals (.bool false))

def verdictSummary (results : List Value) : Fields :=
  [("report_type", .str "ADMISSORIUM_V020_VERDICT_RECEIPT_SUITE"), ("schema_version", .str "1.0.0"),
    ("generated_at", epochStart), ("mode", .str "REPORT_ONLY"),
    ("total", .num (results.length : Nat)),
    ("signed_verdicts", count (fun r => (r.get "verdict_signature_ok").truthy) results),
    ("signed_receipts", count (fun r => (r.get "receipt_signature_ok").truthy) results),
    ("admitted_report_only", count admittedReportOnly results),
    ("blocked_or_quarantined", count (fun r => !admittedReportOnly r) results),
    ("failed", count verdictFailed results), ("results", .arr results)]

def verdictReceiptSuite : Suite where
  name := "v020-verdict-receipt-suite"
  result := verdictResult
  summary := verdictSummary
  failed := verdictFailed
  token := "ADMISSORIUM_V020_ACTUATOR_VERDICT_RECEIPT_PASS=true"
  printedKeys := ["total", "signed_verdicts", "signed_receipts", "admitted_report_only",
    "blocked_or_quarantined", "failed"]

/-- `src/v020/compile-verdict-receipt.js`. -/
def compileVerdictReceipt (m : Machine) : Fs Outcome := runSuite m verdictReceiptSuite

/-! ## Quarantine and repair -/

def quarantineRepairSuite : Suite where
  name := "v020-quarantine-repair-suite"
  result := suiteResult
  summary := suiteFields
  failed := resultFailed
  token := "ADMISSORIUM_V020_QUARANTINE_REPAIR_PASS=true"
  printedKeys := ["total", "quarantined", "passed_without_quarantine", "signed_quarantine_records",
    "signed_repair_packets", "failed"]

/-- `src/v020/route-quarantine-repair.js`. -/
def routeQuarantineRepair (m : Machine) : Fs Outcome := runSuite m quarantineRepairSuite

/-! ## Places -/

section Places
variable {cwd : Place} {name : String}

/-- A name under a directory that is given by its path from the working directory. -/
theorem resolve_under {dir : String} {names : Place} (hdir : follow cwd dir = names)
    (hne : dir ≠ "") (hrelative : isAbsolute dir = false) (h : IsName name) :
    resolve cwd (dir ++ "/" ++ name) = name :: names := by
  rw [resolve, String.append_assoc, isAbsolute_append hne, hrelative, if_neg Bool.false_ne_true,
    ← String.append_assoc, follow_append, hdir, follow_name h]

theorem resolve_currentPath (h : IsName (name ++ ".json")) :
    resolve cwd (currentPath name) = currentPlace cwd name := by
  have hpath : currentPath name = "reports/current" ++ "/" ++ (name ++ ".json") := rfl
  have hdir : follow cwd "reports/current" = currentDir cwd := rfl
  rw [hpath, resolve_under hdir (by decide) (by decide) h]
  rfl

theorem resolve_latestPath (h : IsName (name ++ ".latest.json")) :
    resolve cwd (latestPath name) = latestPlace cwd name := by
  have hpath : latestPath name = "reports/history" ++ "/" ++ (name ++ ".latest.json") := rfl
  have hdir : follow cwd "reports/history" = historyDir cwd := rfl
  rw [hpath, resolve_under hdir (by decide) (by decide) h]
  rfl

/-- The names of a summary's two files can be used. -/
structure Nameable (name : String) : Prop where
  current : IsName (name ++ ".json")
  latest : IsName (name ++ ".latest.json")
  current_nul : hasNul (currentPath name) = false
  latest_nul : hasNul (latestPath name) = false

instance (name : String) : Decidable (Nameable name) :=
  decidable_of_iff (_ ∧ _ ∧ _ ∧ _) ⟨fun ⟨a, b, c, d⟩ => ⟨a, b, c, d⟩,
    fun ⟨a, b, c, d⟩ => And.intro a (And.intro b (And.intro c d))⟩

theorem nameable_verdictReceiptSuite : Nameable verdictReceiptSuite.name := by decide +kernel

theorem nameable_quarantineRepairSuite : Nameable quarantineRepairSuite.name := by decide +kernel

end Places

/-! ## The tree of a run -/

/-- Nothing but the two report directories is made. -/
abbrev LaidReports (fs : FileSystem) (writes : List (Place × String)) (after : FileSystem) : Prop :=
  Laid fs [currentDir fs.cwd, historyDir fs.cwd] writes after

/-- The writes of a summary. -/
def summaryWrites (m : Machine) (cwd : Place) (name : String) (summary : Fields) :
    List (Place × String) :=
  [(currentPlace cwd name, storedJson m (.obj summary)),
    (latestPlace cwd name, storedJson m (.obj summary))]

/-- No directory is where a summary is stored. -/
structure Free (fs : FileSystem) (name : String) : Prop where
  current : fs.node (currentPlace fs.cwd name) ≠ some .dir
  latest : fs.node (latestPlace fs.cwd name) ≠ some .dir

/-- No file is where the report directories are or lead. -/
structure Makeable (fs : FileSystem) : Prop where
  current : fs.CanMake (currentDir fs.cwd)
  history : fs.CanMake (historyDir fs.cwd)

section Trees
variable {m : Machine} {fs between after : FileSystem} {writes : List (Place × String)}
  {name : String} {summary : Fields}

theorem makeReportDirs_of_makeable (h : Makeable fs) :
    ∃ made, makeReportDirs fs = .ok () made ∧ LaidReports fs [] made := by
  have hhistory : (fs.makeDirs _ h.current).CanMake (historyDir fs.cwd) :=
    (canMake_makeDirs_iff fs h.current _).mpr h.history
  refine ⟨_, run_bind_eq_ok.mpr ⟨(), _, mkdirSync_eq_ok.mpr ⟨by decide, h.current, rfl⟩,
    mkdirSync_eq_ok.mpr ⟨by decide, hhistory, rfl⟩⟩, ?_⟩
  exact ((Laid.refl fs).makeDirs h.current).makeDirs hhistory

theorem makeable_of_makeReportDirs {made : FileSystem} (h : makeReportDirs fs = .ok () made) :
    Makeable fs ∧ LaidReports fs [] made := by
  obtain ⟨_, middle, hcurrent, hhistory⟩ := run_bind_eq_ok.mp h
  obtain ⟨_, hcan, rfl⟩ := mkdirSync_eq_ok.mp hcurrent
  obtain ⟨_, hcan', rfl⟩ := mkdirSync_eq_ok.mp hhistory
  exact ⟨⟨hcan, (canMake_makeDirs_iff fs hcan _).mp hcan'⟩,
    ((Laid.refl fs).makeDirs hcan).makeDirs hcan'⟩

/-- Only the report directories and what is above them can be new directories. -/
theorem LaidReports.dir_iff_of_long (h : LaidReports fs writes between) {place : Place}
    (hlong : fs.cwd.length + 2 < place.length) :
    between.node place = some .dir ↔ fs.node place = some .dir := by
  rw [h.dir_iff]
  refine or_iff_left (fun hmade => ?_)
  obtain ⟨dir, hdir, hsuffix⟩ := hmade
  have hlength := hsuffix.length_le
  simp only [List.mem_cons, List.not_mem_nil, or_false] at hdir
  rcases hdir with rfl | rfl
  · simp only [currentDir, List.length_cons] at hlength
    omega
  · simp only [historyDir, List.length_cons] at hlength
    omega

theorem LaidReports.dirs (h : LaidReports fs writes between) :
    between.node (currentDir fs.cwd) = some .dir ∧ between.node (historyDir fs.cwd) = some .dir :=
  ⟨(h.dir_iff _).mpr (Or.inr ⟨_, List.mem_cons_self, List.suffix_refl _⟩),
    (h.dir_iff _).mpr (Or.inr ⟨_, List.mem_cons_of_mem _ List.mem_cons_self, List.suffix_refl _⟩)⟩

theorem LaidReports.free_iff (h : LaidReports fs writes between) (name : String) :
    Free between name ↔ Free fs name := by
  have hcurrent : fs.cwd.length + 2 < (currentPlace fs.cwd name).length := by
    simp [currentPlace, currentDir]
  have hlatest : fs.cwd.length + 2 < (latestPlace fs.cwd name).length := by
    simp [latestPlace, historyDir]
  constructor
  · intro hfree
    have hc := hfree.current
    have hl := hfree.latest
    rw [h.wrote.cwd] at hc hl
    exact ⟨fun hd => hc ((h.dir_iff_of_long hcurrent).mpr hd),
      fun hd => hl ((h.dir_iff_of_long hlatest).mpr hd)⟩
  · intro hfree
    constructor <;> rw [h.wrote.cwd]
    · exact fun hd => hfree.current ((h.dir_iff_of_long hcurrent).mp hd)
    · exact fun hd => hfree.latest ((h.dir_iff_of_long hlatest).mp hd)

theorem saveJson_current (hname : Nameable name) {v : Value} {tree : FileSystem} :
    saveJson m (currentPath name) v tree = .ok () after ↔
      ∃ h : tree.CanWrite (currentPlace tree.cwd name), after = tree.putFile _ (storedJson m v) h :=
  writeFileSync_at (resolve_currentPath hname.current) hname.current_nul

theorem saveJson_latest (hname : Nameable name) {v : Value} {tree : FileSystem} :
    saveJson m (latestPath name) v tree = .ok () after ↔
      ∃ h : tree.CanWrite (latestPlace tree.cwd name), after = tree.putFile _ (storedJson m v) h :=
  writeFileSync_at (resolve_latestPath hname.latest) hname.latest_nul

/-- A summary is stored where no directory is in the place of its files. -/
theorem exists_saveSummary (m : Machine) (summary : Fields) (hname : Nameable name)
    (h : LaidReports fs writes between) (hfree : Free fs name) : ∃ after, saveSummary m name summary between = .ok () after := by
  obtain ⟨hcurrent, hlatest⟩ := (h.free_iff name).mpr hfree
  have hdirs := h.dirs
  rw [← h.wrote.cwd] at hdirs
  have hcan : between.CanWrite (currentPlace between.cwd name) := ⟨hdirs.1, hcurrent⟩
  have hsame := dir_putFile_iff between (storedJson m (.obj summary)) hcan
  have hcan' : (between.putFile _ (storedJson m (.obj summary)) hcan).CanWrite
      (latestPlace between.cwd name) :=
    ⟨(hsame _).mpr hdirs.2, fun hd => hlatest ((hsame _).mp hd)⟩
  exact ⟨_, run_bind_eq_ok.mpr ⟨(), _, (saveJson_current hname).mpr ⟨hcan, rfl⟩,
    (saveJson_latest hname).mpr ⟨hcan', rfl⟩⟩⟩

theorem free_of_saveSummary (hname : Nameable name) (h : LaidReports fs writes between)
    (hsave : saveSummary m name summary between = .ok () after) :
    Free fs name ∧ LaidReports fs (writes ++ summaryWrites m fs.cwd name summary) after := by
  obtain ⟨_, middle, hfirst, hsecond⟩ := run_bind_eq_ok.mp hsave
  obtain ⟨hcan, rfl⟩ := (saveJson_current hname).mp hfirst
  obtain ⟨hcan', rfl⟩ := (saveJson_latest hname).mp hsecond
  have hlaid := (h.putFile (storedJson m (.obj summary)) hcan).putFile
    (storedJson m (.obj summary)) hcan'
  have hfree : Free between name := by
    refine ⟨hcan.2, fun hd => ?_⟩
    exact hcan'.2 ((dir_putFile_iff between _ hcan _).mpr hd)
  refine ⟨(h.free_iff name).mp hfree, ?_⟩
  have hwrites : summaryWrites m fs.cwd name summary = summaryWrites m between.cwd name summary := by
    rw [h.wrote.cwd]
  rw [hwrites]
  rw [List.append_assoc] at hlaid
  exact hlaid

/-- A summary that is not written again is under its name in the current reports. -/
theorem text_of_stored (writes later : List (Place × String))
    (h : LaidReports fs (writes ++ (summaryWrites m fs.cwd name summary ++ later)) after)
    (hlater : currentPlace fs.cwd name ∉ later.map Prod.fst) :
    after.text (currentPlace fs.cwd name) = some (storedJson m (.obj summary)) := by
  have hapart : currentPlace fs.cwd name ≠ latestPlace fs.cwd name := by
    simp [currentPlace, latestPlace, currentDir, historyDir]
  have hrest : currentPlace fs.cwd name ∉
      ((latestPlace fs.cwd name, storedJson m (.obj summary)) :: later).map Prod.fst := by
    rw [List.map_cons, List.mem_cons, not_or]
    exact ⟨hapart, hlater⟩
  exact h.wrote.text_of_last writes hrest

/-! ## Candidates -/

def candidatePlace (cwd : Place) : Place := "candidates" :: "v020" :: "fixtures" :: cwd

/-- The candidate files of a tree, in their order, with what is parsed of each. -/
structure Candidates (m : Machine) (fs : FileSystem) (files : List (String × Value)) : Prop where
  dir : fs.node (candidatePlace fs.cwd) = some .dir
  names : files.map Prod.fst = jsonNames (m.listing.names fs (candidatePlace fs.cwd))
  read : ∀ file ∈ files, readJson m (join [candidateDir, file.1]) fs = .ok file.2 fs

/-- Making the report directories changes nothing about the candidates. -/
theorem LaidReports.candidates_iff (h : LaidReports fs [] between)
    (hfinite : {name | fs.node (name :: candidatePlace fs.cwd) ≠ none}.Finite)
    (files : List (String × Value)) : Candidates m between files ↔ Candidates m fs files := by
  have hapart : ∀ dir ∈ [currentDir fs.cwd, historyDir fs.cwd], ¬ candidatePlace fs.cwd <:+ dir := by
    intro dir hdir hsuffix
    have hlength := hsuffix.length_le
    simp only [List.mem_cons, List.not_mem_nil, or_false] at hdir
    rcases hdir with rfl | rfl <;>
      simp only [candidatePlace, currentDir, historyDir, List.length_cons] at hlength <;> omega
  have hdir := dir_iff_of_made h hapart
  have hnames := jsonNames_of_made (m := m) h hfinite hapart
  constructor
  · intro hcand
    have hd := hcand.dir
    have hn := hcand.names
    rw [h.wrote.cwd] at hd hn
    exact ⟨hdir.mp hd, hn.trans hnames, fun file hf => (readJson_of_made h).mp (hcand.read file hf)⟩
  · intro hcand
    refine ⟨?_, ?_, fun file hf => (readJson_of_made h).mpr (hcand.read file hf)⟩
    · rw [h.wrote.cwd]
      exact hdir.mpr hcand.dir
    · rw [h.wrote.cwd, hnames, hcand.names]

end Trees

/-! ## A run -/

section Run
variable {m : Machine} {s : Suite} {fs after : FileSystem} {stdout : String}

theorem looks_resultOf (file : String) : Looks (s.resultOf m file) :=
  looks_bind (looks_readJson _) (fun _ => looks_orThrow _)

theorem resultOf_eq_ok {file : String} {result : Value} :
    s.resultOf m file fs = .ok result fs ↔ ∃ candidate,
      readJson m (join [candidateDir, file]) fs = .ok candidate fs ∧
        s.result m.rt file candidate = .ok result := by
  rw [Suite.resultOf, run_bind_eq_ok]
  constructor
  · intro h
    obtain ⟨candidate, between, hread, hresult⟩ := h
    obtain rfl := looks_readJson _ _ _ _ hread
    exact ⟨candidate, hread, (orThrow_eq_ok.mp hresult).1⟩
  · intro h
    obtain ⟨candidate, hread, hresult⟩ := h
    exact ⟨candidate, fs, hread, orThrow_eq_ok.mpr ⟨hresult, rfl⟩⟩

/-- The loop over the files has a result for each candidate. -/
theorem results_eq_ok {names : List String} {results : List Value} :
    List.Forall₂ (fun name result => s.resultOf m name fs = .ok result fs) names results ↔
      ∃ files : List (String × Value), files.map Prod.fst = names ∧
        (∀ file ∈ files, readJson m (join [candidateDir, file.1]) fs = .ok file.2 fs) ∧
        List.Forall₂ (fun file result => s.result m.rt file.1 file.2 = .ok result) files results := by
  constructor
  · intro h
    induction h with
    | nil => exact ⟨[], rfl, fun _ hf => absurd hf List.not_mem_nil, List.Forall₂.nil⟩
    | cons hfirst _ ih =>
        obtain ⟨candidate, hread, hresult⟩ := resultOf_eq_ok.mp hfirst
        obtain ⟨files, rfl, hreads, hall⟩ := ih
        exact ⟨(_, candidate) :: files, rfl, List.forall_mem_cons.mpr ⟨hread, hreads⟩,
          List.Forall₂.cons hresult hall⟩
  · intro h
    obtain ⟨files, rfl, hreads, hall⟩ := h
    induction hall with
    | nil => exact List.Forall₂.nil
    | cons hfirst _ ih =>
        obtain ⟨hread, hrest⟩ := List.forall_mem_cons.mp hreads
        exact List.Forall₂.cons (resultOf_eq_ok.mpr ⟨_, hread, hfirst⟩) (ih hrest)

/-- A suite has a result for every candidate, none of which failed. -/
structure Passes (m : Machine) (s : Suite) (files : List (String × Value)) (results : List Value) :
    Prop where
  compiled : List.Forall₂ (fun file result => s.result m.rt file.1 file.2 = .ok result) files results
  passed : ∀ result ∈ results, s.failed result = false

def Suite.output (m : Machine) (s : Suite) (results : List Value) : String :=
  printed m s.token (picked s.printedKeys (s.summary results))

theorem filter_length_eq_zero_iff {results : List Value} : (results.filter s.failed).length = 0 ↔
    ∀ result ∈ results, s.failed result = false := by
  rw [List.length_eq_zero_iff, List.filter_eq_nil_iff]
  simp only [Bool.not_eq_true]

/-- A suite that exits with 0 has stored its summary twice and has changed nothing else. -/
theorem of_runSuite (hname : Nameable s.name)
    (hfinite : {name | fs.node (name :: candidatePlace fs.cwd) ≠ none}.Finite)
    (h : Succeeds (runSuite m s) fs stdout after) :
    Makeable fs ∧ Free fs s.name ∧ ∃ files results, Candidates m fs files ∧
      Passes m s files results ∧ stdout = s.output m results ∧
      LaidReports fs (summaryWrites m fs.cwd s.name (s.summary results)) after := by
  obtain ⟨_, made, hmade, hread⟩ := run_bind_eq_ok.mp h
  obtain ⟨names, listed, hnames, hcompile⟩ := run_bind_eq_ok.mp hread
  obtain ⟨results, looked, hloop, hstore⟩ := run_bind_eq_ok.mp hcompile
  obtain ⟨_, saved, hsave, hend⟩ := run_bind_eq_ok.mp hstore
  obtain ⟨hmakeable, hlaid⟩ := makeable_of_makeReportDirs hmade
  obtain ⟨⟨_, hdir, hlisted⟩, rfl⟩ := readJsonNames_eq_ok.mp hnames
  obtain ⟨hresults, rfl⟩ := (mapM_looks_eq_ok looks_resultOf).mp hloop
  obtain ⟨hfree, hstored⟩ := free_of_saveSummary hname hlaid hsave
  obtain ⟨files, hfiles, hreads, hcompiled⟩ := results_eq_ok.mp hresults
  obtain ⟨hout, rfl⟩ := pure_eq_ok.mp hend
  have hcand := (hlaid.candidates_iff hfinite files).mp ⟨hdir, hfiles.trans hlisted, hreads⟩
  by_cases hfailed : (results.filter s.failed).length = 0
  · rw [if_neg (not_not_intro hfailed), Outcome.mk.injEq] at hout
    exact ⟨hmakeable, hfree, files, results, hcand, ⟨hcompiled, filter_length_eq_zero_iff.mp hfailed⟩,
      hout.1, hstored⟩
  · rw [if_pos hfailed, Outcome.mk.injEq] at hout
    cases hout.2

/-- A suite without a failed candidate exits with 0 where its reports can be stored. -/
theorem exists_runSuite {files : List (String × Value)} {results : List Value}
    (hname : Nameable s.name)
    (hfinite : {name | fs.node (name :: candidatePlace fs.cwd) ≠ none}.Finite)
    (hmakeable : Makeable fs) (hfree : Free fs s.name) (hcand : Candidates m fs files)
    (hpasses : Passes m s files results) :
    ∃ after, Succeeds (runSuite m s) fs (s.output m results) after ∧
      LaidReports fs (summaryWrites m fs.cwd s.name (s.summary results)) after := by
  obtain ⟨made, hmade, hlaid⟩ := makeReportDirs_of_makeable hmakeable
  obtain ⟨hdir, hfiles, hreads⟩ := (hlaid.candidates_iff hfinite files).mpr hcand
  obtain ⟨after, hsave⟩ := exists_saveSummary m (s.summary results) hname hlaid hfree
  have hnames : readJsonNames m candidateDir made = .ok (files.map Prod.fst) made :=
    readJsonNames_eq_ok.mpr ⟨⟨by decide, hdir, hfiles⟩, rfl⟩
  have hloop : (files.map Prod.fst).mapM (s.resultOf m) made = .ok results made :=
    (mapM_looks_eq_ok looks_resultOf).mpr
      ⟨results_eq_ok.mpr ⟨files, rfl, hreads, hpasses.compiled⟩, rfl⟩
  have hnone := filter_length_eq_zero_iff.mpr hpasses.passed
  refine ⟨after, ?_, (free_of_saveSummary hname hlaid hsave).2⟩
  rw [Succeeds, runSuite, run_bind_of_ok hmade, run_bind_of_ok hnames, run_bind_of_ok hloop,
    run_bind_of_ok hsave, pure_eq_ok, if_neg (not_not_intro hnone)]
  exact ⟨rfl, rfl⟩

end Run

end Admissorium.Scripts
