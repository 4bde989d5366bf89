import Admissorium.Hostile.AnswerKey
import Admissorium.Scripts.SchemaValidation

/-!
# The hostile battery

`v020/run-hostile-fixtures` evaluates every fixture of a directory and counts what failed, what
was admitted and what would write. Nothing is ever admitted and no flag is ever on, so that its
exit code is decided by the expectations of the fixtures alone.
-/
namespace Admissorium.Scripts
set_option autoImplicit false

open JavaScript Json Files Classify Signing Verdict Pipeline.QuarantineSuite Hostile

/-! ## The script -/

def hostileDir : String := "fixtures/v020/hostile"

def hostilePlace (cwd : Place) : Place := "hostile" :: "v020" :: "fixtures" :: cwd

def batteryName : String := "admissorium-v020-hostile-fixtures"

/-- What the evaluator returns. -/
def hostileFields (result : HostileResult) : Fields :=
  [("fixture", result.fixture), ("state", .str result.state), ("passed", .bool result.passed),
    ("failures", texts result.failures), ("risk", .str result.risk),
    ("red_classes", .arr result.red_classes), ("admitted", .bool result.admitted)] ++
  result.flags.map (fun flag => (flag.1, .bool flag.2))

/-- A flag that is on. -/
def writes (result : HostileResult) : Bool := result.flags.any Prod.snd

def batteryPasses (results : List HostileResult) : Bool :=
  (results.filter (fun r => !r.passed)).length = 0 && (results.filter (·.admitted)).length = 0 &&
    (results.filter writes).length = 0

def batteryCounts (results : List HostileResult) : Fields :=
  [("total", .num (results.length : Nat)),
    ("blocked", .num ((results.filter (·.passed)).length : Nat)),
    ("admitted", .num ((results.filter (·.admitted)).length : Nat)),
    ("writer_violations", .num ((results.filter writes).length : Nat)),
    ("failed", .num ((results.filter (fun r => !r.passed)).length : Nat))]

def batteryReport (results : List HostileResult) : Fields :=
  [("suite", .str "ADMISSORIUM_V020_HOSTILE_FIXTURE_BATTERY"),
    ("state", .str (if batteryPasses results then "ADMISSORIUM_V020_HOSTILE_FIXTURES_PASS"
      else "ADMISSORIUM_V020_HOSTILE_FIXTURES_FAIL")),
    ("truth_warning", .str "NOT_TRUTH_SOURCE"), ("writer_enabled", .bool false),
    ("webhook_enabled", .bool false), ("check_run_writer_enabled", .bool false),
    ("contents_write_enabled", .bool false), ("allowed_to_mutate_truth", .bool false)] ++
  batteryCounts results ++ [("results", .arr (results.map (fun r => .obj (hostileFields r))))]

def fixtureResult (m : Machine) (file : String) : Fs HostileResult := do
  let fixture ← readJson m (join [hostileDir, file])
  orThrow (evaluateHostileFixture m.rt fixture)

def batteryOutcome (m : Machine) (results : List HostileResult) : Outcome :=
  if batteryPasses results then
    ⟨printed m "ADMISSORIUM_V020_HOSTILE_FIXTURES_PASS=true" (batteryCounts results), 0⟩
  else ⟨"", 1⟩

/-- `src/v020/run-hostile-fixtures.js`; the directories are made before a fixture is read. -/
def runHostileFixtures (m : Machine) (stamp : Instant) : Fs Outcome := do
  mkdirSync "reports/current"
  mkdirSync (snapshotDir .hostileFixtures stamp)
  let files ← readJsonNames m hostileDir
  let results ← files.mapM (fixtureResult m)
  saveJson m (currentPath batteryName) (.obj (batteryReport results))
  saveJson m (join [snapshotDir .hostileFixtures stamp, batteryName ++ ".json"])
    (.obj (batteryReport results))
  return batteryOutcome m results

/-! ## What a result can say -/

/-- No flag of an object is on. -/
def AllOff (v : Value) : Prop :=
  ∀ key ∈ flagNames, v.get key = .bool false ∨ v.get key = .undefined

section Flags
variable {rt : Runtime}

/-- The five flags, one after another. -/
theorem allOff_iff {v : Value} : AllOff v ↔
    (v.get "writer_enabled" = .bool false ∨ v.get "writer_enabled" = .undefined) ∧
    (v.get "webhook_enabled" = .bool false ∨ v.get "webhook_enabled" = .undefined) ∧
    (v.get "check_run_writer_enabled" = .bool false ∨
      v.get "check_run_writer_enabled" = .undefined) ∧
    (v.get "contents_write_enabled" = .bool false ∨ v.get "contents_write_enabled" = .undefined) ∧
    (v.get "allowed_to_mutate_truth" = .bool false ∨
      v.get "allowed_to_mutate_truth" = .undefined) := by
  simp only [AllOff, flagNames, List.forall_mem_cons, List.not_mem_nil, false_imp_iff, implies_true,
    and_true]

theorem trueInAny_eq_false {objects : List Value} (h : ∀ object ∈ objects, AllOff object) :
    ∀ key ∈ flagNames, trueInAny key objects = false := by
  intro key hkey
  rw [trueInAny, List.any_eq_false]
  intro object hobject hon
  rw [Bool.and_eq_true] at hon
  rcases h object hobject key hkey with he | he <;> rw [he] at hon <;> exact absurd hon.2 (by decide)

/-- What is signed has the flags of what was given to sign. -/
theorem allOff_of_signObject {fields : Fields} {seed signed : Value}
    (hsigned : signObject rt fields seed = .ok signed) (hoff : AllOff (.obj fields)) :
    AllOff signed := by
  have happart : ∀ key ∈ flagNames, key ∉ signatureFields := by decide
  intro key hkey
  rw [get_of_signObject hsigned (happart key hkey)]
  exact hoff key hkey

theorem allOff_surface (surface : Surface) : AllOff surface.toValue :=
  allOff_iff.mpr ⟨Or.inl rfl, Or.inl rfl, Or.inl rfl, Or.inl rfl, Or.inl rfl⟩

theorem allOff_widened (found : Findings) : AllOff found.widened :=
  allOff_iff.mpr ⟨Or.inl rfl, Or.inl rfl, Or.inl rfl, Or.inl rfl, Or.inl rfl⟩

theorem allOff_risk (found : Findings) : AllOff found.risk :=
  allOff_iff.mpr ⟨Or.inl rfl, Or.inl rfl, Or.inl rfl, Or.inl rfl, Or.inl rfl⟩

theorem allOff_verdict {candidate verdict : Value} {options : CompileOptions}
    (h : compileActuatorVerdict rt candidate options = .ok verdict) : AllOff verdict := by
  obtain ⟨surface, _, h⟩ := bind_eq_ok.mp h
  obtain ⟨mutation, _, h⟩ := bind_eq_ok.mp h
  obtain ⟨risk, _, h⟩ := bind_eq_ok.mp h
  obtain ⟨_, _, h⟩ := bind_eq_ok.mp h
  obtain ⟨_, _, h⟩ := bind_eq_ok.mp h
  obtain ⟨_, _, hsigned⟩ := bind_eq_ok.mp h
  exact allOff_of_signObject hsigned
    (allOff_iff.mpr ⟨Or.inl rfl, Or.inl rfl, Or.inl rfl, Or.inl rfl, Or.inl rfl⟩)

theorem allOff_receipt {verdict receipt : Value} {options : CompileOptions}
    (h : compileAdmissionReceipt rt verdict options = .ok receipt) : AllOff receipt := by
  obtain ⟨_, _, h⟩ := bind_eq_ok.mp h
  obtain ⟨_, _, hsigned⟩ := bind_eq_ok.mp h
  exact allOff_of_signObject hsigned
    (allOff_iff.mpr ⟨Or.inl rfl, Or.inl rfl, Or.inl rfl, Or.inl rfl, Or.inl rfl⟩)

theorem allOff_quarantine {verdict receipt quarantine : Value} {options : CompileOptions}
    (h : routeQuarantine rt verdict receipt options = .ok quarantine) : AllOff quarantine := by
  obtain ⟨_, _, h⟩ := bind_eq_ok.mp h
  obtain ⟨_, _, hsigned⟩ := bind_eq_ok.mp h
  exact allOff_of_signObject hsigned
    (allOff_iff.mpr ⟨Or.inl rfl, Or.inl rfl, Or.inl rfl, Or.inl rfl, Or.inl rfl⟩)

theorem allOff_repair {verdict receipt quarantine repair : Value} {options : CompileOptions}
    (h : compileDryRunRepairPacket rt verdict receipt quarantine options = .ok repair) :
    AllOff repair := by
  obtain ⟨_, _, h⟩ := bind_eq_ok.mp h
  obtain ⟨_, _, h⟩ := bind_eq_ok.mp h
  obtain ⟨_, _, hsigned⟩ := bind_eq_ok.mp h
  exact allOff_of_signObject hsigned
    (allOff_iff.mpr ⟨Or.inl rfl, Or.inl rfl, Or.inl rfl, Or.inl rfl, Or.inl rfl⟩)

/-- What holds of every answer holds of the one that is taken. -/
theorem of_callCompat {P : Value → Prop} {name : String}
    {attempts : List (String × Except JsError Value)} {errors : List String} {v : Value}
    (hall : ∀ attempt ∈ attempts, ∀ w, attempt.2 = .ok w → P w)
    (h : callCompat name attempts errors = .ok v) : P v := by
  induction attempts generalizing errors with
  | nil => cases h
  | cons attempt rest ih =>
      obtain ⟨label, answer⟩ := attempt
      obtain ⟨hfirst, hrest⟩ := List.forall_mem_cons.mp hall
      cases answer with
      | error e => exact ih hrest h
      | ok w =>
          rw [callCompat] at h
          split at h
          · cases h
            exact hfirst _ rfl
          · exact ih hrest h

/-- Whatever shape of arguments a compiler answers to, its answer has no flag on. -/
theorem allOff_of_calls {args : Arguments} {verdict receipt quarantine repair : Value}
    (hv : callCompat "compileActuatorVerdict" (verdictAttempts rt args) [] = .ok verdict)
    (hr : callCompat "compileAdmissionReceipt" (receiptAttempts rt args verdict) [] = .ok receipt)
    (hq : callCompat "routeQuarantine" (quarantineAttempts rt args verdict receipt) [] =
      .ok quarantine)
    (hp : callCompat "compileDryRunRepairPacket"
      (repairAttempts rt args verdict receipt quarantine) [] = .ok repair) :
    AllOff verdict ∧ AllOff receipt ∧ AllOff quarantine ∧ AllOff repair := by
  refine ⟨of_callCompat ?_ hv, of_callCompat ?_ hr, of_callCompat ?_ hq, of_callCompat ?_ hp⟩
  · intro attempt hattempt w hw
    simp only [verdictAttempts, List.mem_cons, List.not_mem_nil, or_false] at hattempt
    rcases hattempt with rfl | rfl <;> exact allOff_verdict hw
  · intro attempt hattempt w hw
    simp only [receiptAttempts, List.mem_cons, List.not_mem_nil, or_false] at hattempt
    rcases hattempt with rfl | rfl | rfl <;> exact allOff_receipt hw
  · intro attempt hattempt w hw
    simp only [quarantineAttempts, List.mem_cons, List.not_mem_nil, or_false] at hattempt
    rcases hattempt with rfl | rfl | rfl | rfl | rfl <;> exact allOff_quarantine hw
  · intro attempt hattempt w hw
    simp only [repairAttempts, List.mem_cons, List.not_mem_nil, or_false] at hattempt
    rcases hattempt with rfl | rfl | rfl | rfl | rfl <;> exact allOff_repair hw

/-- No fixture turns a flag on. -/
theorem flags_of_evaluate {fixture : Value} {result : HostileResult}
    (h : evaluateHostileFixture rt fixture = .ok result) :
    result.flags = flagNames.map (fun key => (key, false)) := by
  obtain ⟨candidate, _, h⟩ := bind_eq_ok.mp h
  obtain ⟨found, _, h⟩ := bind_eq_ok.mp h
  obtain ⟨verdict, hv, h⟩ := bind_eq_ok.mp h
  obtain ⟨receipt, hr, h⟩ := bind_eq_ok.mp h
  obtain ⟨quarantine, hq, h⟩ := bind_eq_ok.mp h
  obtain ⟨repair, hp, h⟩ := bind_eq_ok.mp h
  obtain ⟨admitted, _, h⟩ := bind_eq_ok.mp h
  obtain ⟨failures, _, h⟩ := bind_eq_ok.mp h
  obtain ⟨hverdict, hreceipt, hquarantine, hrepair⟩ := allOff_of_calls hv hr hq hp
  have hoff := trueInAny_eq_false (List.forall_mem_cons.mpr ⟨allOff_surface found.surface,
    List.forall_mem_cons.mpr ⟨allOff_widened found, List.forall_mem_cons.mpr ⟨allOff_risk found,
      List.forall_mem_cons.mpr ⟨hverdict, List.forall_mem_cons.mpr ⟨hreceipt,
        List.forall_mem_cons.mpr ⟨hquarantine, List.forall_mem_singleton.mpr hrepair⟩⟩⟩⟩⟩⟩)
  cases h
  refine List.map_congr_left (fun key hkey => ?_)
  rw [hoff key hkey]

end Flags

/-! ## Runs -/

/-- The tasks of a run; the fixtures are read between the directories and the files. -/
def batteryDirs (stamp : Instant) : List FileTask :=
  [.make "reports/current", .make (snapshotDir .hostileFixtures stamp)]

def batteryWrites (stamp : Instant) (text : String) : List FileTask :=
  [.write (currentPath batteryName) text,
    .write (join [snapshotDir .hostileFixtures stamp, batteryName ++ ".json"]) text]

section Runs
variable {m : Machine} {fs after : FileSystem} {stamp : Instant}

/-- The fixtures of a tree and what they are evaluated to, in the order of their names. -/
structure Evaluates (m : Machine) (fs : FileSystem) (results : List HostileResult) : Prop where
  dir : fs.node (hostilePlace fs.cwd) = some .dir
  evaluated : List.Forall₂ (fun name result => ∃ fixture,
    readJson m (join [hostileDir, name]) fs = .ok fixture fs ∧
      evaluateHostileFixture m.rt fixture = .ok result)
    (jsonNames (m.listing.names fs (hostilePlace fs.cwd))) results

theorem resolve_batteryFile (cwd : Place) :
    resolve cwd (join [snapshotDir .hostileFixtures stamp, batteryName ++ ".json"]) =
      (batteryName ++ ".json") :: snapshotPlace cwd .hostileFixtures stamp := by
  rw [resolve_join cwd snapshotDir_ne_empty (by decide), resolve_snapshotDir]

theorem writtenBy_battery (cwd : Place) (text : String) :
    writtenBy cwd (batteryDirs stamp ++ batteryWrites stamp text) =
      [(currentPlace cwd batteryName, text),
        ((batteryName ++ ".json") :: snapshotPlace cwd .hostileFixtures stamp, text)] := by
  have hname : IsName (batteryName ++ ".json") := by decide
  simp only [batteryDirs, batteryWrites, List.cons_append, List.nil_append, writtenBy,
    resolve_currentPath hname, resolve_batteryFile]

theorem stores_battery (cwd : Place) (text : String) :
    Stores cwd batteryName .hostileFixtures stamp [batteryName ++ ".json"]
      (batteryDirs stamp ++ batteryWrites stamp text) where
  prepared := by
    refine ⟨by decide, hasNul_snapshotDir, by decide, ⟨_, _, List.mem_append_left _
      (List.mem_append_right _ List.mem_cons_self), resolve_currentPath (by decide)⟩,
      hasNul_join hasNul_snapshotDir (by decide), ⟨batteryName ++ ".json",
      snapshotPlace cwd .hostileFixtures stamp, ?_, resolve_batteryFile cwd⟩, trivial⟩
    rw [resolve_snapshotDir]
    exact List.mem_append_right _ List.mem_cons_self
  made := List.forall_mem_cons.mpr ⟨Or.inl rfl,
    List.forall_mem_singleton.mpr (Or.inr (Or.inr resolve_snapshotDir))⟩
  current := List.mem_cons_self
  snapshot := List.mem_cons_of_mem _ (List.mem_singleton.mpr resolve_snapshotDir.symm)
  written := by rw [writtenBy_battery, List.map_cons, List.map_cons, List.map_nil, List.map_cons,
    List.map_nil]

theorem looks_fixtureResult (file : String) : Looks (fixtureResult m file) :=
  looks_bind (looks_readJson _) (fun _ => looks_orThrow _)

theorem fixtureResult_eq_ok {file : String} {result : HostileResult} :
    fixtureResult m file fs = .ok result fs ↔ ∃ fixture,
      readJson m (join [hostileDir, file]) fs = .ok fixture fs ∧
        evaluateHostileFixture m.rt fixture = .ok result := by
  rw [fixtureResult, run_bind_eq_ok]
  constructor
  · intro h
    obtain ⟨fixture, between, hread, hresult⟩ := h
    obtain rfl := looks_readJson _ _ _ _ hread
    exact ⟨fixture, hread, (orThrow_eq_ok.mp hresult).1⟩
  · intro h
    obtain ⟨fixture, hread, hresult⟩ := h
    exact ⟨fixture, fs, hread, orThrow_eq_ok.mpr ⟨hresult, rfl⟩⟩

/-- The directories of a run change nothing about the fixtures. -/
theorem evaluates_of_made {made : FileSystem} {results : List HostileResult}
    (h : Laid fs (madeBy fs.cwd (batteryDirs stamp)) [] made)
    (hfinite : {name | fs.node (name :: hostilePlace fs.cwd) ≠ none}.Finite) :
    Evaluates m made results ↔ Evaluates m fs results := by
  have hdirs : madeBy fs.cwd (batteryDirs stamp) =
      [currentDir fs.cwd, snapshotPlace fs.cwd .hostileFixtures stamp] :=
    congrArg (fun place => [currentDir fs.cwd, place]) resolve_snapshotDir
  have hapart : ∀ dir ∈ madeBy fs.cwd (batteryDirs stamp), ¬ hostilePlace fs.cwd <:+ dir := by
    rw [hdirs, List.forall_mem_cons, List.forall_mem_singleton]
    constructor
    · intro hsuffix
      have hlength := hsuffix.length_le
      simp only [hostilePlace, currentDir, List.length_cons] at hlength
      omega
    · intro hsuffix
      have heq := hsuffix.eq_of_length
        (by simp only [hostilePlace, snapshotPlace, historyDir, List.length_cons])
      exact absurd (List.cons.inj (List.cons.inj heq).2).1 (by decide)
  have hdir := dir_iff_of_made h hapart
  have hnames := jsonNames_of_made (m := m) h hfinite hapart
  constructor
  · intro hmade
    obtain ⟨hthere, hall⟩ := hmade
    rw [h.wrote.cwd] at hthere hall
    rw [hnames] at hall
    simp only [readJson_of_made h] at hall
    exact ⟨hdir.mp hthere, hall⟩
  · intro hbefore
    obtain ⟨hthere, hall⟩ := hbefore
    constructor <;> rw [h.wrote.cwd]
    · exact hdir.mpr hthere
    · simp only [hnames, readJson_of_made h]
      exact hall

theorem runHostileFixtures_eq (m : Machine) (stamp : Instant) :
    runHostileFixtures m stamp = runTasks (batteryDirs stamp) >>= fun _ =>
      readJsonNames m hostileDir >>= fun files => files.mapM (fixtureResult m) >>= fun results =>
        runTasks (batteryWrites stamp (storedJson m (.obj (batteryReport results)))) >>= fun _ =>
          pure (batteryOutcome m results) := by
  simp only [runHostileFixtures, batteryDirs, batteryWrites, runTasks, FileTask.run, saveJson,
    bind_assoc, pure_bind]

theorem runHostileFixtures_eq_ok_iff {outcome : Outcome}
    (hfinite : {name | fs.node (name :: hostilePlace fs.cwd) ≠ none}.Finite) :
    runHostileFixtures m stamp fs = .ok outcome after ↔ ∃ results, Evaluates m fs results ∧
      runTasks (batteryDirs stamp ++
        batteryWrites stamp (storedJson m (.obj (batteryReport results)))) fs = .ok () after ∧
      outcome = batteryOutcome m results := by
  rw [runHostileFixtures_eq, run_bind_eq_ok]
  constructor
  · intro h
    obtain ⟨_, made, hmake, hread⟩ := h
    have hlaid := laid_of_runTasks (Laid.refl fs) hmake
    obtain ⟨names, listed, hnames, hevaluate⟩ := run_bind_eq_ok.mp hread
    obtain ⟨results, looked, hloop, hstore⟩ := run_bind_eq_ok.mp hevaluate
    obtain ⟨_, stored, hwrite, hpure⟩ := run_bind_eq_ok.mp hstore
    obtain ⟨⟨_, hdir, rfl⟩, rfl⟩ := readJsonNames_eq_ok.mp hnames
    obtain ⟨hresults, rfl⟩ := (mapM_looks_eq_ok looks_fixtureResult).mp hloop
    obtain ⟨rfl, rfl⟩ := pure_eq_ok.mp hpure
    refine ⟨results, (evaluates_of_made hlaid hfinite).mp ⟨hdir, ?_⟩, ?_, rfl⟩
    · exact hresults.imp (fun _ _ hresult => fixtureResult_eq_ok.mp hresult)
    · rw [runTasks_append]
      exact run_bind_eq_ok.mpr ⟨(), _, hmake, hwrite⟩
  · intro h
    obtain ⟨results, hevaluates, htasks, rfl⟩ := h
    rw [runTasks_append] at htasks
    obtain ⟨_, made, hmake, hwrite⟩ := run_bind_eq_ok.mp htasks
    have hlaid := laid_of_runTasks (Laid.refl fs) hmake
    obtain ⟨hdir, hall⟩ := (evaluates_of_made hlaid hfinite).mpr hevaluates
    have hnames : readJsonNames m hostileDir made =
        .ok (jsonNames (m.listing.names made (hostilePlace made.cwd))) made :=
      readJsonNames_eq_ok.mpr ⟨⟨by decide, hdir, rfl⟩, rfl⟩
    have hloop : (jsonNames (m.listing.names made (hostilePlace made.cwd))).mapM (fixtureResult m)
        made = .ok results made :=
      (mapM_looks_eq_ok looks_fixtureResult).mpr
        ⟨hall.imp (fun _ _ hresult => fixtureResult_eq_ok.mpr hresult), rfl⟩
    refine ⟨(), made, hmake, ?_⟩
    rw [run_bind_of_ok hnames, run_bind_of_ok hloop, run_bind_of_ok hwrite]
    rfl

/-- Nothing is admitted and no flag is on: the battery passes when every fixture does. -/
theorem batteryPasses_iff {results : List HostileResult} (h : Evaluates m fs results) :
    (∀ result ∈ results, result.admitted = false ∧
      result.flags = flagNames.map (fun key => (key, false))) ∧
    (batteryPasses results = true ↔ ∀ result ∈ results, result.passed = true) := by
  have hquiet : ∀ result ∈ results, result.admitted = false ∧
      result.flags = flagNames.map (fun key => (key, false)) := by
    intro result hresult
    obtain ⟨name, _, fixture, _, hevaluate⟩ := exists_of_forall₂_right h.evaluated hresult
    exact ⟨never_admitted hevaluate, flags_of_evaluate hevaluate⟩
  have hadmitted : results.filter (·.admitted) = [] := by
    rw [List.filter_eq_nil_iff]
    intro result hresult
    rw [(hquiet result hresult).1]
    exact Bool.false_ne_true
  have hwrites : results.filter writes = [] := by
    rw [List.filter_eq_nil_iff]
    intro result hresult
    rw [writes, (hquiet result hresult).2]
    decide
  refine ⟨hquiet, ?_⟩
  rw [batteryPasses, hadmitted, hwrites]
  simp only [List.length_nil, decide_true, Bool.and_true, decide_eq_true_eq,
    List.length_eq_zero_iff, List.filter_eq_nil_iff, Bool.not_eq_true', Bool.not_eq_false]

/-- A run comes to its end exactly when every fixture can be evaluated and the report stored. Its
report, stored twice, never counts an admission or a flag, and it exits with 0 exactly when every
fixture passes. -/
theorem runHostileFixtures_exit_zero_iff
    (hfinite : {name | fs.node (name :: hostilePlace fs.cwd) ≠ none}.Finite) :
    ((∃ outcome after, runHostileFixtures m stamp fs = .ok outcome after) ↔
      (∃ results, Evaluates m fs results) ∧
        RoomFor fs batteryName .hostileFixtures stamp [batteryName ++ ".json"]) ∧
    ∀ outcome after, runHostileFixtures m stamp fs = .ok outcome after →
      ∃ results, Evaluates m fs results ∧
        after.text (currentPlace fs.cwd batteryName) =
          some (storedJson m (.obj (batteryReport results))) ∧
        after.text ((batteryName ++ ".json") :: snapshotPlace fs.cwd .hostileFixtures stamp) =
          some (storedJson m (.obj (batteryReport results))) ∧
        (∀ result ∈ results, result.admitted = false ∧
          result.flags = flagNames.map (fun key => (key, false))) ∧
        (outcome.code = 0 ↔ ∀ result ∈ results, result.passed = true) := by
  constructor
  · constructor
    · intro h
      obtain ⟨outcome, after, hrun⟩ := h
      obtain ⟨results, hevaluates, htasks, _⟩ := (runHostileFixtures_eq_ok_iff hfinite).mp hrun
      exact ⟨⟨results, hevaluates⟩, (stores_battery fs.cwd _).run_iff.1.mp ⟨after, htasks⟩⟩
    · intro h
      obtain ⟨⟨results, hevaluates⟩, hroom⟩ := h
      obtain ⟨after, htasks⟩ := (stores_battery fs.cwd
        (storedJson m (.obj (batteryReport results)))).run_iff.1.mpr hroom
      exact ⟨_, after, (runHostileFixtures_eq_ok_iff hfinite).mpr ⟨results, hevaluates, htasks, rfl⟩⟩
  · intro outcome after hrun
    obtain ⟨results, hevaluates, htasks, rfl⟩ := (runHostileFixtures_eq_ok_iff hfinite).mp hrun
    obtain ⟨hquiet, hpasses⟩ := batteryPasses_iff hevaluates
    have hstores := @stores_battery stamp fs.cwd
      (storedJson m (.obj (batteryReport results)))
    have hwritten := @writtenBy_battery stamp fs.cwd
      (storedJson m (.obj (batteryReport results)))
    refine ⟨results, hevaluates, hstores.text_of_mem (by decide) htasks ?_,
      hstores.text_of_mem (by decide) htasks ?_, hquiet, ?_⟩
    · rw [hwritten]
      exact List.mem_cons_self
    · rw [hwritten]
      exact List.mem_cons_of_mem _ List.mem_cons_self
    · rw [← hpasses, batteryOutcome]
      split
      case isTrue h => exact iff_of_true rfl h
      case isFalse h => exact iff_of_false Nat.one_ne_zero h

end Runs

/-! ## A fixture that expects nothing -/

def batteryTree : FileSystem :=
  .ofList [(["fixtures"], .dir), (["v020", "fixtures"], .dir),
    (["hostile", "v020", "fixtures"], .dir),
    (["publish.json", "hostile", "v020", "fixtures"], .file publishText)] (by decide)

theorem mem_batteryTree (name : String) :
    name ∈ ["publish.json"] ↔ batteryTree.node (name :: hostilePlace []) ≠ none := by
  rw [batteryTree, node_ofList_ne_none]
  simp [hostilePlace]

theorem hasTexts_publish (rt : Runtime) : AnswerKey.HasTexts rt publishCandidate := by
  constructor
  · simp only [List.forall_mem_cons, List.not_mem_nil, false_imp_iff, implies_true, and_true]
    exact ⟨fun _ h => absurd h List.not_mem_nil, fun _ h => absurd h List.not_mem_nil,
      fun _ h => absurd h List.not_mem_nil⟩
  · simp only [List.forall_mem_cons, List.not_mem_nil, false_imp_iff, implies_true, and_true]
    exact ⟨fun _ => ⟨_, rfl⟩, fun _ => ⟨_, rfl⟩, fun _ => ⟨_, rfl⟩, fun _ => ⟨_, rfl⟩,
      fun _ => ⟨_, rfl⟩, fun _ => ⟨_, rfl⟩⟩

theorem exists_evaluate_publish (rt : Runtime) : ∃ result,
    evaluateHostileFixture rt publishCandidate = .ok result ∧ result.passed = true := by
  obtain ⟨candidate, hc⟩ := AnswerKey.exists_makeCandidate_iff.mpr (hasTexts_publish rt)
  have hrequires : Requires publishCandidate [] := Or.inl ⟨rfl, rfl⟩
  obtain ⟨found, hf⟩ := exists_findClasses rt hrequires candidate
  obtain ⟨flags, he⟩ := evaluate_eq hc hf
  exact ⟨_, he.trans rfl, rfl⟩

theorem runHostileFixtures_exit_zero_batteryTree : ∃ outcome after,
    runHostileFixtures wholeMachine epoch batteryTree = .ok outcome after ∧ outcome.code = 0 := by
  have hparse : Json.parse readWhole publishText = .ok publishCandidate := rfl
  obtain ⟨result, hresult, hpassed⟩ := exists_evaluate_publish .counting
  have hnames : jsonNames (wholeMachine.listing.names batteryTree (hostilePlace [])) =
      ["publish.json"] := by
    rw [jsonNames_eq_of_mem (by decide) mem_batteryTree]
    decide
  have hevaluates : Evaluates wholeMachine batteryTree [result] := by
    refine ⟨rfl, ?_⟩
    show List.Forall₂ _ (jsonNames (wholeMachine.listing.names batteryTree (hostilePlace []))) _
    rw [hnames]
    exact List.Forall₂.cons ⟨publishCandidate,
      readJson_eq_ok.mpr ⟨⟨publishText, by decide, hparse⟩, rfl⟩, hresult⟩ List.Forall₂.nil
  have hfinite : {name | batteryTree.node (name :: hostilePlace []) ≠ none}.Finite :=
    ["publish.json"].finite_toSet.subset (fun name hname => (mem_batteryTree name).mpr hname)
  obtain ⟨hends, hcode⟩ := @runHostileFixtures_exit_zero_iff wholeMachine batteryTree epoch hfinite
  obtain ⟨outcome, after, hrun⟩ := hends.mpr
    ⟨⟨[result], hevaluates⟩, roomFor_of_none _ _ _ _ (by decide) rfl⟩
  obtain ⟨results, hsame, _, _, _, hzero⟩ := hcode outcome after hrun
  refine ⟨outcome, after, hrun, hzero.mpr (fun other hother => ?_)⟩
  obtain ⟨name, hname, fixture, hread, heval⟩ := exists_of_forall₂_right hsame.evaluated hother
  have hpublish : name ∈ ["publish.json"] := hnames ▸ hname
  obtain rfl := List.mem_singleton.mp hpublish
  obtain ⟨⟨text, ⟨_, htext⟩, hparsed⟩, _⟩ := readJson_eq_ok.mp hread
  have hstored : publishText = text := Option.some.inj htext
  subst hstored
  obtain rfl := Except.ok.inj (hparse.symm.trans hparsed)
  obtain rfl := Except.ok.inj (hresult.symm.trans heval)
  exact hpassed

end Admissorium.Scripts
