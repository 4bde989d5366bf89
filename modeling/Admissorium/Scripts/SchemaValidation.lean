import Admissorium.Files.Tasks
import Admissorium.Schema.StoredSchemas
import Admissorium.Scripts.Snapshots
import Admissorium.Scripts.WriterChain

/-!
# Validation of the shipped objects

`schema/validate-v020-objects` reads ten pairs of files, a schema and an object each, and stores
what it finds before it exits with 1 for any error. As the main module it exits with 0 exactly when
the ten objects are valid and the report can be stored; otherwise it does nothing.
-/
namespace Admissorium.Scripts
set_option autoImplicit false

open JavaScript Json Files ValidateObject

/-! ## One pair -/

structure FileResult where
  schemaPath : String
  objectPath : String
  errors : List String
  schema_sha256 : String
  object_sha256 : String

/-- `errors.length === 0`. -/
def FileResult.ok (result : FileResult) : Bool := result.errors.isEmpty

def FileResult.fields (result : FileResult) : Fields :=
  [("schemaPath", .str result.schemaPath), ("objectPath", .str result.objectPath),
    ("ok", .bool result.ok), ("errors", .arr (result.errors.map .str)),
    ("schema_sha256", .str result.schema_sha256), ("object_sha256", .str result.object_sha256)]

/-- The object is parsed before the schema. -/
def validateFile (m : Machine) (schemaPath objectPath : String) : Fs FileResult := do
  let schemaText ← readFileSync schemaPath
  let objectText ← readFileSync objectPath
  let object ← orThrow (Json.parse m.read objectText)
  let schema ← orThrow (Json.parse m.read schemaText)
  let errors ← orThrow (Stored.validateObject m.rt object schema "$")
  return ⟨schemaPath, objectPath, errors, m.rt.sha256 schemaText, m.rt.sha256 objectText⟩

/-! ## The report -/

def PAIRS : List (String × String) :=
  [("schemas/admissorium-actuator-policy.schema.json", "policies/admissorium-actuator-policy.json"),
    ("schemas/protected-truth-paths.schema.json", "policies/protected-truth-paths.json"),
    ("schemas/github-app-permission-policy.schema.json",
      "policies/github-app-permission-policy.json"),
    ("schemas/emergency-stop.schema.json", "policies/emergency-stop.json"),
    ("schemas/mutation-classification-policy.schema.json",
      "policies/mutation-classification-policy.json"),
    ("schemas/actuator-verdict.schema.json", "examples/actuator-verdict.example.json"),
    ("schemas/admission-receipt.schema.json", "examples/admission-receipt.example.json"),
    ("schemas/quarantine-record.schema.json", "examples/quarantine-record.example.json"),
    ("schemas/dry-run-repair-plan.schema.json", "examples/dry-run-repair-plan.example.json"),
    ("schemas/v020-readiness.schema.json", "examples/v020-readiness.example.json")]

def failedResults (results : List FileResult) : List FileResult :=
  results.filter (fun result => !result.ok)

def objectsState (results : List FileResult) : String :=
  if (failedResults results).length ≠ 0 then "ADMISSORIUM_V020_OBJECT_SCHEMAS_FAIL"
  else "ADMISSORIUM_V020_OBJECT_SCHEMAS_PASS"

def objectsSummary (results : List FileResult) : Fields :=
  [("total", .num (results.length : Nat)),
    ("passed", .num (results.length - (failedResults results).length : Nat)),
    ("failed", .num ((failedResults results).length : Nat))]

def objectsReport (results : List FileResult) : Fields :=
  [("report_type", .str "ADMISSORIUM_V020_SCHEMA_VALIDATION_REPORT"),
    ("schema_version", .str "1.0.0"), ("admissorium_version", .str "0.2.0"),
    ("truth_warning", .str "NOT_TRUTH_SOURCE"), ("state", .str (objectsState results)),
    ("system_complete", .bool false), ("writer_enabled", .bool false),
    ("webhook_enabled", .bool false), ("direct_main_write_enabled", .bool false),
    ("package_publish_enabled", .bool false), ("summary", .obj (objectsSummary results)),
    ("results", .arr (results.map (fun result => .obj result.fields)))]

def objectsManifest (results : List FileResult) (created : Instant) : Fields :=
  [("history_type", .str "ADMISSORIUM_V020_SCHEMA_VALIDATION_HISTORY"),
    ("created_at", .str created.toISOString),
    ("current_report", .str "reports/current/v020-schema-validation.json"),
    ("state", .str (objectsState results)), ("system_complete", .bool false),
    ("writer_enabled", .bool false), ("webhook_enabled", .bool false),
    ("summary", .obj (objectsSummary results))]

def validateV020Objects (m : Machine) : Fs (List FileResult) :=
  PAIRS.mapM (fun pair => validateFile m pair.1 pair.2)

/-- The clock is read twice, for the name of the directory and for the manifest in it. -/
def writeReport (m : Machine) (stamp created : Instant) : Fs (List FileResult) := do
  let results ← validateV020Objects m
  mkdirSync "reports/current"
  saveJson m "reports/current/v020-schema-validation.json" (.obj (objectsReport results))
  mkdirSync (snapshotDir .schemaValidation stamp)
  saveJson m (snapshotDir .schemaValidation stamp ++ "/" ++ "manifest.json")
    (.obj (objectsManifest results created))
  return results

def objectsScript : String := "src/schema/validate-v020-objects.js"

/-- `src/schema/validate-v020-objects.js`. -/
def validateObjects (m : Machine) (stamp created : Instant) : Fs Outcome :=
  whenMain m objectsScript do
    let results ← writeReport m stamp created
    return ⟨printed m (objectsState results ++ "=true") (objectsSummary results),
      if (failedResults results).length ≠ 0 then 1 else 0⟩

/-! ## What is stored -/

/-- The files of a report that has a manifest in the directory of its run. -/
def manifestTasks (name : String) (kind : SnapshotKind) (stamp : Instant)
    (report manifest : String) : List FileTask :=
  [.make "reports/current", .write (currentPath name) report, .make (snapshotDir kind stamp),
    .write (snapshotDir kind stamp ++ "/" ++ "manifest.json") manifest]

theorem stores_manifestTasks {cwd : Place} {name : String} {kind : SnapshotKind} {stamp : Instant}
    {report manifest : String} (hname : IsName (name ++ ".json"))
    (hnul : hasNul (currentPath name) = false) :
    Stores cwd name kind stamp ["manifest.json"]
      (manifestTasks name kind stamp report manifest) where
  prepared := by
    refine ⟨by decide, hnul, ⟨_, _, List.mem_append_right _ List.mem_cons_self,
      resolve_currentPath hname⟩, hasNul_snapshotDir,
      hasNul_append (hasNul_append hasNul_snapshotDir (by decide)) (by decide),
      ⟨"manifest.json", snapshotPlace cwd kind stamp, ?_, resolve_inSnapshot (by decide)⟩, trivial⟩
    rw [resolve_snapshotDir]
    exact List.mem_append_right _ List.mem_cons_self
  made := List.forall_mem_cons.mpr ⟨Or.inl rfl,
    List.forall_mem_singleton.mpr (Or.inr (Or.inr resolve_snapshotDir))⟩
  current := List.mem_cons_self
  snapshot := List.mem_cons_of_mem _ (List.mem_singleton.mpr resolve_snapshotDir.symm)
  written := by
    have hmanifest : IsName "manifest.json" := by decide
    simp only [manifestTasks, writtenBy, resolve_currentPath hname, resolve_inSnapshot hmanifest,
      List.map_cons, List.map_nil]

/-! ## Runs -/

section Runs
variable {m : Machine} {fs after : FileSystem} {stamp created : Instant}

/-- The schema file of a pair holds a schema of the keywords that are used. -/
structure HoldsSchema (m : Machine) (fs : FileSystem) (pair : String × String) (schema : Schema) :
    Prop where
  inFragment : InFragment schema
  stored : ∃ stored, readJson m pair.1 fs = .ok stored fs ∧ Stored.Describes stored schema

/-- The object file of a pair holds JSON. -/
def HoldsObject (m : Machine) (fs : FileSystem) (pair : String × String) : Prop :=
  ∃ value, readJson m pair.2 fs = .ok value fs

def HoldsValid (m : Machine) (fs : FileSystem) (pair : String × String) (schema : Schema) : Prop :=
  ∃ value, readJson m pair.2 fs = .ok value fs ∧ Valid schema value

theorem looks_validateFile (schemaPath objectPath : String) :
    Looks (validateFile m schemaPath objectPath) := by
  refine looks_bind (looks_readFileSync _) (fun _ => looks_bind (looks_readFileSync _) (fun _ =>
    looks_bind (looks_orThrow _) (fun _ => looks_bind (looks_orThrow _) (fun _ =>
      looks_bind (looks_orThrow _) (fun _ => ?_)))))
  exact fun _ _ _ h => (pure_eq_ok.mp h).2

/-- With a schema in the fragment, a pair has a result once its object can be read, and the result
is good when the object is valid. -/
theorem validateFile_eq_ok_iff {pair : String × String} {schema : Schema}
    (hschema : HoldsSchema m fs pair schema) :
    ((∃ result, validateFile m pair.1 pair.2 fs = .ok result fs) ↔ HoldsObject m fs pair) ∧
      ∀ result, validateFile m pair.1 pair.2 fs = .ok result fs →
        (result.ok = true ↔ HoldsValid m fs pair schema) := by
  obtain ⟨hfragment, stored, hstored, hdescribes⟩ := hschema
  obtain ⟨⟨schemaText, hschemaText, hschemaParse⟩, _⟩ := readJson_eq_ok.mp hstored
  have hrun : ∀ value objectText, fs.text (resolve fs.cwd pair.2) = some objectText →
      hasNul pair.2 = false → Json.parse m.read objectText = .ok value →
      validateFile m pair.1 pair.2 fs = .ok ⟨pair.1, pair.2,
        validateObject m.rt value schema "$", m.rt.sha256 schemaText,
        m.rt.sha256 objectText⟩ fs := by
    intro value objectText htext hnul hparse
    have hread : readFileSync pair.1 fs = .ok schemaText fs :=
      readFileSync_eq_ok.mpr ⟨hschemaText, rfl⟩
    have hread' : readFileSync pair.2 fs = .ok objectText fs :=
      readFileSync_eq_ok.mpr ⟨⟨hnul, htext⟩, rfl⟩
    rw [validateFile, run_bind_of_ok hread, run_bind_of_ok hread',
      run_bind_of_ok (orThrow_eq_ok.mpr ⟨hparse, rfl⟩),
      run_bind_of_ok (orThrow_eq_ok.mpr ⟨hschemaParse, rfl⟩),
      run_bind_of_ok (orThrow_eq_ok.mpr ⟨Stored.validateObject_of_describes hfragment hdescribes
        value "$" (parsed_of_parse hparse).isJson, rfl⟩)]
    rfl
  have hobject : ∀ result, validateFile m pair.1 pair.2 fs = .ok result fs →
      HoldsObject m fs pair := by
    intro result h
    obtain ⟨_, _, hfirst, h⟩ := run_bind_eq_ok.mp h
    obtain ⟨_, rfl⟩ := readFileSync_eq_ok.mp hfirst
    obtain ⟨objectText, _, hsecond, h⟩ := run_bind_eq_ok.mp h
    obtain ⟨hfound, rfl⟩ := readFileSync_eq_ok.mp hsecond
    obtain ⟨value, _, hvalue, h⟩ := run_bind_eq_ok.mp h
    obtain ⟨hparse, rfl⟩ := orThrow_eq_ok.mp hvalue
    exact ⟨value, readJson_eq_ok.mpr ⟨⟨objectText, hfound, hparse⟩, rfl⟩⟩
  have hvalid : ∀ value, IsJson value →
      ((validateObject m.rt value schema "$").isEmpty = true ↔ Valid schema value) := by
    intro value hvalue
    rw [List.isEmpty_iff, validateObject_eq_nil_iff hfragment value "$" hvalue]
  refine ⟨⟨fun h => ?_, fun h => ?_⟩, fun result h => ?_⟩
  · obtain ⟨result, hresult⟩ := h
    exact hobject result hresult
  · obtain ⟨value, hvalue⟩ := h
    obtain ⟨⟨objectText, ⟨hnul, htext⟩, hparse⟩, _⟩ := readJson_eq_ok.mp hvalue
    exact ⟨_, hrun value objectText htext hnul hparse⟩
  · obtain ⟨value, hvalue⟩ := hobject result h
    obtain ⟨⟨objectText, ⟨hnul, htext⟩, hparse⟩, _⟩ := readJson_eq_ok.mp hvalue
    have hjson := (parsed_of_parse hparse).isJson
    rw [hrun value objectText htext hnul hparse, EStateM.Result.ok.injEq] at h
    obtain ⟨rfl, _⟩ := h
    refine (hvalid value hjson).trans ⟨fun hv => ⟨value, hvalue, hv⟩, fun hv => ?_⟩
    obtain ⟨other, hother, hv⟩ := hv
    rw [hvalue, EStateM.Result.ok.injEq] at hother
    rw [hother.1]
    exact hv

/-- The tasks that store the results. -/
def objectsTasks (m : Machine) (stamp created : Instant) (results : List FileResult) :
    List FileTask :=
  manifestTasks "v020-schema-validation" .schemaValidation stamp
    (storedJson m (.obj (objectsReport results)))
    (storedJson m (.obj (objectsManifest results created)))

def objectsOutcome (m : Machine) (results : List FileResult) : Outcome :=
  ⟨printed m (objectsState results ++ "=true") (objectsSummary results),
    if (failedResults results).length ≠ 0 then 1 else 0⟩

theorem stores_objectsTasks (cwd : Place) (results : List FileResult) :
    Stores cwd "v020-schema-validation" .schemaValidation stamp ["manifest.json"]
      (objectsTasks m stamp created results) :=
  stores_manifestTasks (by decide) (by decide)

/-- A run of the main module looks at the ten pairs and then stores what it has found. -/
theorem validateObjects_eq (m : Machine) (stamp created : Instant) :
    validateObjects m stamp created = whenMain m objectsScript
      (validateV020Objects m >>= fun results =>
        runTasks (objectsTasks m stamp created results) >>= fun _ =>
          pure (objectsOutcome m results)) := by
  simp only [validateObjects, writeReport, objectsTasks, manifestTasks, runTasks, FileTask.run,
    saveJson, bind_assoc, pure_bind]
  rfl

theorem validateObjects_eq_ok_iff (hmain : IsMain m fs.cwd objectsScript) {outcome : Outcome} :
    validateObjects m stamp created fs = .ok outcome after ↔
      ∃ results, List.Forall₂ (fun pair result => validateFile m pair.1 pair.2 fs = .ok result fs)
        PAIRS results ∧ runTasks (objectsTasks m stamp created results) fs = .ok () after ∧
          outcome = objectsOutcome m results := by
  have hlooks : ∀ pair : String × String, Looks (validateFile m pair.1 pair.2) :=
    fun pair => looks_validateFile pair.1 pair.2
  rw [validateObjects_eq, whenMain_of_isMain hmain, run_bind_eq_ok]
  constructor
  · intro h
    obtain ⟨results, between, hvalidate, h⟩ := h
    obtain ⟨hresults, rfl⟩ := (mapM_looks_eq_ok hlooks).mp hvalidate
    obtain ⟨_, stored, htasks, hpure⟩ := run_bind_eq_ok.mp h
    obtain ⟨rfl, rfl⟩ := pure_eq_ok.mp hpure
    exact ⟨results, hresults, htasks, rfl⟩
  · intro h
    obtain ⟨results, hresults, htasks, rfl⟩ := h
    exact ⟨results, fs, (mapM_looks_eq_ok hlooks).mpr ⟨hresults, rfl⟩,
      run_bind_eq_ok.mpr ⟨(), after, htasks, rfl⟩⟩

/-- Two lists that each go with a third: an element of one is good exactly when that of the other
is. -/
theorem forall_mem_iff_forall₂ {α β γ : Type} {R : α → β → Prop} {S : α → γ → Prop}
    {good : γ → Prop} {holds : α → β → Prop} {as : List α} {bs : List β} {cs : List γ}
    (h : List.Forall₂ R as bs) (h' : List.Forall₂ S as cs)
    (hiff : ∀ a b c, R a b → S a c → (good c ↔ holds a b)) :
    (∀ c ∈ cs, good c) ↔ List.Forall₂ holds as bs := by
  induction h generalizing cs with
  | nil =>
      cases h'
      exact iff_of_true (List.forall_mem_nil _) List.Forall₂.nil
  | @cons a b as bs hb _ ih =>
      obtain ⟨c, rest, hc, hrest, rfl⟩ := List.forall₂_cons_left_iff.mp h'
      rw [List.forall_mem_cons, List.forall₂_cons, hiff a b c hb hc, ih hrest]

theorem code_eq_zero_iff (results : List FileResult) :
    (objectsOutcome m results).code = 0 ↔ ∀ result ∈ results, result.ok = true := by
  have hfailed : (failedResults results).length = 0 ↔ ∀ result ∈ results, result.ok = true := by
    rw [List.length_eq_zero_iff, failedResults, List.filter_eq_nil_iff]
    simp only [Bool.not_eq_true, Bool.not_eq_false']
  rw [← hfailed, objectsOutcome]
  split
  case isTrue h => exact iff_of_false Nat.one_ne_zero h
  case isFalse h => exact iff_of_true rfl (not_not.mp h)

/-- With schema files of the keywords that are used, a run of the main module comes to its end
exactly when the ten objects are JSON and there is room for the report; it exits with 0 exactly when
they are valid. A run of what is not the main module exits with 0 and leaves the tree as it is. -/
theorem validateObjects_exit_zero_iff {schemas : List Schema}
    (hschemas : List.Forall₂ (HoldsSchema m fs) PAIRS schemas) :
    (IsMain m fs.cwd objectsScript →
      ((∃ outcome after, validateObjects m stamp created fs = .ok outcome after) ↔
        (∀ pair ∈ PAIRS, HoldsObject m fs pair) ∧
          RoomFor fs "v020-schema-validation" .schemaValidation stamp ["manifest.json"]) ∧
      ∀ outcome after, validateObjects m stamp created fs = .ok outcome after →
        (outcome.code = 0 ↔ List.Forall₂ (HoldsValid m fs) PAIRS schemas)) ∧
    (¬ IsMain m fs.cwd objectsScript → validateObjects m stamp created fs = .ok ⟨"", 0⟩ fs) := by
  refine ⟨fun hmain => ?_, fun hmain => whenMain_of_not_isMain hmain _⟩
  constructor
  · constructor
    · intro h
      obtain ⟨outcome, after, hrun⟩ := h
      obtain ⟨results, hresults, htasks, _⟩ := (validateObjects_eq_ok_iff hmain).mp hrun
      refine ⟨fun pair hpair => ?_, (stores_objectsTasks fs.cwd results).run_iff.1.mp ⟨after, htasks⟩⟩
      obtain ⟨schema, _, hschema⟩ := exists_of_forall₂_left hschemas hpair
      obtain ⟨result, _, hresult⟩ := exists_of_forall₂_left hresults hpair
      exact (validateFile_eq_ok_iff hschema).1.mp ⟨result, hresult⟩
    · intro h
      obtain ⟨hobjects, hroom⟩ := h
      have hall : ∀ pair ∈ PAIRS, ∃ result, validateFile m pair.1 pair.2 fs = .ok result fs := by
        intro pair hpair
        obtain ⟨schema, _, hschema⟩ := exists_of_forall₂_left hschemas hpair
        exact (validateFile_eq_ok_iff hschema).1.mpr (hobjects pair hpair)
      obtain ⟨results, hresults⟩ := exists_forall₂ hall
      have hstores : Stores fs.cwd "v020-schema-validation" .schemaValidation stamp
          ["manifest.json"] (objectsTasks m stamp created results) := stores_objectsTasks _ _
      obtain ⟨after, htasks⟩ := hstores.run_iff.1.mpr hroom
      exact ⟨_, after, (validateObjects_eq_ok_iff hmain).mpr ⟨results, hresults, htasks, rfl⟩⟩
  · intro outcome after hrun
    obtain ⟨results, hresults, _, rfl⟩ := (validateObjects_eq_ok_iff hmain).mp hrun
    rw [code_eq_zero_iff]
    exact forall_mem_iff_forall₂ hschemas hresults
      (fun pair schema result hschema hresult => (validateFile_eq_ok_iff hschema).2 result hresult)

end Runs

/-! ## Ten valid objects -/

def epoch : Instant where
  year := 1970
  month := 1
  day := 1
  hour := 0
  minute := 0
  second := 0
  millisecond := 0
  year_lt := by decide
  month_le := by decide
  day_le := by decide
  hour_lt := by decide
  minute_lt := by decide
  second_lt := by decide
  millisecond_lt := by decide

def stateSchema : Schema :=
  .mk none none (some (.one "object")) (some ["state"]) (some [("state", .constant (.str "PASS"))])
    none none none none

def stateSchemaText : String :=
  "\x7b\"type\":\"object\",\"required\":[\"state\"]," ++
    "\"properties\":\x7b\"state\":\x7b\"const\":\"PASS\"\x7d\x7d\x7d"

def stateSchemaStored : Value :=
  .obj [("type", .str "object"), ("required", .arr [.str "state"]),
    ("properties", .obj [("state", .obj [("const", .str "PASS")])])]

def stateObjectText : String := "\x7b\"state\":\"PASS\"\x7d"

/-- The node at a place of a tree with one schema and one object under every name. -/
def pairNode : Place → Option Node
  | [] => some .dir
  | [dir] => if dir ∈ ["schemas", "policies", "examples"] then some .dir else none
  | [_, dir] =>
      if dir = "schemas" then some (.file stateSchemaText)
      else if dir = "policies" ∨ dir = "examples" then some (.file stateObjectText)
      else none
  | _ => none

def pairTree : FileSystem where
  node := pairNode
  cwd := []
  root_dir := rfl
  parent_dir := by
    intro name place hthere
    match place with
    | [] => rfl
    | [dir] =>
        simp only [pairNode] at hthere ⊢
        split at hthere
        case isTrue hdir => simp [hdir]
        case isFalse =>
          split at hthere
          case isTrue hdir => rcases hdir with rfl | rfl <;> simp
          case isFalse => exact absurd rfl hthere
    | _ :: _ :: _ => exact absurd rfl hthere

theorem inFragment_stateSchema : InFragment stateSchema := by
  refine .intro (by simp) (by simp [typeNames]) (by simp) (by simp) ?_ (by simp)
  intro entries hentries
  cases hentries
  exact List.forall_mem_singleton.mpr (inFragment_constant trivial)

theorem describes_stateSchema : Stored.Describes stateSchemaStored stateSchema := by
  simp only [stateSchema, stateSchemaStored, Schema.constant, Stored.Describes,
    Stored.DescribesMembers, Stored.DescribesEach, Stored.DescribesItems]
  exact ⟨⟨_, rfl⟩, rfl, rfl, rfl, rfl, ⟨_, rfl, _, _, rfl, ⟨⟨_, rfl⟩, rfl, rfl, rfl, rfl, rfl, rfl,
    rfl, rfl, rfl⟩, rfl⟩, rfl, rfl, rfl, rfl⟩

theorem valid_stateObject : Valid stateSchema (.obj [("state", .str "PASS")]) := by
  have hnone : validateObject .ascii (.obj [("state", .str "PASS")]) stateSchema "$" = [] := by
    decide +kernel
  exact (validateObject_eq_nil_iff inFragment_stateSchema _ "$"
    (by simp [IsJson, FieldsJson])).mp hnone

theorem read_pairTree : ∀ pair ∈ PAIRS,
    (hasNul pair.1 = false ∧ pairTree.text (resolve [] pair.1) = some stateSchemaText) ∧
      (hasNul pair.2 = false ∧ pairTree.text (resolve [] pair.2) = some stateObjectText) := by
  decide +kernel

theorem validateObjects_exit_zero_iff_pairTree : ∃ outcome after,
    validateObjects wholeMachine epoch epoch pairTree = .ok outcome after ∧ outcome.code = 0 := by
  have hschemaParse : Json.parse readWhole stateSchemaText = .ok stateSchemaStored := rfl
  have hobjectParse : Json.parse readWhole stateObjectText = .ok (.obj [("state", .str "PASS")]) :=
    rfl
  have hschemas : List.Forall₂ (HoldsSchema wholeMachine pairTree) PAIRS
      (PAIRS.map (fun _ => stateSchema)) := by
    rw [List.forall₂_map_right_iff, List.forall₂_same]
    intro pair hpair
    exact ⟨inFragment_stateSchema, _, readJson_eq_ok.mpr
      ⟨⟨stateSchemaText, (read_pairTree pair hpair).1, hschemaParse⟩, rfl⟩, describes_stateSchema⟩
  have hobjects : ∀ pair ∈ PAIRS, readJson wholeMachine pair.2 pairTree =
      .ok (.obj [("state", .str "PASS")]) pairTree := fun pair hpair =>
    readJson_eq_ok.mpr ⟨⟨stateObjectText, (read_pairTree pair hpair).2, hobjectParse⟩, rfl⟩
  have hroom : RoomFor pairTree "v020-schema-validation" .schemaValidation epoch
      ["manifest.json"] := roomFor_of_none _ _ _ _ (by decide) rfl
  have hmain : IsMain wholeMachine pairTree.cwd objectsScript := rfl
  obtain ⟨hends, hcode⟩ := (@validateObjects_exit_zero_iff _ _ epoch epoch _ hschemas).1 hmain
  obtain ⟨outcome, after, hrun⟩ :=
    hends.mpr ⟨fun pair hpair => ⟨_, hobjects pair hpair⟩, hroom⟩
  refine ⟨outcome, after, hrun, (hcode outcome after hrun).mpr ?_⟩
  rw [List.forall₂_map_right_iff, List.forall₂_same]
  exact fun pair hpair => ⟨_, hobjects pair hpair, valid_stateObject⟩

end Admissorium.Scripts
