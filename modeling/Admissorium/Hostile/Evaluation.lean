import Admissorium.Hostile.Fixtures
import Admissorium.Pipeline.QuarantineSuite

/-!
# Evaluating a hostile fixture

The candidate of a fixture is classified, the classes found in it are joined with those of
the battery and those the fixture expects, and the compilers are called with one shape of
arguments after another until a call answers with an object.
-/
namespace Admissorium.Hostile
set_option autoImplicit false

open JavaScript Json Classify LanguageBoundary Signing Verdict Verdict.Admission
  Pipeline.QuarantineSuite

/-! ## Sets of classes -/

/-- `set.add(value)`; an object is never one that is there already. -/
def addTo (set : List Value) (v : Value) : List Value :=
  if set.any v.strictEquals then set else set ++ [v]

def addAll (set : List Value) (vs : List Value) : List Value := vs.foldl addTo set

/-- `[...set].sort()`: by text, which a single element is not asked for. -/
def sortValues (rt : Runtime) (vs : List Value) : Except JsError (List Value) :=
  if vs.length ≤ 1 then .ok vs
  else do
    let keyed ← vs.mapM (fun v => do return (← v.toText rt, v))
    return (keyed.insertionSort (fun a b => textLe a.1 b.1)).map Prod.snd

/-- `for (const item of value || [])`. -/
def iterate (v : Value) : Except JsError (List Value) :=
  match v.or (.arr []) with
  | .arr items => .ok items
  | .str s => .ok (s.toList.map (fun c => .str (String.singleton c)))
  | _ => .error .typeError

def baseClasses : List String :=
  ["protected_truth_mutation", "role_collapse", "package_publish_path", "secret_bearing_artifact",
    "direct_main_write_path", "writer_overreach_path", "token_persistence_path"]

/-- The lists of the classifiers are arrays where they have them. -/
def baseRedClasses (objects : List Value) : List Value :=
  addAll [] ((objects.flatMap (fun object =>
    ["red_classes", "classes", "reasons"].flatMap (fun key => itemsOr (object.get key)))).filter
      (fun v => baseClasses.any (fun name => v.strictEquals (.str name))))

/-- The battery's own classes, and those the fixture says are required. -/
def hostileRedClasses (rt : Runtime) (fixture : Value) (candidate : Candidate) :
    Except JsError (List Value) := do
  let required ← iterate ((fixture.get "expected").get "required_red_classes")
  return addAll [] ((detectedClasses (hostileText rt candidate)).map .str ++ required)

/-- What is found before the compilers are called. -/
structure Findings where
  surface : Surface
  mutation : Mutation
  risk0 : TruthRisk
  red_classes : List Value

def findClasses (rt : Runtime) (fixture : Value) (candidate : Candidate) :
    Except JsError Findings := do
  let surface ← classifySurface rt candidate.toValue
  let mutation ← classifyMutation rt candidate.toValue surface
  let risk0 ← classifyTruthRisk candidate.toValue surface mutation
  let hostile ← hostileRedClasses rt fixture candidate
  let red := addAll (baseRedClasses [surface.toValue, mutation.toValue, risk0.toValue]) hostile
  let red_classes ← sortValues rt red
  return { surface, mutation, risk0, red_classes }

/-! ## Objects with fields replaced -/

def setField : Fields → String → Value → Fields
  | [], key, v => [(key, v)]
  | (name, w) :: rest, key, v =>
      if name = key then (key, v) :: rest else (name, w) :: setField rest key v

/-- `{ ...base, ...fields }`. -/
def spread (base : Value) (fields : Fields) : Value :=
  match base with
  | .obj own => .obj (fields.foldl (fun own field => setField own field.1 field.2) own)
  | _ => .obj fields

namespace Findings

def has (found : Findings) (name : String) : Bool :=
  found.red_classes.any (fun v => v.strictEquals (.str name))

def riskText (found : Findings) : String :=
  if found.red_classes.length > 0 then "RED" else found.risk0.risk.text

def risk (found : Findings) : Value :=
  spread found.risk0.toValue
    [("risk", .str found.riskText), ("red_classes", .arr found.red_classes),
      ("no_package_publish_path_pass", .bool (!found.has "package_publish_path")),
      ("no_secret_persistence_pass", .bool (!found.has "secret_bearing_artifact")),
      ("no_direct_main_write_pass", .bool (!found.has "direct_main_write_path")),
      ("no_writer_overreach_pass", .bool (!found.has "writer_overreach_path"))]

/-- `mutation2`. -/
def widened (found : Findings) : Value :=
  spread found.mutation.toValue
    [("red_classes", .arr (addAll [] (itemsOr (found.mutation.toValue.get "red_classes") ++
        found.red_classes))),
      ("classes", .arr (addAll [] (itemsOr (found.mutation.toValue.get "classes") ++
        found.red_classes)))]

end Findings

/-! ## Calling the compilers -/

def isObject : Value → Bool
  | .arr _ | .obj _ => true
  | _ => false

def typeName : Value → String
  | .undefined => "undefined"
  | .null => "null"
  | .bool _ => "boolean"
  | .num _ => "number"
  | .str _ => "string"
  | .arr _ | .obj _ => "object"

/-- The message of an error; those of the engine are left blank. -/
def errorMessage : JsError → String
  | .error text => text
  | _ => ""

/-- The answer of the first attempt that answers with an object. -/
def callCompat (name : String) : List (String × Except JsError Value) → List String →
    Except JsError Value
  | [], errors =>
      .error (.error (name ++ " compatibility call failed:\n" ++ "\n".intercalate errors))
  | (label, attempt) :: rest, errors =>
      match attempt with
      | .ok v =>
          if isObject v then .ok v
          else callCompat name rest (errors ++ [label ++ ": returned " ++ typeName v])
      | .error e => callCompat name rest (errors ++ [label ++ ": " ++ errorMessage e])

/-- An argument that stands where a compiler expects its options. -/
def optionsOf (v : Value) : CompileOptions :=
  { generated_at := v.get "generated_at", signing_seed := v.get "signing_seed" }

/-- The arguments under their names, in one object. -/
structure Arguments where
  candidate : Value
  surface : Value
  mutation : Value
  risk : Value

def Arguments.fields (args : Arguments) : Fields :=
  [("candidate", args.candidate), ("surface", args.surface), ("mutation", args.mutation),
    ("risk", args.risk)]

def verdictAttempts (rt : Runtime) (args : Arguments) : List (String × Except JsError Value) :=
  [("object", compileActuatorVerdict rt (.obj args.fields) {}),
    ("positional", compileActuatorVerdict rt args.candidate (optionsOf args.surface))]

def receiptAttempts (rt : Runtime) (args : Arguments) (verdict : Value) :
    List (String × Except JsError Value) :=
  [("object", compileAdmissionReceipt rt (.obj (args.fields ++ [("verdict", verdict)])) {}),
    ("object+verdict", compileAdmissionReceipt rt (.obj args.fields) (optionsOf verdict)),
    ("positional", compileAdmissionReceipt rt args.candidate (optionsOf args.surface))]

def quarantineAttempts (rt : Runtime) (args : Arguments) (verdict receipt : Value) :
    List (String × Except JsError Value) :=
  [("object", routeQuarantine rt
      (.obj (args.fields ++ [("verdict", verdict), ("receipt", receipt)])) .undefined {}),
    ("object+receipt", routeQuarantine rt (.obj (args.fields ++ [("verdict", verdict)])) receipt {}),
    ("positional-full",
      routeQuarantine rt args.candidate args.surface (optionsOf args.mutation)),
    ("candidate-verdict-receipt", routeQuarantine rt args.candidate verdict (optionsOf receipt)),
    ("verdict-receipt", routeQuarantine rt verdict receipt {})]

def repairAttempts (rt : Runtime) (args : Arguments) (verdict receipt quarantine : Value) :
    List (String × Except JsError Value) :=
  [("object", compileDryRunRepairPacket rt (.obj (args.fields ++ [("verdict", verdict),
      ("receipt", receipt), ("quarantine", quarantine)])) .undefined .undefined {}),
    ("object+quarantine", compileDryRunRepairPacket rt (.obj (args.fields ++ [("verdict", verdict),
      ("receipt", receipt)])) quarantine .undefined {}),
    ("positional-full", compileDryRunRepairPacket rt args.candidate args.surface args.mutation
      (optionsOf args.risk)),
    ("candidate-verdict-receipt-quarantine", compileDryRunRepairPacket rt args.candidate verdict
      receipt (optionsOf quarantine)),
    ("verdict-receipt-quarantine", compileDryRunRepairPacket rt verdict receipt quarantine {})]

/-! ## The answer -/

def trueInAny (key : String) (objects : List Value) : Bool :=
  objects.any (fun object => object.truthy && (object.get key).strictEquals (.bool true))

/-- `String(value ?? "")` in upper case is one of the names of admission. -/
def admissionIsPositive (rt : Runtime) (value : Value) : Except JsError Bool := do
  let text ← match value with
    | .undefined | .null => pure ""
    | v => v.toText rt
  let text := rt.toUpperCase text
  return value.strictEquals (.bool true) || text = "ADMISSIBLE" || text = "ADMISSIBLE_REPORT_ONLY" ||
    text = "ADMITTED_REPORT_ONLY"

/-- The fields that are read for admission, of the verdict and of the receipt. -/
def admissionReads (verdict receipt : Value) : List Value :=
  ["admitted", "admission", "verdict", "decision"].map verdict.get ++
    ["admitted", "admission", "decision"].map receipt.get

def flagNames : List String :=
  ["writer_enabled", "webhook_enabled", "check_run_writer_enabled", "contents_write_enabled",
    "allowed_to_mutate_truth"]

/-- `array.includes(value)`. An object is only asked for where it was put in before, and is
found by its text. -/
def includesValue (rt : Runtime) (vs : List Value) (v : Value) : Bool :=
  vs.any (fun w => w.strictEquals v || isObject w && isObject v && stringify rt w = stringify rt v)

/-- `Object.entries(value)`. -/
def entriesOf : Value → List (String × Value)
  | .obj fields => fields
  | .arr items => items.mapIdx (fun i v => (toString i, v))
  | .str s => s.toList.mapIdx (fun i c => (toString i, .str (String.singleton c)))
  | _ => []

def flagText (flags : List (String × Bool)) (key : String) : String :=
  match (Record.ofList flags).member key with
  | .own b => if b then "true" else "false"
  | .inherited => inheritedText key
  | .absent => "undefined"

def flagHolds (flags : List (String × Bool)) (key : String) (value : Value) : Bool :=
  match (Record.ofList flags).member key with
  | .own b => value.strictEquals (.bool b)
  | .inherited => false
  | .absent => value.strictEquals .undefined

def failuresOf (rt : Runtime) (expected : Value) (risk : String) (red_classes : List Value)
    (admitted : Bool) (flags : List (String × Bool)) : Except JsError (List String) := do
  let riskFailures ←
    if (expected.get "risk").truthy && !(expected.get "risk").strictEquals (.str risk) then do
      pure ["risk_expected_" ++ (← (expected.get "risk").toText rt) ++ "_got_" ++ risk]
    else pure []
  let missing := (← iterate (expected.get "required_red_classes")).filter
    (fun cls => !includesValue rt red_classes cls)
  let missingFailures ← missing.mapM (fun cls => do
    return "missing_red_class_" ++ (← cls.toText rt))
  let wrong := (entriesOf ((expected.get "required_flags").or (.obj []))).filter
    (fun entry => !flagHolds flags entry.1 entry.2)
  let flagFailures ← wrong.mapM (fun entry => do
    return "flag_" ++ entry.1 ++ "_expected_" ++ (← entry.2.toText rt) ++ "_got_" ++
      flagText flags entry.1)
  return (if (expected.get "admissible").strictEquals (.bool false) && admitted
    then ["hostile_fixture_admitted"] else []) ++ riskFailures ++ missingFailures ++ flagFailures

structure HostileResult where
  fixture : Value
  failures : List String
  risk : String
  red_classes : List Value
  admitted : Bool
  flags : List (String × Bool)

def HostileResult.passed (result : HostileResult) : Bool := result.failures.isEmpty

def HostileResult.state (result : HostileResult) : String :=
  if result.passed then "HOSTILE_FIXTURE_BLOCKED" else "HOSTILE_FIXTURE_FAILED"

def evaluateHostileFixture (rt : Runtime) (fixture : Value) : Except JsError HostileResult := do
  let candidate ← makeCandidate rt fixture
  let found ← findClasses rt fixture candidate
  let args : Arguments := {
    candidate := candidate.toValue
    surface := found.surface.toValue
    mutation := found.widened
    risk := found.risk }
  let verdict ← callCompat "compileActuatorVerdict" (verdictAttempts rt args) []
  let receipt ← callCompat "compileAdmissionReceipt" (receiptAttempts rt args verdict) []
  let quarantine ← callCompat "routeQuarantine" (quarantineAttempts rt args verdict receipt) []
  let repair ← callCompat "compileDryRunRepairPacket"
    (repairAttempts rt args verdict receipt quarantine) []
  let objects := [args.surface, args.mutation, args.risk, verdict, receipt, quarantine, repair]
  let admitted ← (admissionReads verdict receipt).anyM (admissionIsPositive rt)
  let flags := flagNames.map (fun key => (key, trueInAny key objects))
  let failures ← failuresOf rt ((fixture.get "expected").or (.obj [])) found.riskText
    found.red_classes admitted flags
  return {
    fixture := fixtureName fixture
    failures
    risk := found.riskText
    red_classes := found.red_classes
    admitted
    flags }

end Admissorium.Hostile
