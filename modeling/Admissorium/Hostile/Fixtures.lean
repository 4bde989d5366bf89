import Admissorium.Classify.Classifiers
import Admissorium.JavaScript.JsonOrder

/-!
# Hostile fixtures

`src/hostile` walks a fixture for everything that looks like a path and for all its text,
makes a candidate of what it finds, and looks for phrases of its own in the candidate.
-/
namespace Admissorium.Hostile
set_option autoImplicit false

open JavaScript Classify LanguageBoundary

/-! ## Walking a fixture -/

mutual
/-- The values `walk(value, visitor, key)` visits, each with the key it is under. -/
def walk (key : String) : Value → List (Value × String)
  | .arr items => (.arr items, key) :: walkItems key items
  | .obj fields => (.obj fields, key) :: walkFields fields
  | v => [(v, key)]

def walkItems (key : String) : List Value → List (Value × String)
  | [] => []
  | v :: rest => walk key v ++ walkItems key rest

def walkFields : List (String × Value) → List (Value × String)
  | [] => []
  | (key, v) :: rest => walk key v ++ walkFields rest
end

/-- A text under such a key, or of such a form, is taken for a path. -/
def namesPath (key text : String) : Bool :=
  includesSome ["path", "file", "filename"] key || Text.includes text "/" ||
    [".json", ".yml", ".yaml", ".md", ".env"].any (Text.endsWith text) || text = "package.json"

def collectFixturePaths (rt : Runtime) (fixture : Value) : List String :=
  ((walk "" fixture).filterMap (fun visit =>
    match visit with
    | (.str s, key) =>
        let v := Text.trim s
        if namesPath (rt.toLowerCase key) v then some v else none
    | _ => none)).eraseDups

def collectFixtureText (rt : Runtime) (fixture : Value) : String :=
  "\n".intercalate ((walk "" fixture).filterMap (fun visit =>
    match visit.1 with
    | .str s => some s
    | .num q => some (rt.numberToString q)
    | .bool b => some (if b then "true" else "false")
    | _ => none))

/-! ## The candidate -/

/-- `Array.isArray(value) ? value : []`. -/
def itemsOr : Value → List Value
  | .arr items => items
  | _ => []

/-- `changed_paths` and `paths` are filled alike. -/
structure Candidate where
  candidate_id : Value
  repo : Value
  changed_paths : List String
  summary : Value
  content : String

def Candidate.fields (candidate : Candidate) : List (String × Value) :=
  [("candidate_id", candidate.candidate_id), ("repo", candidate.repo),
    ("changed_paths", .arr (candidate.changed_paths.map .str)),
    ("paths", .arr (candidate.changed_paths.map .str)), ("summary", candidate.summary),
    ("content", .str candidate.content)]

def Candidate.toValue (candidate : Candidate) : Value := .obj candidate.fields

/-- The name a fixture goes by. -/
def fixtureName (fixture : Value) : Value :=
  ((fixture.get "candidate_id").or (fixture.get "id")).or (fixture.get "name")

def makeCandidate (rt : Runtime) (fixture : Value) : Except JsError Candidate := do
  let changed_paths ← fixture.prop "changed_paths"
  let paths ← (itemsOr changed_paths ++ itemsOr (fixture.get "paths") ++
    itemsOr (fixture.get "files") ++ (collectFixturePaths rt fixture).map Value.str).mapM (Value.toText rt)
  let json := (Json.stringify rt fixture).elim .undefined Value.str
  let content ← ([fixture.get "summary", fixture.get "content", fixture.get "body",
    fixture.get "diff", fixture.get "patch", fixture.get "description",
    .str (collectFixtureText rt fixture), json].filter Value.truthy).mapM (Value.toText rt)
  return {
    candidate_id := fixtureName fixture
    repo := fixture.get "repo"
    changed_paths := paths.eraseDups
    summary := (((fixture.get "summary").or (fixture.get "description")).or
      (fixture.get "candidate_id")).or (fixture.get "id")
    content := "\n".intercalate content }

/-! ## The phrases of the battery -/

/-- The text the battery searches. -/
def hostileText (rt : Runtime) (candidate : Candidate) : String :=
  rt.toLowerCase ("\n".intercalate candidate.changed_paths ++ "\n" ++ candidate.content)

def protectedTruthPhrases : List String :=
  ["protected-truth", "protected truth", "accepted truth", "governance registry", "truth path",
    "truth/", "schemas/protected-truth", "policies/protected-truth"]

def includesEvery (phrases : List String) (text : String) : Bool :=
  phrases.all (Text.includes text)

/-- Each class of the battery with the test that adds it. -/
def hostileTests : List (String × (String → Bool)) :=
  [("protected_truth_mutation", includesSome protectedTruthPhrases),
    ("package_publish_path",
      includesSome ["package.json", "npm publish", "publishconfig", "\"bin\"", "\"version\""]),
    ("secret_bearing_artifact", fun text => includesSome ["github_pat_", "ghp_"] text ||
      (Text.includes text "secret" && includesSome ["persist", ".env", "token"] text) ||
      Text.includes text "private key" || includesEvery ["installation token", "persist"] text),
    ("role_collapse", includesSome ["i certify", "sovereign truth", "final truth",
      "terminal truth", "this proves truth", "truth is hereby established"]),
    ("direct_main_write_path", includesSome ["git push origin main", "head:main", "direct main",
      "contents: write", "contents.write"]),
    ("writer_overreach_path", fun text => includesSome ["create check run", "create pull request",
      "create issue", "construct github client"] text || includesEvery ["webhook", "write"] text ||
      Text.includes text "installation token exchange")]

/-- The classes whose tests the text passes. -/
def detectedClasses (text : String) : List String :=
  (hostileTests.filter (fun test => test.2 text)).map Prod.fst

end Admissorium.Hostile
