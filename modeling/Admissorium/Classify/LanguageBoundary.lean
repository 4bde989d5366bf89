import Admissorium.JavaScript.Json

/-!
# The language boundary

`src/classify/language-boundary` reads a value as lower-case JSON text, masks the
phrases in which sovereignty is denied, and looks for the phrases that claim it.
-/
namespace Admissorium.Classify.LanguageBoundary
set_option autoImplicit false

open JavaScript RegExp

def dangerPhrases : List String :=
  ["decides truth", "accepted truth", "terminal recognition", "assigns recourse",
    "issues authority", "source of truth"]

def normalize (rt : Runtime) (value : Value) : Except JsError String :=
  match Json.stringify rt value with
  | some text => .ok (rt.toLowerCase text)
  | none => .error .typeError

/-- `\b…\b`. -/
def worded (body : List RegExp) : RegExp :=
  concat (assert .wordBoundary :: (body ++ [assert .wordBoundary]))

/-- `\s+`. -/
def gap : RegExp := plus .space

/-- `(?:word\s+)?`. -/
def article (word : String) : RegExp := opt (seq (literal word) gap) false

/-- The eleven denials, in the order they are masked. -/
def denialPatterns : List RegExp :=
  [worded [literal "not", gap, article "the", literal "accepted truth"],
    worded [literal "not", gap, article "a", literal "source of truth"],
    worded [literal "does not", gap, literal "decide truth"],
    worded [literal "does not", gap, literal "accept state"],
    worded [literal "does not", gap, literal "issue authority"],
    worded [literal "does not", gap, literal "execute"],
    worded [literal "does not", gap, literal "verify",
      opt (concat [gap, literal "as", gap, literal "final", gap, literal "source"]) false],
    worded [literal "does not", gap, literal "recognize terminal truth"],
    worded [literal "does not", gap, literal "assign recourse"],
    worded [literal "without becoming", gap, article "the", literal "source of truth"],
    worded [literal "without becoming", gap, article "the", literal "truth source"]]

def maskSafeBoundaryDenials (text : String) : String :=
  denialPatterns.foldl (fun text pattern => pattern.replaceAll " SAFE_BOUNDARY_DENIAL " text) text

def dangerText (rt : Runtime) (input : Value) : Except JsError String := do
  return maskSafeBoundaryDenials (← normalize rt input)

/-- One of the phrases occurs. -/
def includesSome (phrases : List String) (text : String) : Bool :=
  phrases.any (Text.includes text)

def hasSovereignDanger (rt : Runtime) (input : Value) : Except JsError Bool := do
  return includesSome dangerPhrases (← dangerText rt input)

def hasAnyDangerPhrase (rt : Runtime) (input : Value) (phrases : List String) :
    Except JsError Bool := do
  return includesSome phrases (← dangerText rt input)

theorem hasSovereignDanger_eq {rt : Runtime} {input : Value} {text : String}
    (h : dangerText rt input = .ok text) :
    hasSovereignDanger rt input = .ok (includesSome dangerPhrases text) := by
  rw [hasSovereignDanger, h]
  rfl

theorem hasAnyDangerPhrase_eq {rt : Runtime} {input : Value} {text : String}
    (h : dangerText rt input = .ok text) (phrases : List String) :
    hasAnyDangerPhrase rt input phrases = .ok (includesSome phrases text) := by
  rw [hasAnyDangerPhrase, h]
  rfl

/-- An object always has a text to look at. -/
theorem exists_dangerText (rt : Runtime) (fields : List (String × Value)) :
    ∃ text, dangerText rt (.obj fields) = .ok text := by
  have hjson : ∃ json, Json.stringify rt (.obj fields) = some json := by
    rw [Json.stringify]
    exact ⟨_, rfl⟩
  obtain ⟨json, hj⟩ := hjson
  refine ⟨maskSafeBoundaryDenials (rt.toLowerCase json), ?_⟩
  rw [dangerText, normalize, hj]
  rfl

end Admissorium.Classify.LanguageBoundary
