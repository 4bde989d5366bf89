import Admissorium.Classify.LanguageBoundary

/-!
# The three classifiers

`src/classify` reads a candidate three times: for the surfaces its paths touch, for the
mutations its text asks for, and for the risk to truth that follows from both. The
fields that are the same in every result appear where a result is written out.
-/
namespace Admissorium.Classify
set_option autoImplicit false

open JavaScript RegExp LanguageBoundary

/-- The fields every classifier, verdict and receipt sets to `false`, in their order. -/
def disabledWriters : List (String × Value) :=
  [("writer_enabled", .bool false), ("webhook_enabled", .bool false),
    ("check_run_writer_enabled", .bool false), ("package_publish_enabled", .bool false),
    ("contents_write_enabled", .bool false)]

def classifierHeader (name : String) : List (String × Value) :=
  [("classifier", .str name), ("schema_version", .str "1.0.0"),
    ("truth_warning", .str "NOT_TRUTH_SOURCE")] ++ disabledWriters ++
    [("allowed_to_mutate_truth", .bool false)]

/-- `(candidate.files || []).map(f => f.path)`. -/
def candidatePaths (candidate : Value) : Except JsError (List Value) := do
  let files := ((← candidate.prop "files").or (.arr []))
  (← files.asArray).mapM (fun f => f.prop "path")

/-! ## Surfaces -/

def truthPathPrefixes : List String :=
  ["law/", "current/", "epochs/current/", "authorities/current/", "receipts/current/",
    "verification/results/current/", "recognitions/current/", "recourse/current/"]

def projectionPrefixes : List String :=
  ["README.md", "docs/", "public/", "index.html", "404.html", "surface.host.json"]

def startsWithSome (heads : List String) (path : String) : Bool :=
  heads.any (fun head => path = head || Text.startsWith path head)

def isPackagePath (path : String) : Bool :=
  path = "package.json" || Text.startsWith path "packages/" || Text.includes path "/package.json"

def isWorkflowPath (path : String) : Bool := Text.startsWith path ".github/workflows/"

/-- `touched.some(test)` for a test that calls methods of the path. -/
def somePath (test : String → Bool) (touched : List Value) : Except JsError Bool :=
  touched.anyM (fun path => do return test (← path.asText))

/-- The paths a test can be run on: texts, up to one that passes it. -/
def Readable (test : String → Bool) : List Value → Prop
  | [] => True
  | .str path :: rest => test path = true ∨ Readable test rest
  | _ => False

theorem somePath_eq_ok_iff (test : String → Bool) (touched : List Value) (b : Bool) :
    somePath test touched = .ok b ↔
      Readable test touched ∧ (b = true ↔ ∃ path, .str path ∈ touched ∧ test path = true) := by
  induction touched with
  | nil => cases b <;> simp [somePath, Readable, pure, Except.pure]
  | cons v rest ih =>
      have hcons : somePath test (v :: rest) = (do
          if ← (do return test (← v.asText)) then return true else somePath test rest) := by
        rw [somePath, List.anyM]
        apply bind_congr
        intro c
        cases c <;> rfl
      rw [hcons]
      cases v with
      | str path =>
          change (if test path = true then Except.ok true else somePath test rest) = .ok b ↔ _
          by_cases ht : test path = true
          · rw [if_pos ht, Except.ok.injEq, @eq_comm _ true]
            simp [Readable, ht, or_and_right, exists_or]
          · rw [if_neg ht, ih]
            simp [Readable, ht, or_and_right, exists_or]
      | _ =>
          constructor
          · intro h
            cases h
          · intro hcase
            obtain ⟨h, _⟩ := hcase
            exact h.elim

inductive SurfaceClass where
  | unknown
  | protectedTruthSurface
  | sovereignLanguageProjection
  | projectionSurface
  | packageSurface
  | workflowSurface
  deriving DecidableEq, Repr

def SurfaceClass.text : SurfaceClass → String
  | unknown => "UNKNOWN"
  | protectedTruthSurface => "PROTECTED_TRUTH_SURFACE"
  | sovereignLanguageProjection => "SOVEREIGN_LANGUAGE_PROJECTION"
  | projectionSurface => "PROJECTION_SURFACE"
  | packageSurface => "PACKAGE_SURFACE"
  | workflowSurface => "WORKFLOW_SURFACE"

structure Surface where
  surface_class : SurfaceClass
  truth_path_touched : Bool
  projection_path_touched : Bool
  package_path_touched : Bool
  workflow_path_touched : Bool
  sovereign_language_detected : Bool
  touched_paths : List Value

def Surface.toValue (surface : Surface) : Value :=
  .obj (classifierHeader "ADMISSORIUM_SURFACE_CLASSIFIER" ++
    [("surface_class", .str surface.surface_class.text),
      ("truth_path_touched", .bool surface.truth_path_touched),
      ("projection_path_touched", .bool surface.projection_path_touched),
      ("package_path_touched", .bool surface.package_path_touched),
      ("workflow_path_touched", .bool surface.workflow_path_touched),
      ("sovereign_language_detected", .bool surface.sovereign_language_detected),
      ("touched_paths", .arr surface.touched_paths)])

def classifySurface (rt : Runtime) (candidate : Value) : Except JsError Surface := do
  let touched ← candidatePaths candidate
  let truth_path_touched ← somePath (startsWithSome truthPathPrefixes) touched
  let projection_path_touched ← somePath (startsWithSome projectionPrefixes) touched
  let package_path_touched ← somePath isPackagePath touched
  let workflow_path_touched ← somePath isWorkflowPath touched
  let sovereign_language_detected ← hasSovereignDanger rt candidate
  return {
    surface_class :=
      if truth_path_touched then .protectedTruthSurface
      else if sovereign_language_detected then .sovereignLanguageProjection
      else if projection_path_touched then .projectionSurface
      else if package_path_touched then .packageSurface
      else if workflow_path_touched then .workflowSurface
      else .unknown
    truth_path_touched
    projection_path_touched
    package_path_touched
    workflow_path_touched
    sovereign_language_detected
    touched_paths := touched }

/-! ## Mutations -/

inductive MutationClass where
  | protectedTruthMutation
  | projectionRepair
  | packageBoundaryMutation
  | workflowBoundaryMutation
  | contentsWriteRequest
  | packagePublishPath
  | secretBearingArtifact
  | roleCollapse
  | ordinaryMaterialization
  | directMainWriteAttempt
  deriving DecidableEq, Repr

def MutationClass.text : MutationClass → String
  | protectedTruthMutation => "protected_truth_mutation"
  | projectionRepair => "projection_repair"
  | packageBoundaryMutation => "package_boundary_mutation"
  | workflowBoundaryMutation => "workflow_boundary_mutation"
  | contentsWriteRequest => "contents_write_request"
  | packagePublishPath => "package_publish_path"
  | secretBearingArtifact => "secret_bearing_artifact"
  | roleCollapse => "role_collapse"
  | ordinaryMaterialization => "ordinary_materialization"
  | directMainWriteAttempt => "direct_main_write_attempt"

/-- `[_\s-]?`. -/
def secretSeparator : RegExp := opt (set (.union (.char '_') (.union .space (.char '-')))) false

def secretPatterns : List RegExp :=
  [worded [literal "github", gap, literal "token"],
    worded [literal "private", gap, literal "key"],
    worded [literal "webhook", secretSeparator, literal "secret"],
    worded [literal "pat"],
    worded [literal "personal", gap, literal "access", gap, literal "token"]]

def hasSecretSignal (text : String) : Bool := secretPatterns.any (fun rx => rx.test text)

def asksContentsWrite (text : String) : Bool :=
  includesSome ["contents: write", "contents_write", "contents write"] text

def asksPackagePublish (text : String) : Bool :=
  includesSome ["packages: write", "package publish", "npm publish"] text

def roleCollapsePhrases : List String := ["decides truth", "source of truth", "accepted truth"]

/-- The classes `classifyMutation` counts as red. -/
def redMutationClasses : List MutationClass :=
  [.protectedTruthMutation, .contentsWriteRequest, .packagePublishPath, .secretBearingArtifact,
    .roleCollapse]

structure Mutation where
  classes : List MutationClass
  red_classes : List MutationClass
  paths : List Value

def Mutation.toValue (mutation : Mutation) : Value :=
  .obj (classifierHeader "ADMISSORIUM_MUTATION_CLASSIFIER" ++
    [("classes", .arr (mutation.classes.map (fun c => .str c.text))),
      ("red_classes", .arr (mutation.red_classes.map (fun c => .str c.text))),
      ("decision_pressure",
        .str (if mutation.red_classes.isEmpty then "REPORT_ONLY" else "BLOCK_OR_QUARANTINE")),
      ("paths", .arr mutation.paths)])

/-- A class pushed under a condition. -/
def pushIf (condition : Bool) (c : MutationClass) : List MutationClass :=
  if condition then [c] else []

def mutationClasses (surface : Surface) (text : String) (collapsesRoles : Bool) :
    List MutationClass :=
  pushIf surface.truth_path_touched .protectedTruthMutation ++
    pushIf surface.projection_path_touched .projectionRepair ++
    pushIf surface.package_path_touched .packageBoundaryMutation ++
    pushIf surface.workflow_path_touched .workflowBoundaryMutation ++
    pushIf (asksContentsWrite text) .contentsWriteRequest ++
    pushIf (asksPackagePublish text) .packagePublishPath ++
    pushIf (hasSecretSignal text) .secretBearingArtifact ++
    pushIf collapsesRoles .roleCollapse

def classifyMutation (rt : Runtime) (candidate : Value) (surface : Surface) :
    Except JsError Mutation := do
  let paths ← candidatePaths candidate
  let text ← dangerText rt candidate
  let collapsesRoles ← hasAnyDangerPhrase rt candidate roleCollapsePhrases
  let pushed := mutationClasses surface text collapsesRoles
  let classes := if pushed.isEmpty then [.ordinaryMaterialization] else pushed
  return {
    classes
    red_classes := classes.filter redMutationClasses.contains
    paths }

/-! ## Risk -/

inductive Risk where
  | red
  | green
  deriving DecidableEq, Repr

def Risk.text : Risk → String
  | red => "RED"
  | green => "GREEN"

/-- The classes that count as a reason, with one no classifier assigns. -/
def riskMutationClasses : List MutationClass :=
  [.protectedTruthMutation, .contentsWriteRequest, .directMainWriteAttempt, .packagePublishPath,
    .secretBearingArtifact, .roleCollapse]

structure TruthRisk where
  no_truth_mutation_path_pass : Bool
  no_direct_main_write_pass : Bool
  no_package_publish_path_pass : Bool
  no_secret_persistence_pass : Bool
  risk : Risk
  reasons : List String
  candidate_id : Value

def TruthRisk.toValue (truthRisk : TruthRisk) : Value :=
  .obj (classifierHeader "ADMISSORIUM_TRUTH_RISK_CLASSIFIER" ++
    [("no_truth_mutation_path_pass", .bool truthRisk.no_truth_mutation_path_pass),
      ("no_direct_main_write_pass", .bool truthRisk.no_direct_main_write_pass),
      ("no_package_publish_path_pass", .bool truthRisk.no_package_publish_path_pass),
      ("no_secret_persistence_pass", .bool truthRisk.no_secret_persistence_pass),
      ("risk", .str truthRisk.risk.text),
      ("reasons", .arr (truthRisk.reasons.map .str)),
      ("candidate_id", truthRisk.candidate_id)])

def riskReasons (surface : Surface) (redClasses : List MutationClass) : List String :=
  (if surface.truth_path_touched then ["protected_truth_path_touched"] else []) ++
    (if surface.sovereign_language_detected then ["sovereign_language_detected"] else []) ++
    (redClasses.filter riskMutationClasses.contains).map MutationClass.text

def classifyTruthRisk (candidate : Value) (surface : Surface) (mutation : Mutation) :
    Except JsError TruthRisk := do
  let redClasses := mutation.red_classes.eraseDups
  let reasons := riskReasons surface redClasses
  let id ← candidate.prop "id"
  let name ← candidate.prop "name"
  return {
    no_truth_mutation_path_pass :=
      !surface.truth_path_touched && !redClasses.contains .protectedTruthMutation
    no_direct_main_write_pass := !redClasses.contains .directMainWriteAttempt
    no_package_publish_path_pass := !redClasses.contains .packagePublishPath
    no_secret_persistence_pass := !redClasses.contains .secretBearingArtifact
    risk := if reasons.length > 0 then .red else .green
    reasons
    candidate_id := (id.or name).or .null }

/-! ## What the classifiers find -/

section Found
variable {rt : Runtime} {candidate : Value} {paths : List Value} {text : String}

/-- Every one of the four path tests can be run. -/
structure AllReadable (touched : List Value) : Prop where
  truth : Readable (startsWithSome truthPathPrefixes) touched
  projection : Readable (startsWithSome projectionPrefixes) touched
  package : Readable isPackagePath touched
  workflow : Readable isWorkflowPath touched

/-- Some path starts with a truth prefix. -/
def TouchesTruth (touched : List Value) : Prop :=
  ∃ path, .str path ∈ touched ∧ startsWithSome truthPathPrefixes path = true

/-- The text asks for something that counts as a reason on its own. -/
def RedText (text : String) : Prop :=
  includesSome dangerPhrases text = true ∨ asksContentsWrite text = true ∨
    asksPackagePublish text = true ∨ hasSecretSignal text = true

instance (text : String) : Decidable (RedText text) := inferInstanceAs (Decidable (_ ∨ _))

theorem exists_somePath {test : String → Bool} (h : Readable test paths) :
    ∃ b, somePath test paths = .ok b := by
  by_cases hp : ∃ path, .str path ∈ paths ∧ test path = true
  · exact ⟨true, (somePath_eq_ok_iff test paths true).mpr ⟨h, by simp [hp]⟩⟩
  · exact ⟨false, (somePath_eq_ok_iff test paths false).mpr ⟨h, by simp [hp]⟩⟩

/-- Tests can be run on texts. -/
theorem readable_of_texts (test : String → Bool) (h : ∀ v ∈ paths, ∃ path, v = .str path) :
    Readable test paths := by
  induction paths with
  | nil => trivial
  | cons v rest ih =>
      obtain ⟨⟨path, rfl⟩, hrest⟩ := List.forall_mem_cons.mp h
      exact Or.inr (ih hrest)

theorem allReadable_of_texts (h : ∀ v ∈ paths, ∃ path, v = .str path) : AllReadable paths :=
  ⟨readable_of_texts _ h, readable_of_texts _ h, readable_of_texts _ h, readable_of_texts _ h⟩

theorem classifySurface_ok {surface : Surface} (h : classifySurface rt candidate = .ok surface) :
    ∃ paths text, candidatePaths candidate = .ok paths ∧ dangerText rt candidate = .ok text ∧
      AllReadable paths ∧ (surface.truth_path_touched = true ↔ TouchesTruth paths) ∧
      surface.sovereign_language_detected = includesSome dangerPhrases text := by
  obtain ⟨paths, hp, h⟩ := bind_eq_ok.mp h
  obtain ⟨truth, htruth, h⟩ := bind_eq_ok.mp h
  obtain ⟨projection, hprojection, h⟩ := bind_eq_ok.mp h
  obtain ⟨package, hpackage, h⟩ := bind_eq_ok.mp h
  obtain ⟨workflow, hworkflow, h⟩ := bind_eq_ok.mp h
  obtain ⟨sovereign, hsovereign, h⟩ := bind_eq_ok.mp h
  obtain ⟨text, ht, hsovereign⟩ := bind_eq_ok.mp hsovereign
  cases h
  cases hsovereign
  obtain ⟨htruth, htouch⟩ := (somePath_eq_ok_iff _ _ _).mp htruth
  have hprojection := ((somePath_eq_ok_iff _ _ _).mp hprojection).1
  have hpackage := ((somePath_eq_ok_iff _ _ _).mp hpackage).1
  have hworkflow := ((somePath_eq_ok_iff _ _ _).mp hworkflow).1
  exact ⟨paths, text, hp, ht, ⟨htruth, hprojection, hpackage, hworkflow⟩, htouch, rfl⟩

theorem exists_classifySurface (hp : candidatePaths candidate = .ok paths)
    (ht : dangerText rt candidate = .ok text) (hr : AllReadable paths) :
    ∃ surface, classifySurface rt candidate = .ok surface := by
  obtain ⟨truth, htruth⟩ := exists_somePath hr.truth
  obtain ⟨projection, hprojection⟩ := exists_somePath hr.projection
  obtain ⟨package, hpackage⟩ := exists_somePath hr.package
  obtain ⟨workflow, hworkflow⟩ := exists_somePath hr.workflow
  exact exists_bind_ok hp (exists_bind_ok htruth (exists_bind_ok hprojection
    (exists_bind_ok hpackage (exists_bind_ok hworkflow
      (exists_bind_ok (hasSovereignDanger_eq ht) ⟨_, rfl⟩)))))

theorem mem_pushIf (condition : Bool) (c d : MutationClass) :
    d ∈ pushIf condition c ↔ condition = true ∧ d = c := by
  cases condition <;> simp [pushIf]

/-- The role-collapse phrases are danger phrases. -/
theorem includesSome_roleCollapse (h : includesSome roleCollapsePhrases text = true) :
    includesSome dangerPhrases text = true := by
  obtain ⟨phrase, hm, hi⟩ := List.any_eq_true.mp h
  have hsub : ∀ p ∈ roleCollapsePhrases, p ∈ dangerPhrases := by decide
  exact List.any_eq_true.mpr ⟨phrase, hsub phrase hm, hi⟩

theorem exists_classifyMutation (hp : candidatePaths candidate = .ok paths)
    (ht : dangerText rt candidate = .ok text) (surface : Surface) :
    ∃ mutation, classifyMutation rt candidate surface = .ok mutation := by
  exact exists_bind_ok hp (exists_bind_ok ht
    (exists_bind_ok (hasAnyDangerPhrase_eq ht _) ⟨_, rfl⟩))

/-- The red classes are the pushed ones that count as red. -/
theorem mem_red (pushed : List MutationClass) (c : MutationClass) :
    c ∈ (if pushed.isEmpty then [.ordinaryMaterialization] else pushed).filter
      redMutationClasses.contains ↔ c ∈ pushed ∧ c ∈ redMutationClasses := by
  cases pushed with
  | nil =>
      have hordinary : MutationClass.ordinaryMaterialization ∉ redMutationClasses := by decide
      have hcons : c = .ordinaryMaterialization → c ∉ redMutationClasses := by
        rintro rfl
        exact hordinary
      simpa using hcons
  | cons d rest => simp

/-- A red class follows from a truth path or from the text. -/
theorem mem_red_classes {surface : Surface} {mutation : Mutation}
    (h : classifyMutation rt candidate surface = .ok mutation)
    (ht : dangerText rt candidate = .ok text) (c : MutationClass) :
    c ∈ mutation.red_classes ↔
      (surface.truth_path_touched = true ∧ c = .protectedTruthMutation) ∨
      (asksContentsWrite text = true ∧ c = .contentsWriteRequest) ∨
      (asksPackagePublish text = true ∧ c = .packagePublishPath) ∨
      (hasSecretSignal text = true ∧ c = .secretBearingArtifact) ∨
      (includesSome roleCollapsePhrases text = true ∧ c = .roleCollapse) := by
  obtain ⟨_, _, h⟩ := bind_eq_ok.mp h
  obtain ⟨text', ht', h⟩ := bind_eq_ok.mp h
  obtain rfl := Except.ok.inj (ht.symm.trans ht')
  obtain ⟨collapses, hc, h⟩ := bind_eq_ok.mp h
  obtain rfl := Except.ok.inj ((hasAnyDangerPhrase_eq ht _).symm.trans hc)
  cases h
  rw [mem_red]
  simp only [mutationClasses, List.mem_append, mem_pushIf]
  cases c <;> simp [redMutationClasses]

theorem riskReasons_pos_iff (surface : Surface) (redClasses : List MutationClass) :
    (riskReasons surface redClasses).length > 0 ↔ surface.truth_path_touched = true ∨
      surface.sovereign_language_detected = true ∨
      ∃ c ∈ redClasses, c ∈ riskMutationClasses := by
  have hcons : ∀ (b : Bool) (reason : String), (if b = true then [reason] else []) = [] ↔
      ¬ b = true := by
    intro b reason
    cases b <;> simp
  rw [gt_iff_lt, List.length_pos_iff, riskReasons, ne_eq, List.append_eq_nil_iff,
    List.append_eq_nil_iff, hcons, hcons, List.map_eq_nil_iff, List.filter_eq_nil_iff]
  simp only [List.contains_iff_mem]
  rw [not_and_or, not_and_or, Decidable.not_not, Decidable.not_not, or_assoc]
  simp only [not_forall, Decidable.not_not, exists_prop]

/-- The risk is red exactly when a path or the text gives a reason. -/
theorem risk_red_iff {surface : Surface} {mutation : Mutation} {truthRisk : TruthRisk}
    (hs : surface.truth_path_touched = true ↔ TouchesTruth paths)
    (hl : surface.sovereign_language_detected = includesSome dangerPhrases text)
    (ht : dangerText rt candidate = .ok text)
    (hm : classifyMutation rt candidate surface = .ok mutation)
    (h : classifyTruthRisk candidate surface mutation = .ok truthRisk) :
    truthRisk.risk = .red ↔ TouchesTruth paths ∨ RedText text := by
  have hclass := mem_red_classes hm ht
  have hrisk : truthRisk.risk = .red ↔
      (riskReasons surface mutation.red_classes.eraseDups).length > 0 := by
    obtain ⟨_, _, h⟩ := bind_eq_ok.mp h
    obtain ⟨_, _, h⟩ := bind_eq_ok.mp h
    cases h
    by_cases hr : (riskReasons surface mutation.red_classes.eraseDups).length > 0 <;> simp [hr]
  have hevery : (∃ c ∈ mutation.red_classes.eraseDups, c ∈ riskMutationClasses) ↔
      ∃ c, c ∈ mutation.red_classes := by
    simp only [List.mem_eraseDups]
    constructor
    · intro hcase
      obtain ⟨c, hc, _⟩ := hcase
      exact ⟨c, hc⟩
    · intro hcase
      obtain ⟨c, hc⟩ := hcase
      refine ⟨c, hc, ?_⟩
      rcases (hclass c).mp hc with ⟨_, rfl⟩ | ⟨_, rfl⟩ | ⟨_, rfl⟩ | ⟨_, rfl⟩ | ⟨_, rfl⟩ <;> decide
  rw [hrisk, riskReasons_pos_iff, hevery]
  simp only [hclass, exists_or, exists_and_left, exists_eq, and_true, hs, hl, RedText]
  constructor
  · intro hcase
    rcases hcase with htruth | hdanger | htruth | hcontents | hpublish | hsecret | hcollapse
    · exact Or.inl htruth
    · exact Or.inr (Or.inl hdanger)
    · exact Or.inl htruth
    · exact Or.inr (Or.inr (Or.inl hcontents))
    · exact Or.inr (Or.inr (Or.inr (Or.inl hpublish)))
    · exact Or.inr (Or.inr (Or.inr (Or.inr hsecret)))
    · exact Or.inr (Or.inl (includesSome_roleCollapse hcollapse))
  · intro hcase
    rcases hcase with htruth | hdanger | hcontents | hpublish | hsecret
    · exact Or.inl htruth
    · exact Or.inr (Or.inl hdanger)
    · exact Or.inr (Or.inr (Or.inr (Or.inl hcontents)))
    · exact Or.inr (Or.inr (Or.inr (Or.inr (Or.inl hpublish))))
    · exact Or.inr (Or.inr (Or.inr (Or.inr (Or.inr (Or.inl hsecret)))))

theorem exists_classifyTruthRisk {key : String} {v : Value} (h : candidate.prop key = .ok v)
    (surface : Surface) (mutation : Mutation) :
    ∃ truthRisk, classifyTruthRisk candidate surface mutation = .ok truthRisk :=
  exists_bind_ok (Value.prop_eq_get h "id") (exists_bind_ok (Value.prop_eq_get h "name") ⟨_, rfl⟩)

end Found

end Admissorium.Classify
