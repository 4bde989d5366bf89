import Admissorium.GlobEngines
import Admissorium.JavaScript.Json

/-!
# The truth-path guard of `src/policy` and what is decided from it

`evaluateProtectedTruthPaths` is asked by the mutation classifier and by the
dry-run repair plan. Its `**` reaches one level below a directory: a nested
path is a hit exactly when nothing follows its first level, and the decisions
built on it are blocked exactly then.
-/
namespace Admissorium.Policy.TruthPathGuard
set_option autoImplicit false

open JavaScript RegExp Glob GlobEngines Policies

/-! ## The guard -/

/-- The paths some protected pattern matches, in the order given. -/
def protectedTruthPathHits (files : PolicyFiles) (paths : List String) :
    Except JsError (List String) := do
  match files.protectedTruthPaths.protected_paths with
  | none => .error .typeError
  | some globs =>
      let matchers ← globs.mapM Policy.globToRegExp
      return paths.filter (fun p => matchers.any (fun m => m.test p))

structure TruthPathEvaluation where
  protected_path_touched : Bool
  hits : List String
  automatic_projection_repair_allowed : Bool
  direct_write_allowed : Bool
  deriving DecidableEq, Repr

def evaluateProtectedTruthPaths (files : PolicyFiles) (paths : List String) :
    Except JsError TruthPathEvaluation := do
  let hits ← protectedTruthPathHits files paths
  return {
    protected_path_touched := hits.length > 0
    hits
    automatic_projection_repair_allowed := hits.length = 0
    direct_write_allowed := false }

/-! ## What is decided from it -/

inductive MutationClass where
  | protectedTruthPathMutation
  | projectionOrImplementationMutation
  deriving DecidableEq, Repr

inductive MutationDecision where
  | blockedProtectedTruthPath
  | projectionRepairDryRunOnly
  deriving DecidableEq, Repr

structure MutationClassification where
  mutation_class : MutationClass
  decision : MutationDecision
  evaluation : TruthPathEvaluation
  deriving DecidableEq, Repr

/-- `src/admission/classify-mutation.ts`. -/
def classifyMutation (files : PolicyFiles) (paths : List String) :
    Except JsError MutationClassification := do
  let protectedEvaluation ← evaluateProtectedTruthPaths files paths
  if protectedEvaluation.protected_path_touched then
    return ⟨.protectedTruthPathMutation, .blockedProtectedTruthPath, protectedEvaluation⟩
  else
    return ⟨.projectionOrImplementationMutation, .projectionRepairDryRunOnly, protectedEvaluation⟩

structure ProjectionAssertion where
  projection_only_assertion : Bool
  evaluation : TruthPathEvaluation
  deriving DecidableEq, Repr

def assertProjectionOnly (files : PolicyFiles) (paths : List String) :
    Except JsError ProjectionAssertion := do
  let protectedEvaluation ← evaluateProtectedTruthPaths files paths
  return ⟨!protectedEvaluation.protected_path_touched, protectedEvaluation⟩

structure DryRunRepairPlan where
  repair_plan_type : String := "ADMISSORIUM_DRY_RUN_PROJECTION_REPAIR_PLAN"
  schema_version : String := "1.0.0"
  truth_warning : String := "NOT_TRUTH_SOURCE"
  repo : String
  allowed : Bool
  mode : String := "DRY_RUN_ONLY"
  truth_path_touched : Bool
  protected_path_touched : Bool
  projection_only_assertion : Bool
  files_to_change : List String
  requires_human_review : Bool := true
  diff_sha256 : String := ""
  deriving DecidableEq, Repr

/-- The plan without its digest, as the object that is digested. -/
def DryRunRepairPlan.body (plan : DryRunRepairPlan) : Value :=
  .obj [("repair_plan_type", .str plan.repair_plan_type),
    ("schema_version", .str plan.schema_version), ("truth_warning", .str plan.truth_warning),
    ("repo", .str plan.repo), ("allowed", .bool plan.allowed), ("mode", .str plan.mode),
    ("truth_path_touched", .bool plan.truth_path_touched),
    ("protected_path_touched", .bool plan.protected_path_touched),
    ("projection_only_assertion", .bool plan.projection_only_assertion),
    ("files_to_change", .arr (plan.files_to_change.map .str)),
    ("requires_human_review", .bool plan.requires_human_review)]

def compileDryRunRepairPlan (rt : Runtime) (files : PolicyFiles) (repo : String)
    (paths : List String) : Except JsError DryRunRepairPlan := do
  let assertion ← assertProjectionOnly files paths
  let plan : DryRunRepairPlan := {
    repo
    allowed := assertion.projection_only_assertion
    truth_path_touched := assertion.evaluation.protected_path_touched
    protected_path_touched := assertion.evaluation.protected_path_touched
    projection_only_assertion := assertion.projection_only_assertion
    files_to_change := paths }
  return { plan with diff_sha256 := rt.sha256 ((Json.stringify rt plan.body).getD "undefined") }

/-- Every decision about the paths follows from one evaluation of them. -/
theorem decisions_of_evaluation (rt : Runtime) {files : PolicyFiles} {paths : List String}
    {e : TruthPathEvaluation} (he : evaluateProtectedTruthPaths files paths = .ok e)
    (repo : String) :
    (∃ c, classifyMutation files paths = .ok c ∧
      (c.decision = .blockedProtectedTruthPath ↔ e.protected_path_touched = true)) ∧
    (∃ plan, compileDryRunRepairPlan rt files repo paths = .ok plan ∧
      plan.allowed = !e.protected_path_touched) := by
  constructor
  · cases ht : e.protected_path_touched with
    | true =>
        refine ⟨⟨.protectedTruthPathMutation, .blockedProtectedTruthPath, e⟩, ?_, by simp⟩
        rw [classifyMutation, he]
        change (if e.protected_path_touched = true then _ else _) = _
        rw [if_pos ht]
        rfl
    | false =>
        refine ⟨⟨.projectionOrImplementationMutation, .projectionRepairDryRunOnly, e⟩, ?_,
          by simp⟩
        rw [classifyMutation, he]
        change (if e.protected_path_touched = true then _ else _) = _
        rw [if_neg (by simp [ht])]
        rfl
  · rw [compileDryRunRepairPlan, assertProjectionOnly, he]
    exact ⟨_, rfl, rfl⟩

/-! ## What the guard sees of a zone -/

def guardMatcher : Zone → List RegExp
  | .directory dir => Zone.chars (dir ++ "/") ++ [.set .dot, Zone.segment]
  | z => z.matcher

theorem flatMap_guardTerms_chars (text : String) :
    (charPieces text).flatMap guardTerms = Zone.chars text := by
  rw [charPieces, Zone.chars, List.flatMap_map, List.map_eq_flatMap]
  rfl

theorem guard_compiles {z : Zone} (h : z ∈ truthPerimeter) :
    Policy.globToRegExp z.pattern = .ok (compiled (guardMatcher z)) := by
  obtain ⟨hs, hq, _, _⟩ := shipped_clean z (List.mem_append_left _ h)
  rw [guard_eq hq, pieces_pattern hs]
  congr 2
  cases z with
  | directory dir =>
      rw [zonePieces, List.flatMap_append, flatMap_guardTerms_chars]
      rfl
  | file name => exact flatMap_guardTerms_chars name
  | entries dir part =>
      simp only [zonePieces, List.flatMap_append, List.flatMap_cons, flatMap_guardTerms_chars,
        guardMatcher, Zone.matcher, List.append_assoc]
      rfl

theorem paired_chars (text : String) {rs : List RegExp} (h : Paired rs) :
    Paired (Zone.chars text ++ rs) := by
  rw [Zone.chars]
  induction text.toList with
  | nil => exact h
  | cons c text ih => exact .char c ih

theorem test_compiled_guard {z : Zone} (h : z ∈ truthPerimeter) (path : String) :
    (compiled (guardMatcher z)).test path = (anchored (guardMatcher z)).test path := by
  have hstarless := shipped_starless (List.mem_append_left classPerimeter h)
  cases z with
  | directory dir =>
      have hplain : (guardMatcher (.directory dir)).all plain = true := by
        simp [guardMatcher, Zone.segment, plain, Zone.chars_plain]
      exact test_compiled hplain
        (paired_chars _ (.set_star false rfl wide_dot (wide_compl (by decide)))) path
  | file name => exact test_compiled_zone hstarless path
  | entries dir part => exact test_compiled_zone hstarless path

/-- One character that is no line terminator, then no `/` at all. -/
def OneLevel (rest : String) : Prop :=
  ∃ c tail, rest.toList = c :: tail ∧ c ∉ lineTerminators ∧ '/' ∉ tail

theorem mem_lang_dot_segment (w : List Char) :
    w ∈ (concat [.set .dot, Zone.segment]).lang ↔
      ∃ c tail, w = c :: tail ∧ c ∉ lineTerminators ∧ '/' ∉ tail := by
  rw [concat_cons, lang, Language.mem_mul]
  simp only [Zone.mem_lang_single, Zone.mem_lang_segment]
  constructor
  · intro h
    obtain ⟨_, ⟨c, hc, rfl⟩, tail, ht, rfl⟩ := h
    exact ⟨c, tail, rfl, by simpa [CharSet.member] using hc, ht⟩
  · intro h
    obtain ⟨c, tail, rfl, hc, ht⟩ := h
    exact ⟨[c], ⟨c, by simpa [CharSet.member] using hc, rfl⟩, tail, ht, rfl⟩

/-- Below a directory the guard sees a single level. -/
theorem test_guard_directory (dir path : String) :
    (anchored (guardMatcher (.directory dir))).test path = true ↔
      ∃ rest, OneLevel rest ∧ path = dir ++ "/" ++ rest := by
  have hplain : (guardMatcher (.directory dir)).all plain = true := by
    simp [guardMatcher, Zone.segment, plain, Zone.chars_plain]
  rw [test_anchored hplain, guardMatcher, Zone.mem_lang_after]
  simp only [mem_lang_dot_segment, OneLevel]

/-- Whatever the guard accepts for a zone starts with the head of the zone. -/
theorem guard_starts_with_head {z : Zone} {path : String}
    (h : (anchored (guardMatcher z)).test path = true) : z.head.toList <+: path.toList := by
  cases z with
  | directory dir =>
      obtain ⟨rest, _, rfl⟩ := (test_guard_directory dir path).mp h
      exact ⟨rest.toList, String.toList_append.symm⟩
  | file name => exact Zone.starts_with_head ((Zone.test_matcher (.file name) path).mp h)
  | entries dir part => exact Zone.starts_with_head ((Zone.test_matcher (.entries dir part) path).mp h)

/-! ## Hits under the shipped policy -/

/-- The hits are the paths that some zone of the perimeter, as the guard sees it, accepts. -/
theorem shipped_hits (paths : List String) :
    ∃ hits, protectedTruthPathHits shipped paths = .ok hits ∧
      ∀ p, p ∈ hits ↔ p ∈ paths ∧
        ∃ z ∈ truthPerimeter, (anchored (guardMatcher z)).test p = true := by
  have hall : ∀ glob ∈ protectedTruthPathsFile.protected_paths.getD [],
      ∃ m, Policy.globToRegExp glob = .ok m := by
    intro glob hg
    obtain ⟨z, hz, rfl⟩ := (mem_truth_patterns glob).mp hg
    exact ⟨_, guard_compiles hz⟩
  obtain ⟨matchers, hm⟩ := exists_mapM_eq_ok hall
  refine ⟨paths.filter (fun p => matchers.any (fun m => m.test p)), ?_, ?_⟩
  · change ((protectedTruthPathsFile.protected_paths.getD []).mapM Policy.globToRegExp >>= _) = _
    rw [hm]
    rfl
  · intro p
    rw [List.mem_filter, List.any_eq_true]
    apply and_congr_right
    intro _
    constructor
    · intro h
      obtain ⟨m, hmem, ht⟩ := h
      obtain ⟨glob, hg, hc⟩ := (mem_mapM_iff hm m).mp hmem
      obtain ⟨z, hz, rfl⟩ := (mem_truth_patterns glob).mp hg
      rw [guard_compiles hz] at hc
      cases hc
      exact ⟨z, hz, (test_compiled_guard hz p).symm.trans ht⟩
    · intro h
      obtain ⟨z, hz, ht⟩ := h
      exact ⟨_, (mem_mapM_iff hm _).mpr
        ⟨z.pattern, (mem_truth_patterns _).mpr ⟨z, hz, rfl⟩, guard_compiles hz⟩,
        (test_compiled_guard hz p).trans ht⟩

/-- A directory that `D/**` protects is a zone of the perimeter. -/
theorem directory_mem {dir : String}
    (h : dir ++ "/**" ∈ protectedTruthPathsFile.protected_paths.getD []) :
    Zone.directory dir ∈ truthPerimeter := by
  have hshape : ∀ z ∈ truthPerimeter, "/**".toList <:+ z.pattern.toList →
      z = .directory (String.ofList z.head.toList.dropLast) := by decide
  obtain ⟨z, hz, hp⟩ := (mem_truth_patterns _).mp h
  have hsuffix : "/**".toList <:+ z.pattern.toList :=
    ⟨dir.toList, by rw [hp, String.toList_append]⟩
  have hd := hshape z hz hsuffix
  generalize String.ofList z.head.toList.dropLast = d at hd
  subst hd
  have hl : d.toList ++ "/**".toList = dir.toList ++ "/**".toList := by
    rw [← String.toList_append, ← String.toList_append]
    exact congrArg String.toList hp
  rw [← String.toList_inj.mp (List.append_cancel_right hl)]
  exact hz

/-! ## Paths below a protected directory -/

/-- The three ways a path list is refused, for one path of it. -/
def Blocked (rt : Runtime) (repo : String) (paths : List String) (p : String) : Prop :=
  (∃ e, evaluateProtectedTruthPaths shipped paths = .ok e ∧ p ∈ e.hits) ∧
  (∃ c, classifyMutation shipped paths = .ok c ∧ c.decision = .blockedProtectedTruthPath) ∧
  (∃ plan, compileDryRunRepairPlan rt shipped repo paths = .ok plan ∧ plan.allowed = false)

/-- One hit decides all three. -/
theorem blocked_iff_hit (rt : Runtime) (repo : String) (paths : List String) (p : String) :
    Blocked rt repo paths p ↔ ∃ hits, protectedTruthPathHits shipped paths = .ok hits ∧ p ∈ hits := by
  obtain ⟨hits, hh, _⟩ := shipped_hits paths
  have he : evaluateProtectedTruthPaths shipped paths =
      .ok ⟨hits.length > 0, hits, hits.length = 0, false⟩ := by
    rw [evaluateProtectedTruthPaths, hh]
    rfl
  constructor
  · intro h
    obtain ⟨⟨e, hee, hp⟩, _⟩ := h
    rw [he] at hee
    cases hee
    exact ⟨hits, hh, hp⟩
  · intro h
    obtain ⟨hits', hh', hp⟩ := h
    rw [hh] at hh'
    cases hh'
    have ht : decide (hits.length > 0) = true := decide_eq_true (List.length_pos_of_mem hp)
    obtain ⟨⟨c, hc, hd⟩, plan, hplan, ha⟩ := decisions_of_evaluation rt he repo
    refine ⟨⟨_, he, hp⟩, ⟨c, hc, hd.mpr ht⟩, plan, hplan, ?_⟩
    rw [ha]
    exact congrArg not ht

/-- Of the zones, only the directory itself can accept a path below it. -/
theorem accepts_below_iff {dir rest : String} (hdir : Zone.directory dir ∈ truthPerimeter) :
    (∃ z ∈ truthPerimeter, (anchored (guardMatcher z)).test (dir ++ "/" ++ rest) = true) ↔
      OneLevel rest := by
  constructor
  · intro h
    obtain ⟨z, hz, ht⟩ := h
    have hhead : (Zone.directory dir).head.toList <+: (dir ++ "/" ++ rest).toList :=
      ⟨rest.toList, String.toList_append.symm⟩
    have he : z = .directory dir := by
      by_contra hne
      exact Zone.not_prefix_of_apart (truthPerimeter_apart z hz _ hdir hne)
        (guard_starts_with_head ht) hhead
    subst he
    obtain ⟨rest', hone, heq⟩ := (test_guard_directory dir _).mp ht
    have hl : (dir ++ "/").toList ++ rest.toList = (dir ++ "/").toList ++ rest'.toList := by
      rw [← String.toList_append, ← String.toList_append]
      exact congrArg String.toList heq
    rw [String.toList_inj.mp (List.append_cancel_left hl)]
    exact hone
  · intro hone
    exact ⟨_, hdir, (test_guard_directory dir _).mpr ⟨rest, hone, rfl⟩⟩

theorem oneLevel_iff {rest : String} (hne : rest ≠ "") (hline : OnOneLine rest) :
    OneLevel rest ↔ '/' ∉ rest.toList.tail := by
  constructor
  · intro hcase
    obtain ⟨c, tail, h, _, ht⟩ := hcase
    rw [h]
    exact ht
  · intro ht
    cases h : rest.toList with
    | nil => exact absurd (String.toList_eq_nil_iff.mp h) hne
    | cons c tail =>
        rw [h] at ht
        exact ⟨c, tail, h, hline c (by rw [h]; simp), ht⟩

/-- A path below a directory protected by `D/**` is blocked exactly when no further
directory separates it from `D`. -/
theorem nested_path_blocked_iff (rt : Runtime) (repo : String) (paths : List String)
    (dir rest : String)
    (hdir : dir ++ "/**" ∈ protectedTruthPathsFile.protected_paths.getD [])
    (hne : rest ≠ "") (hline : OnOneLine rest) (hp : dir ++ "/" ++ rest ∈ paths) :
    Blocked rt repo paths (dir ++ "/" ++ rest) ↔ '/' ∉ rest.toList.tail := by
  obtain ⟨hits, hh, hmem⟩ := shipped_hits paths
  rw [blocked_iff_hit, ← oneLevel_iff hne hline, ← accepts_below_iff (directory_mem hdir)]
  constructor
  · intro h
    obtain ⟨hits', hh', hm⟩ := h
    rw [hh] at hh'
    cases hh'
    exact ((hmem _).mp hm).2
  · intro hz
    exact ⟨hits, hh, (hmem _).mpr ⟨hp, hz⟩⟩

theorem nested_path_blocked_iff_law :
    Blocked .ascii "Verifrax/SYNTAGMARIUM" ["law/v1.json"] ("law" ++ "/" ++ "v1.json") ↔
      '/' ∉ "v1.json".toList.tail :=
  nested_path_blocked_iff .ascii "Verifrax/SYNTAGMARIUM" ["law/v1.json"] "law" "v1.json"
    (by decide) (by decide) (by decide) (by decide)

/-- `law/**` is protected, and yet a law version one directory further down is no hit. -/
theorem law_version_not_blocked :
    "law" ++ "/**" ∈ protectedTruthPathsFile.protected_paths.getD [] ∧
    OnOneLine "versions/v1.json" ∧
    ¬ Blocked .ascii "Verifrax/SYNTAGMARIUM" ["law/versions/v1.json"] "law/versions/v1.json" := by
  refine ⟨by decide, by decide, ?_⟩
  rw [blocked_iff_hit]
  intro h
  obtain ⟨hits, hh, hm⟩ := h
  obtain ⟨hits', hh', hmem⟩ := shipped_hits ["law/versions/v1.json"]
  rw [hh] at hh'
  cases hh'
  have hlaw : Zone.directory "law" ∈ truthPerimeter := by decide
  have hpath : "law/versions/v1.json" = "law" ++ "/" ++ "versions/v1.json" := by decide
  have hone := (hmem _).mp hm
  rw [hpath, accepts_below_iff hlaw, oneLevel_iff (by decide) (by decide)] at hone
  exact hone.2 (by decide)

end Admissorium.Policy.TruthPathGuard
