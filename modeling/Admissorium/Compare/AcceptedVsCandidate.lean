import Admissorium.Verdict.Admission

/-!
# The accepted graph

`src/compare/accepted-vs-candidate` weighs what the classifiers found against the accepted
graph, which the verdict compiler is not given.
-/
namespace Admissorium.Compare.AcceptedVsCandidate
set_option autoImplicit false

open JavaScript Classify LanguageBoundary Signing Verdict Verdict.Admission

/-- `(accepted.repos || []).map(r => r.name)`. -/
def acceptedRepos (accepted : Value) : Except JsError (List Value) := do
  let repos := ((← accepted.prop "repos").or (.arr []))
  (← repos.asArray).mapM (fun r => r.prop "name")

/-- `new Set(names).has(name)`; no two objects are the same one. -/
def hasName (names : List Value) (name : Value) : Bool := names.any name.strictEquals

def contradictions (repo_known : Bool) (surface : Surface) (mutation : Mutation)
    (truthRisk : TruthRisk) : List String :=
  (if repo_known then [] else ["repo_not_in_accepted_graph"]) ++
    (if surface.truth_path_touched then ["protected_truth_path_mutation"] else []) ++
    (if surface.sovereign_language_detected then ["sovereign_language_projection"] else []) ++
    (if mutation.red_classes.isEmpty then [] else ["red_mutation_class_present"]) ++
    (if truthRisk.risk = .red then ["red_truth_risk"] else [])

def comparisonFields (repo_known : Bool) (contradiction : List String) (surface : Surface) :
    Fields :=
  let admissible := contradiction.isEmpty
  [("comparator", .str "ADMISSORIUM_ACCEPTED_VS_CANDIDATE_COMPARATOR"),
    ("schema_version", .str "1.0.0")] ++ disabledWriters ++
  [("allowed_to_mutate_truth", .bool false), ("truth_warning", .str "NOT_TRUTH_SOURCE"),
    ("repo_known", .bool repo_known),
    ("verdict", .str (if admissible then "ADMISSIBLE_REPORT_ONLY" else "INADMISSIBLE_OR_QUARANTINE")),
    ("contradiction", .arr (contradiction.map .str)), ("merge_allowed", .bool admissible),
    ("repair_allowed", .bool (admissible && surface.projection_path_touched)),
    ("repair_mode", .str "DRY_RUN_ONLY"), ("direct_main_write_enabled", .bool false)]

def compareAcceptedVsCandidate (accepted candidate : Value) (surface : Surface)
    (mutation : Mutation) (truthRisk : TruthRisk) : Except JsError Value := do
  let names ← acceptedRepos accepted
  let repo_known := hasName names (← candidate.prop "repo")
  return .obj (comparisonFields repo_known (contradictions repo_known surface mutation truthRisk)
    surface)

def comparisonReport (rt : Runtime) (acceptedText candidateText : String) (surface : Surface)
    (mutation : Mutation) (truthRisk : TruthRisk) (comparison : Value) : Value :=
  .obj ([("report_type", .str "ADMISSORIUM_V020_CLASSIFIER_COMPARATOR_REPORT"),
    ("schema_version", .str "1.0.0"), ("admissorium_version", .str "0.2.0"),
    ("truth_warning", .str "NOT_TRUTH_SOURCE")] ++ disabledWriters ++
  [("allowed_to_mutate_truth", .bool false),
    ("state", .str (if (comparison.get "verdict").strictEquals (.str "ADMISSIBLE_REPORT_ONLY")
      then "ADMISSORIUM_V020_CLASSIFIER_COMPARATOR_PASS"
      else "ADMISSORIUM_V020_CLASSIFIER_COMPARATOR_BLOCK")),
    ("system_complete", .bool false), ("pr_writer_enabled", .bool false),
    ("issue_writer_enabled", .bool false), ("accepted_sha256", .str (rt.sha256 acceptedText)),
    ("candidate_sha256", .str (rt.sha256 candidateText)), ("surface", surface.toValue),
    ("mutation", mutation.toValue), ("truthRisk", truthRisk.toValue), ("comparison", comparison)])

/-- The report on two parsed files. -/
def evaluateCandidate (rt : Runtime) (acceptedText candidateText : String)
    (accepted candidate : Value) : Except JsError Value := do
  let surface ← classifySurface rt candidate
  let mutation ← classifyMutation rt candidate surface
  let truthRisk ← classifyTruthRisk candidate surface mutation
  let comparison ← compareAcceptedVsCandidate accepted candidate surface mutation truthRisk
  return comparisonReport rt acceptedText candidateText surface mutation truthRisk comparison

/-! ## The two decisions -/

/-- The comparator calls the candidate admissible for what the classifiers find in it. -/
def ComparesAdmissible (rt : Runtime) (accepted candidate : Value) : Prop :=
  ∃ surface mutation risk comparison, Classified rt candidate surface mutation risk ∧
    compareAcceptedVsCandidate accepted candidate surface mutation risk = .ok comparison ∧
    comparison.get "verdict" = .str "ADMISSIBLE_REPORT_ONLY"

/-- The receipt admits what the comparator calls admissible, and nothing else. -/
def AdmitsWhatGraphAdmits (rt : Runtime) (accepted candidate : Value) : Prop :=
  Admitted rt candidate ↔ ComparesAdmissible rt accepted candidate

/-- The graph can be read and lists the candidate's repository. -/
def RepoKnown (accepted candidate : Value) : Prop :=
  ∃ names, acceptedRepos accepted = .ok names ∧ hasName names (candidate.get "repo") = true

section Decisions
variable {rt : Runtime} {accepted candidate : Value} {surface : Surface} {mutation : Mutation}
  {risk : TruthRisk}

/-- A green candidate touches no truth, claims nothing and has no red class. -/
theorem nothing_found_of_green (h : Classified rt candidate surface mutation risk)
    (hgreen : risk.risk = .green) : surface.truth_path_touched = false ∧
      surface.sovereign_language_detected = false ∧ mutation.red_classes = [] := by
  obtain ⟨paths, text, hread, htouch, hlanguage⟩ := reads_of_surface h.surface_eq
  have hcalm := (h.green_iff hread).mp hgreen
  have htruth : surface.truth_path_touched ≠ true := fun ht => hcalm.truth (htouch.mp ht)
  have hdanger : includesSome dangerPhrases text ≠ true := fun hd => hcalm.text (Or.inl hd)
  refine ⟨Bool.eq_false_of_not_eq_true htruth, ?_, ?_⟩
  · rw [hlanguage]
    exact Bool.eq_false_of_not_eq_true hdanger
  · rw [List.eq_nil_iff_forall_not_mem]
    intro c hc
    rcases (mem_red_classes h.mutation_eq hread.text_eq c).mp hc with
      ⟨ht, _⟩ | ⟨hw, _⟩ | ⟨hp, _⟩ | ⟨hs, _⟩ | ⟨hr, _⟩
    · exact htruth ht
    · exact hcalm.text (Or.inr (Or.inl hw))
    · exact hcalm.text (Or.inr (Or.inr (Or.inl hp)))
    · exact hcalm.text (Or.inr (Or.inr (Or.inr hs)))
    · exact hdanger (includesSome_roleCollapse hr)

/-- All contradictions but the first are reasons for a red risk. -/
theorem contradictions_eq_nil_iff (repo_known : Bool)
    (h : Classified rt candidate surface mutation risk) :
    contradictions repo_known surface mutation risk = [] ↔
      repo_known = true ∧ risk.risk = .green := by
  constructor
  · intro hnil
    simp only [contradictions, List.append_eq_nil_iff] at hnil
    obtain ⟨⟨⟨⟨hknown, _⟩, _⟩, _⟩, hred⟩ := hnil
    constructor
    · by_contra hunknown
      rw [if_neg hunknown] at hknown
      cases hknown
    · cases hrisk : risk.risk with
      | green => rfl
      | red =>
          rw [if_pos hrisk] at hred
          cases hred
  · rintro ⟨rfl, hgreen⟩
    obtain ⟨htruth, hlanguage, hclasses⟩ := nothing_found_of_green h hgreen
    simp [contradictions, htruth, hlanguage, hclasses, hgreen]

theorem verdict_comparison (repo_known : Bool) (contradiction : List String) :
    (Value.obj (comparisonFields repo_known contradiction surface)).get "verdict" =
      .str "ADMISSIBLE_REPORT_ONLY" ↔ contradiction = [] := by
  have hread : (Value.obj (comparisonFields repo_known contradiction surface)).get "verdict" =
      .str (if contradiction.isEmpty then "ADMISSIBLE_REPORT_ONLY"
        else "INADMISSIBLE_OR_QUARANTINE") := rfl
  rw [hread, Value.str.injEq]
  cases contradiction with
  | nil => simp
  | cons c rest => simp

/-- The comparator admits the calm candidates of known repositories. -/
theorem comparesAdmissible_iff : ComparesAdmissible rt accepted candidate ↔
    RepoKnown accepted candidate ∧ Admitted rt candidate := by
  constructor
  · rintro ⟨surface, mutation, risk, comparison, hclass, h, hverdict⟩
    obtain ⟨names, hnames, h⟩ := bind_eq_ok.mp h
    obtain ⟨repo, hrepo, h⟩ := bind_eq_ok.mp h
    cases h
    obtain rfl := Except.ok.inj ((Value.prop_eq_get hrepo "repo").symm.trans hrepo)
    obtain ⟨hknown, hgreen⟩ := (contradictions_eq_nil_iff _ hclass).mp
      ((verdict_comparison _ _).mp hverdict)
    obtain ⟨paths, text, hread, _⟩ := reads_of_surface hclass.surface_eq
    exact ⟨⟨names, hnames, hknown⟩,
      admitted_iff.mpr ⟨paths, text, hread, (hclass.green_iff hread).mp hgreen⟩⟩
  · rintro ⟨⟨names, hnames, hknown⟩, hadmitted⟩
    obtain ⟨paths, text, hread, hcalm⟩ := admitted_iff.mp hadmitted
    obtain ⟨surface, mutation, risk, hclass⟩ := exists_classified_of_reads hread
    obtain ⟨_, hfiles, _⟩ := bind_eq_ok.mp hread.paths_eq
    refine ⟨surface, mutation, risk, _, hclass, bind_eq_ok.mpr ⟨names, hnames,
      bind_eq_ok.mpr ⟨_, Value.prop_eq_get hfiles "repo", rfl⟩⟩, ?_⟩
    rw [hknown]
    exact (verdict_comparison _ _).mpr ((contradictions_eq_nil_iff _ hclass).mpr
      ⟨rfl, (hclass.green_iff hread).mpr hcalm⟩)

/-- The report passes exactly what the comparator calls admissible. -/
theorem evaluateCandidate_pass_iff (acceptedText candidateText : String) :
    (∃ report, evaluateCandidate rt acceptedText candidateText accepted candidate = .ok report ∧
      report.get "state" = .str "ADMISSORIUM_V020_CLASSIFIER_COMPARATOR_PASS") ↔
    ComparesAdmissible rt accepted candidate := by
  have hstate : ∀ surface mutation truthRisk comparison,
      (comparisonReport rt acceptedText candidateText surface mutation truthRisk comparison).get
        "state" = .str "ADMISSORIUM_V020_CLASSIFIER_COMPARATOR_PASS" ↔
      comparison.get "verdict" = .str "ADMISSIBLE_REPORT_ONLY" := by
    intro surface mutation truthRisk comparison
    have hread : (comparisonReport rt acceptedText candidateText surface mutation truthRisk
        comparison).get "state" =
      .str (if (comparison.get "verdict").strictEquals (.str "ADMISSIBLE_REPORT_ONLY")
        then "ADMISSORIUM_V020_CLASSIFIER_COMPARATOR_PASS"
        else "ADMISSORIUM_V020_CLASSIFIER_COMPARATOR_BLOCK") := rfl
    rw [hread, Value.str.injEq, ← Value.strictEquals_str]
    split <;> simp_all
  constructor
  · rintro ⟨report, h, hpass⟩
    obtain ⟨surface, hs, h⟩ := bind_eq_ok.mp h
    obtain ⟨mutation, hm, h⟩ := bind_eq_ok.mp h
    obtain ⟨risk, hr, h⟩ := bind_eq_ok.mp h
    obtain ⟨comparison, hc, h⟩ := bind_eq_ok.mp h
    cases h
    exact ⟨surface, mutation, risk, comparison, ⟨hs, hm, hr⟩, hc, (hstate _ _ _ _).mp hpass⟩
  · rintro ⟨surface, mutation, risk, comparison, hclass, hc, hverdict⟩
    refine ⟨_, ?_, (hstate surface mutation risk comparison).mpr hverdict⟩
    rw [evaluateCandidate, hclass.surface_eq, ok_bind, hclass.mutation_eq, ok_bind, hclass.risk_eq,
      ok_bind, hc, ok_bind]
    rfl

/-- The verdict compiler never sees the graph: what it admits for a repository the graph does
not list, the comparator calls inadmissible. -/
theorem admitsWhatGraphAdmits_iff (rt : Runtime) (accepted candidate : Value) :
    AdmitsWhatGraphAdmits rt accepted candidate ↔
      RepoKnown accepted candidate ∨
        ¬ ∃ paths text, Reads rt candidate paths text ∧ Calm paths text := by
  rw [AdmitsWhatGraphAdmits, comparesAdmissible_iff, admitted_iff]
  constructor
  · intro hagree
    by_cases hcalm : ∃ paths text, Reads rt candidate paths text ∧ Calm paths text
    · exact Or.inl (hagree.mp hcalm).1
    · exact Or.inr hcalm
  · intro hcase
    constructor
    · intro hcalm
      exact ⟨hcase.resolve_right (not_not_intro hcalm), hcalm⟩
    · intro hadmissible
      exact hadmissible.2

end Decisions

/-- A graph with one repository. -/
def acceptedGraph : Value := .obj [("repos", .arr [.obj [("name", .str "Verifrax/ADMISSORIUM")]])]

/-- A harmless candidate of another one. -/
def unlistedCandidate : Value := .obj [("repo", .str "Verifrax/UNLISTED")]

theorem unlistedCandidate_not_admitsWhatGraphAdmits :
    ¬ AdmitsWhatGraphAdmits .ascii acceptedGraph unlistedCandidate := by
  intro hagree
  have htext : dangerText .ascii unlistedCandidate =
      .ok "\x7b\"repo\":\"verifrax/unlisted\"\x7d" := by decide +kernel
  have hadmitted : Admitted .ascii unlistedCandidate :=
    admitted_iff.mpr ⟨[], _, ⟨rfl, htext, trivial, trivial, trivial, trivial⟩,
      fun h => (nomatch h), by decide +kernel⟩
  obtain ⟨⟨names, hnames, hknown⟩, _⟩ := comparesAdmissible_iff.mp (hagree.mp hadmitted)
  cases hnames
  revert hknown
  decide +kernel

end Admissorium.Compare.AcceptedVsCandidate
