import Admissorium.Hostile.Answers
import Admissorium.Verdict.FileGrowth

/-!
# The production decision

Production classifies a candidate with its files, compiles a verdict from it and a receipt
from the verdict. The evaluator's candidate has no files, and its receipt is compiled from
an object around the verdict: no path of it is a truth path and nothing is ever admitted.
-/
namespace Admissorium.Hostile.ProductionDecision
set_option autoImplicit false

open JavaScript Classify LanguageBoundary TextChecks Signing Verdict.Admission Verdict.FileGrowth

/-- One `{ path }` object for each path. -/
def fileObjects (paths : List String) : List Value := paths.map (fun path => .obj [("path", .str path)])

/-- The candidate with its changed paths as files. -/
def production (candidate : Candidate) : Fields :=
  candidate.fields ++ [("files", .arr (fileObjects candidate.changed_paths))]

/-- The classes the battery and the classifiers share. -/
def sharedClasses : List MutationClass :=
  [.protectedTruthMutation, .roleCollapse, .packagePublishPath, .secretBearingArtifact]

/-- The evaluator finds the shared classes of production and admits what production admits. -/
structure Decides (rt : Runtime) (fixture : Value) (candidate : Candidate) (mutation : Mutation)
    (result : HostileResult) : Prop where
  evaluated : evaluateHostileFixture rt fixture = .ok result
  classified : ∃ surface, classifySurface rt (.obj (production candidate)) = .ok surface ∧
    classifyMutation rt (.obj (production candidate)) surface = .ok mutation
  red_classes : ∀ c ∈ mutation.red_classes, c ∈ sharedClasses → .str c.text ∈ result.red_classes
  admitted : Admitted rt (.obj (production candidate)) → result.admitted = true

def TestsProduction (rt : Runtime) (fixture : Value) : Prop :=
  ∀ candidate, makeCandidate rt fixture = .ok candidate →
    ∃ mutation result, Decides rt fixture candidate mutation result

section Production
variable {rt : Runtime} {candidate : Candidate} {paths : List String}

/-! ## The text of the production candidate -/

theorem paths_of_fileObjects (paths : List String) :
    (fileObjects paths).map (fun file => file.get "path") = paths.map .str := by
  rw [fileObjects, List.map_map]
  rfl

theorem exists_production_reads (rt : Runtime) (candidate : Candidate) :
    ∃ text, Reads rt (.obj (production candidate)) (candidate.changed_paths.map .str) text := by
  have hfiles : FilesOf (production candidate) (fileObjects candidate.changed_paths) := Or.inr rfl
  have hobjects : ∀ file ∈ fileObjects candidate.changed_paths, FileObject file := by
    intro file hfile
    obtain ⟨path, _, rfl⟩ := List.mem_map.mp hfile
    exact ⟨path, rfl⟩
  rw [← paths_of_fileObjects]
  exact reads_of_files rt hfiles hobjects

theorem members_append (fields more : Fields) :
    Json.members rt (fields ++ more) = Json.members rt fields ++ Json.members rt more := by
  induction fields with
  | nil => rfl
  | cons field rest ih =>
      obtain ⟨key, v⟩ := field
      rw [List.cons_append, Json.members, Json.members, ih]
      cases Json.stringify rt v <;> rfl

theorem elements_map (f : String → Value) (texts : String → String)
    (h : ∀ path, Json.stringify rt (f path) = some (texts path)) :
    Json.elements rt (paths.map f) = paths.map texts := by
  induction paths with
  | nil => rfl
  | cons path rest ih => rw [List.map_cons, Json.elements, h, ih, List.map_cons, Option.getD_some]

/-- The words of the member `files`, and the colon after each. -/
def fileWords : List String := ["files", "path", ":"]

section Check
variable {check : String → Bool} (h : Local check)
include h

variable (hwords : ∀ word ∈ fileWords, check word = false)
include hwords

/-- In the text of a file object the check finds what it finds in the path. -/
theorem check_pathMember (path : String) :
    check (Json.quote "path" ++ ":" ++ Json.quote path) = check (Json.quote path) := by
  obtain ⟨body, hbody⟩ : ∃ body, Json.quote path = String.singleton '"' ++ body :=
    ⟨String.ofList (path.toList.flatMap Json.escapeChar ++ ['"']), by
      rw [Json.quote, List.cons_append, ← List.singleton_append, String.ofList_append]
      rfl⟩
  have hquote : '"' ∈ structural := by decide
  have hhead : Json.quote "path" = "\"" ++ "path" ++ "\"" := by decide
  rw [hbody, hhead, String.append_assoc, h.quoted, hwords "path" (by decide), Bool.false_or,
    ← String.append_assoc, h.split _ _ _ hquote, hwords ":" (by decide), Bool.false_or,
    h.cons hquote]

theorem check_fileObject (path : String) :
    check ("\x7b" ++ ",".intercalate (Json.members rt [("path", .str path)]) ++ "\x7d") =
      check (Json.quote path) := by
  have htext : Json.stringify rt (.obj [("path", .str path)]) =
      some ("\x7b" ++ ",".intercalate (Json.members rt [("path", .str path)]) ++ "\x7d") := by
    rw [Json.stringify]
  have hmembers : Json.members rt [("path", .str path)] =
      [Json.quote "path" ++ ":" ++ Json.quote path] := by
    rw [Json.members, Json.stringify, Json.members]
  rw [h.stringify_obj htext, hmembers, List.any_cons, List.any_nil, Bool.or_false,
    check_pathMember h hwords]

/-- In the member `files` it finds what it finds in the paths. -/
theorem check_files :
    (Json.members rt [("files", .arr (fileObjects paths))]).any check =
      (paths.map Json.quote).any check := by
  have hhead : Json.quote "files" ++ ":" = "\"" ++ "files" ++ "\"" ++ ":" := by decide
  have hquiet : check (Json.quote "files" ++ ":") = false := by
    rw [hhead, h.quoted, hwords "files" (by decide), hwords ":" (by decide)]
    rfl
  have helements : Json.elements rt (fileObjects paths) = paths.map (fun path =>
      "\x7b" ++ ",".intercalate (Json.members rt [("path", .str path)]) ++ "\x7d") :=
    elements_map _ _ (fun path => by rw [Json.stringify])
  rw [Json.members, Json.stringify, Json.members, List.any_cons, List.any_nil, Bool.or_false,
    h.array, hquiet, Bool.false_or, helements, List.any_map, List.any_map]
  exact congrArg (List.any paths) (funext (check_fileObject h hwords))

/-- The paths are members already: the files add nothing to find. -/
theorem check_production :
    (Json.members rt (production candidate)).any check =
      (Json.members rt candidate.fields).any check := by
  have hpaths : Json.members rt
      [("changed_paths", .arr (candidate.changed_paths.map .str))] =
      [Json.quote "changed_paths" ++ ":" ++
        ("[" ++ ",".intercalate (candidate.changed_paths.map Json.quote) ++ "]")] := by
    rw [Json.members, Json.stringify, Json.members,
      elements_map _ Json.quote (fun path => by rw [Json.stringify])]
  have hfields : candidate.fields = [("candidate_id", candidate.candidate_id),
      ("repo", candidate.repo)] ++ ([("changed_paths", .arr (candidate.changed_paths.map .str))] ++
        candidate.fields.drop 3) := rfl
  rw [production, members_append, List.any_append, check_files h hwords, hfields, members_append,
    members_append, hpaths, List.any_append, List.any_append, List.any_cons, List.any_nil,
    Bool.or_false, h.array]
  cases (candidate.changed_paths.map Json.quote).any check <;> simp

end Check

/-- The checks of the text that lead to a red class or a reason. -/
def textChecks : List (String → Bool) := includesSome roleCollapsePhrases :: reasonChecks

theorem local_textChecks : ∀ check ∈ textChecks, Local check :=
  List.forall_mem_cons.mpr ⟨local_roleCollapse, local_reasonChecks⟩

theorem sees_fileWords (rt : Runtime) {check : String → Bool} (h : check ∈ textChecks) :
    ∀ word ∈ fileWords, sees rt check word = false := by
  have hquiet : ∀ check ∈ textChecks, ∀ word ∈ fileWords,
      check (maskSafeBoundaryDenials word) = false := by decide +kernel
  have hlower : ∀ word ∈ fileWords, rt.toLowerCase word = word := by
    simp only [fileWords, List.forall_mem_cons]
    exact ⟨rt.lower_ascii _ (by decide), rt.lower_ascii _ (by decide),
      rt.lower_ascii _ (by decide), nofun⟩
  intro word hword
  rw [sees, hlower word hword]
  exact hquiet check h word hword

/-- The text of the production candidate is checked as that of the evaluator's. -/
theorem check_text (hlower : LowersApart rt) {check : String → Bool} (h : check ∈ textChecks)
    {text text' : String} (ht : dangerText rt candidate.toValue = .ok text)
    (ht' : dangerText rt (.obj (production candidate)) = .ok text') : check text' = check text := by
  have hlocal := local_textChecks check h
  rw [check_dangerText hlower hlocal ht', check_dangerText hlower hlocal ht]
  exact check_production (local_sees hlower hlocal) (sees_fileWords rt h)

end Production

/-! ## The classes the evaluator finds -/

section Classes
variable {rt : Runtime} {fixture : Value} {candidate : Candidate} {found : Findings}

theorem text_injective {c d : MutationClass} (h : c.text = d.text) : c = d := by
  revert h
  cases c <;> cases d <;> decide

/-- The red classes are among the classes, and the reasons name red classes. -/
theorem red_of_listed {surface : Surface} {mutation : Mutation} {risk : TruthRisk}
    {v : Value} (h : Classified rt v surface mutation risk) {c : MutationClass}
    (hc : c ∈ sharedClasses) :
    (c ∈ mutation.classes → c ∈ mutation.red_classes) ∧
      (c.text ∈ risk.reasons → c ∈ mutation.red_classes) := by
  constructor
  · intro hlisted
    obtain ⟨_, _, hm⟩ := bind_eq_ok.mp h.mutation_eq
    obtain ⟨_, _, hm⟩ := bind_eq_ok.mp hm
    obtain ⟨_, _, hm⟩ := bind_eq_ok.mp hm
    cases hm
    refine List.mem_filter.mpr ⟨hlisted, ?_⟩
    have hred : ∀ c ∈ sharedClasses, redMutationClasses.contains c = true := by decide
    exact hred c hc
  · intro hreason
    obtain ⟨_, _, hr⟩ := bind_eq_ok.mp h.risk_eq
    obtain ⟨_, _, hr⟩ := bind_eq_ok.mp hr
    cases hr
    have hother : ∀ c ∈ sharedClasses, c.text ≠ "protected_truth_path_touched" ∧
        c.text ≠ "sovereign_language_detected" := by decide
    obtain ⟨hpath, hlanguage⟩ := hother c hc
    simp only [riskReasons, List.mem_append, List.mem_ite_nil_right, List.mem_singleton,
      hpath, hlanguage, and_false, false_or] at hreason
    obtain ⟨d, hd, htext⟩ := List.mem_map.mp hreason
    rw [← text_injective htext]
    exact List.mem_eraseDups.mp (List.mem_filter.mp hd).1

theorem namedBy_iff (hf : findClasses rt fixture candidate = .ok found) {c : MutationClass}
    (hc : c ∈ sharedClasses) : NamedBy found c.text ↔ c ∈ found.mutation.red_classes := by
  have hknown : ∀ c ∈ sharedClasses, c.text ∈ baseClasses := by decide
  obtain ⟨hclasses, hreasons⟩ := red_of_listed (classified_of_findClasses hf) hc
  constructor
  · intro hnamed
    rcases hnamed.2 with ⟨d, hd, htext⟩ | hreason
    · rw [← text_injective htext] at hclasses ⊢
      exact hd.elim id hclasses
    · exact hreasons hreason
  · exact fun hred => ⟨hknown c hc, Or.inl ⟨c, Or.inl hred, rfl⟩⟩

theorem detected_protectedTruth_iff (text : String) :
    "protected_truth_mutation" ∈ detectedClasses text ↔
      includesSome protectedTruthPhrases text = true := by
  rw [detectedClasses, List.mem_map]
  constructor
  · intro hdetected
    obtain ⟨test, htest, hname⟩ := hdetected
    obtain ⟨hlisted, hpasses⟩ := List.mem_filter.mp htest
    simp only [hostileTests, List.mem_cons, List.not_mem_nil, or_false] at hlisted
    rcases hlisted with rfl | rfl | rfl | rfl | rfl | rfl
    · exact hpasses
    all_goals exact absurd hname (by decide)
  · exact fun hpasses => ⟨_, List.mem_filter.mpr ⟨List.mem_cons_self, hpasses⟩, rfl⟩

end Classes

/-! ## What the battery tests -/

/-- Where the paths touch truth the texts say so, and there is a reason not to admit. -/
structure Telling (rt : Runtime) (candidate : Candidate) (text : String) : Prop where
  truth : TouchesTruth (candidate.changed_paths.map .str) →
    includesSome protectedTruthPhrases (hostileText rt candidate) = true
  reason : ¬ Calm (candidate.changed_paths.map .str) text

section Tests
variable {rt : Runtime} {fixture : Value} {candidate : Candidate} {found : Findings}
  {text text' : String} {surface : Surface} {mutation : Mutation}

/-- The evaluator's candidate touches no truth path. -/
theorem untouched (hf : findClasses rt fixture candidate = .ok found)
    (hread : Reads rt candidate.toValue [] text) : ¬ found.surface.truth_path_touched = true := by
  obtain ⟨paths, _, hread', htouch, _⟩ := reads_of_surface (classified_of_findClasses hf).surface_eq
  obtain ⟨rfl, _⟩ := hread.unique hread'
  intro h
  obtain ⟨_, hpath, _⟩ := htouch.mp h
  cases hpath

/-- The red classes of production are those of the evaluator, and that of a truth path. -/
theorem mem_production_red_iff (hlower : LowersApart rt)
    (hread : Reads rt candidate.toValue [] text)
    (hread' : Reads rt (.obj (production candidate)) (candidate.changed_paths.map .str) text')
    (hf : findClasses rt fixture candidate = .ok found)
    (hs : classifySurface rt (.obj (production candidate)) = .ok surface)
    (hm : classifyMutation rt (.obj (production candidate)) surface = .ok mutation)
    (c : MutationClass) : c ∈ mutation.red_classes ↔
      (TouchesTruth (candidate.changed_paths.map .str) ∧ c = .protectedTruthMutation) ∨
        c ∈ found.mutation.red_classes := by
  obtain ⟨paths, _, hpaths, htouch, _⟩ := reads_of_surface hs
  obtain ⟨rfl, _⟩ := hread'.unique hpaths
  have hcheck : ∀ check ∈ textChecks, check text' = check text := fun check h =>
    check_text hlower h hread.text_eq hread'.text_eq
  simp only [textChecks, reasonChecks, List.forall_mem_cons] at hcheck
  obtain ⟨hcollapse, _, hcontents, hpublish, hsecret, _⟩ := hcheck
  rw [mem_red_classes hm hread'.text_eq,
    mem_red_classes (classified_of_findClasses hf).mutation_eq hread.text_eq, hcollapse, hcontents,
    hpublish, hsecret, htouch]
  simp only [untouched hf hread, Bool.false_eq_true, false_and, false_or]

theorem redText_production_iff (hlower : LowersApart rt)
    (ht : dangerText rt candidate.toValue = .ok text)
    (ht' : dangerText rt (.obj (production candidate)) = .ok text') : RedText text' ↔ RedText text := by
  rw [redText_iff, redText_iff]
  refine exists_congr (fun check => and_congr_right (fun hcheck => ?_))
  rw [check_text hlower (List.mem_cons_of_mem _ hcheck) ht ht']

theorem production_calm_iff (hlower : LowersApart rt) {paths : List Value}
    (ht : dangerText rt candidate.toValue = .ok text)
    (ht' : dangerText rt (.obj (production candidate)) = .ok text') :
    Calm paths text' ↔ Calm paths text := by
  have hred := redText_production_iff hlower ht ht'
  exact ⟨fun h => ⟨h.truth, fun h' => h.text (hred.mpr h')⟩,
    fun h => ⟨h.truth, fun h' => h.text (hred.mp h')⟩⟩

/-- Nothing but a phrase tells the evaluator of a truth path. -/
theorem protectedTruth_found_iff (hf : findClasses rt fixture candidate = .ok found)
    (hexpected : fixture.get "expected" = .undefined) (hread : Reads rt candidate.toValue [] text) :
    .str MutationClass.protectedTruthMutation.text ∈ found.red_classes ↔
      includesSome protectedTruthPhrases (hostileText rt candidate) = true := by
  obtain ⟨required, hrequired, hmem⟩ := mem_red_classes_iff hf
  obtain rfl : required = [] := by
    rw [hexpected] at hrequired
    exact (Except.ok.inj hrequired).symm
  have hnamed : ¬ NamedBy found MutationClass.protectedTruthMutation.text := by
    rw [namedBy_iff hf (by decide), mem_red_classes (classified_of_findClasses hf).mutation_eq
      hread.text_eq]
    simp [untouched hf hread]
  rw [hmem, ← detected_protectedTruth_iff]
  simp only [hnamed, List.not_mem_nil, false_or, or_false]
  rfl

theorem red_classes_found_iff (hlower : LowersApart rt)
    (hexpected : fixture.get "expected" = .undefined) (hread : Reads rt candidate.toValue [] text)
    (hread' : Reads rt (.obj (production candidate)) (candidate.changed_paths.map .str) text')
    (hf : findClasses rt fixture candidate = .ok found)
    (hs : classifySurface rt (.obj (production candidate)) = .ok surface)
    (hm : classifyMutation rt (.obj (production candidate)) surface = .ok mutation) :
    (∀ c ∈ mutation.red_classes, c ∈ sharedClasses → .str c.text ∈ found.red_classes) ↔
      (TouchesTruth (candidate.changed_paths.map .str) →
        includesSome protectedTruthPhrases (hostileText rt candidate) = true) := by
  have hred := mem_production_red_iff hlower hread hread' hf hs hm
  rw [← protectedTruth_found_iff hf hexpected hread]
  constructor
  · exact fun h htouch => h _ ((hred _).mpr (Or.inl ⟨htouch, rfl⟩)) (by decide)
  · intro h c hc hshared
    rcases (hred c).mp hc with ⟨htouch, rfl⟩ | hfound
    · exact h htouch
    · obtain ⟨_, _, hmem⟩ := mem_red_classes_iff hf
      exact (hmem _).mpr (Or.inl ((namedBy_iff hf hshared).mpr hfound))

theorem exists_decides_iff (hlower : LowersApart rt)
    (hexpected : fixture.get "expected" = .undefined)
    (hc : makeCandidate rt fixture = .ok candidate) :
    (∃ mutation result, Decides rt fixture candidate mutation result) ↔
      ∃ text, dangerText rt candidate.toValue = .ok text ∧ Telling rt candidate text := by
  obtain ⟨text, hread⟩ := reads_of_no_files rt (no_files candidate)
  obtain ⟨text', hread'⟩ := exists_production_reads rt candidate
  obtain ⟨surface, mutation, risk, hclass⟩ := exists_classified_of_reads hread'
  obtain ⟨found, result, hf, he, hred⟩ := exists_evaluate (Or.inl ⟨hexpected, rfl⟩) hc
  have hclasses := red_classes_found_iff hlower hexpected hread hread' hf hclass.surface_eq
    hclass.mutation_eq
  have hcalm : Admitted rt (.obj (production candidate)) ↔
      Calm (candidate.changed_paths.map .str) text := by
    rw [← production_calm_iff hlower hread.text_eq hread'.text_eq, admitted_iff]
    constructor
    · intro h
      obtain ⟨_, _, hother, hcalm⟩ := h
      obtain ⟨rfl, rfl⟩ := hread'.unique hother
      exact hcalm
    · exact fun hcalm => ⟨_, _, hread', hcalm⟩
  constructor
  · intro h
    obtain ⟨mutation', result', hdecides⟩ := h
    obtain ⟨surface', hs, hm⟩ := hdecides.classified
    obtain rfl := Except.ok.inj (hclass.surface_eq.symm.trans hs)
    obtain rfl := Except.ok.inj (hclass.mutation_eq.symm.trans hm)
    obtain rfl := Except.ok.inj (he.symm.trans hdecides.evaluated)
    refine ⟨text, hread.text_eq, hclasses.mp (hred ▸ hdecides.red_classes), fun h => ?_⟩
    have hpositive := hdecides.admitted (hcalm.mpr h)
    rw [never_admitted he] at hpositive
    cases hpositive
  · intro h
    obtain ⟨other, ht, htelling⟩ := h
    obtain rfl := Except.ok.inj (hread.text_eq.symm.trans ht)
    exact ⟨mutation, result, he, ⟨surface, hclass.surface_eq, hclass.mutation_eq⟩,
      hred ▸ hclasses.mpr htelling.truth, fun h => absurd (hcalm.mp h) htelling.reason⟩

/-- The battery tests the production decision on the fixtures that tell of it themselves. -/
theorem testsProduction_iff (hlower : LowersApart rt)
    (hexpected : fixture.get "expected" = .undefined) :
    TestsProduction rt fixture ↔ ∀ candidate, makeCandidate rt fixture = .ok candidate →
      ∃ text, dangerText rt candidate.toValue = .ok text ∧ Telling rt candidate text :=
  forall₂_congr (fun _ hc => exists_decides_iff hlower hexpected hc)

end Tests

def lawTruthFixture : Value := .obj [("changed_paths", .arr [.str "law/truth/v1.json"])]

/-- A path under `law/` that has `truth/` in it is found both ways. -/
theorem testsProduction_lawTruth : TestsProduction .ascii lawTruthFixture := by
  refine (testsProduction_iff (lowersApart_of_asciiLower rfl) rfl).mpr (fun candidate hc => ?_)
  cases hc
  refine ⟨_, rfl, fun _ => by decide +kernel, fun hcalm => hcalm.truth ?_⟩
  exact ⟨"law/truth/v1.json", List.mem_cons_self, by decide⟩

def lawFixture : Value := .obj [("changed_paths", .arr [.str "law/v1.json"])]

def emptyFixture : Value := .obj []

/-- A truth path without a phrase is missed, and what production admits is not admitted. -/
theorem not_testsProduction :
    ¬ TestsProduction .ascii lawFixture ∧ ¬ TestsProduction .ascii emptyFixture := by
  have hlower : LowersApart .ascii := lowersApart_of_asciiLower rfl
  constructor
  · intro h
    obtain ⟨text, _, htelling⟩ := (exists_decides_iff hlower rfl rfl).mp (h _ rfl)
    have hphrase := htelling.truth ⟨"law/v1.json", List.mem_cons_self, by decide⟩
    revert hphrase
    decide +kernel
  · intro h
    obtain ⟨text, ht, htelling⟩ := (exists_decides_iff hlower rfl rfl).mp (h _ rfl)
    have htext := Except.ok.inj ht
    refine htelling.reason ⟨?_, ?_⟩
    · intro htouch
      obtain ⟨path, hpath, _⟩ := htouch
      cases hpath
    · rw [← htext]
      decide +kernel

end Admissorium.Hostile.ProductionDecision
