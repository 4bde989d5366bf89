import Admissorium.Hostile.Answers
import Admissorium.JavaScript.JsonText

/-!
# The answer key

What a fixture expects is walked and searched with the rest of it, and the classes it
requires are added to those found. A fixture that is evaluated at all is answered
otherwise when it requires a class that nothing else finds.
-/
namespace Admissorium.Hostile.AnswerKey
set_option autoImplicit false

open JavaScript Json Signing

/-! ## Two fixtures that expect different things -/

/-- The fixture with this `expected` field, or with none. -/
def withExpected (fields : Fields) : Option Value → Fields
  | some expected => setField fields "expected" expected
  | none => fields.filter (fun field => field.1 ≠ "expected")

structure SameAnswer (result other : HostileResult) : Prop where
  risk : result.risk = other.risk
  red_classes : result.red_classes = other.red_classes
  admitted : result.admitted = other.admitted

/-- Whatever JSON two fixtures expect that are otherwise this one, the answers are the same. -/
def IgnoresAnswerKey (rt : Runtime) (fields : Fields) : Prop :=
  ∀ expected expected' : Option Value, (∀ v ∈ expected, IsJson v) → (∀ v ∈ expected', IsJson v) →
    ∀ result other, evaluateHostileFixture rt (.obj (withExpected fields expected)) = .ok result →
      evaluateHostileFixture rt (.obj (withExpected fields expected')) = .ok other →
      SameAnswer result other

/-- All a fixture is read for as text can be converted to text. -/
structure HasTexts (rt : Runtime) (fixture : Value) : Prop where
  paths : ∀ key ∈ ["changed_paths", "paths", "files"], ∀ v ∈ itemsOr (fixture.get key),
    ∃ text, v.toText rt = .ok text
  content : ∀ key ∈ ["summary", "content", "body", "diff", "patch", "description"],
    (fixture.get key).truthy = true → ∃ text, (fixture.get key).toText rt = .ok text

section Expected
variable {rt : Runtime} {fields : Fields}

theorem lookup_setField (fields : Fields) (key name : String) (v : Value) :
    (setField fields name v).lookup key = if key = name then some v else fields.lookup key := by
  induction fields with
  | nil => rw [setField, lookup_cons_ite]
  | cons field rest ih =>
      obtain ⟨other, w⟩ := field
      unfold setField
      by_cases hname : other = name
      · subst hname
        rw [if_pos rfl, lookup_cons_ite, lookup_cons_ite]
        by_cases hkey : key = other
        · rw [if_pos hkey, if_pos hkey]
        · rw [if_neg hkey, if_neg hkey, if_neg hkey]
      · rw [if_neg hname, lookup_cons_ite, lookup_cons_ite, ih]
        by_cases hkey : key = other
        · subst hkey
          rw [if_pos rfl, if_neg hname, if_pos rfl]
        · rw [if_neg hkey, if_neg hkey]

theorem lookup_filter_ne {key name : String} (h : key ≠ name) (fields : Fields) :
    (fields.filter (fun field => field.1 ≠ name)).lookup key = fields.lookup key := by
  induction fields with
  | nil => rfl
  | cons field rest ih =>
      obtain ⟨other, w⟩ := field
      rw [lookup_cons_ite]
      by_cases hname : other = name
      · subst hname
        rw [List.filter_cons_of_neg (by simp), ih, if_neg h]
      · rw [List.filter_cons_of_pos (by simp [hname]), lookup_cons_ite, ih]

/-- Every other field is left as it is. -/
theorem get_withExpected {key : String} (h : key ≠ "expected") (fields : Fields)
    (expected : Option Value) :
    (Value.obj (withExpected fields expected)).get key = (Value.obj fields).get key := by
  cases expected with
  | none => exact congrArg (fun v : Option Value => v.getD .undefined) (lookup_filter_ne h fields)
  | some v =>
      have hlookup : (setField fields "expected" v).lookup key = fields.lookup key := by
        rw [lookup_setField, if_neg h]
      exact congrArg (fun v : Option Value => v.getD .undefined) hlookup

theorem get_expected (fields : Fields) (v : Value) :
    (Value.obj (withExpected fields (some v))).get "expected" = v := by
  have hlookup : (setField fields "expected" v).lookup "expected" = some v := by
    rw [lookup_setField, if_pos rfl]
  exact congrArg (fun v : Option Value => v.getD .undefined) hlookup

/-- What is read as text is not what is expected. -/
theorem HasTexts.congr {fixture other : Value} (h : HasTexts rt fixture)
    (hget : ∀ key, key ≠ "expected" → other.get key = fixture.get key) : HasTexts rt other := by
  have hpaths : "expected" ∉ ["changed_paths", "paths", "files"] := by decide
  have hcontent : "expected" ∉ ["summary", "content", "body", "diff", "patch", "description"] := by
    decide
  constructor
  · intro key hkey
    rw [hget key (ne_of_mem_of_not_mem hkey hpaths)]
    exact h.paths key hkey
  · intro key hkey
    rw [hget key (ne_of_mem_of_not_mem hkey hcontent)]
    exact h.content key hkey

theorem hasTexts_withExpected (expected : Option Value) :
    HasTexts rt (.obj (withExpected fields expected)) ↔ HasTexts rt (.obj fields) :=
  ⟨fun h => h.congr (fun _ hkey => (get_withExpected hkey fields expected).symm),
    fun h => h.congr (fun _ hkey => get_withExpected hkey fields expected)⟩

theorem exists_jsonText (rt : Runtime) (json : Option String) :
    ∃ text, (json.elim Value.undefined Value.str).toText rt = .ok text := by
  cases json with
  | none => exact ⟨_, rfl⟩
  | some text => exact ⟨text, rfl⟩

/-- A candidate is made of exactly the fixtures whose texts can be read. -/
theorem exists_makeCandidate_iff :
    (∃ candidate, makeCandidate rt (.obj fields) = .ok candidate) ↔ HasTexts rt (.obj fields) := by
  apply exists_bind₂_iff.trans
  rw [exists_mapM_eq_ok_iff, exists_mapM_eq_ok_iff]
  simp only [List.forall_mem_append, List.forall_mem_map, List.forall_mem_filter,
    List.forall_mem_cons]
  constructor
  · intro h
    obtain ⟨⟨⟨⟨hchanged, hpaths⟩, hfiles⟩, _⟩,
      hsummary, hcontent, hbody, hdiff, hpatch, hdescription, _⟩ := h
    constructor
    · simp only [List.forall_mem_cons]
      exact ⟨hchanged, hpaths, hfiles, nofun⟩
    · simp only [List.forall_mem_cons]
      exact ⟨hsummary, hcontent, hbody, hdiff, hpatch, hdescription, nofun⟩
  · intro h
    have hpath := h.paths
    have htext := h.content
    simp only [List.forall_mem_cons] at hpath htext
    obtain ⟨hchanged, hpaths, hfiles, _⟩ := hpath
    obtain ⟨hsummary, hcontent, hbody, hdiff, hpatch, hdescription, _⟩ := htext
    exact ⟨⟨⟨⟨hchanged, hpaths⟩, hfiles⟩, fun s _ => ⟨s, rfl⟩⟩, hsummary, hcontent, hbody, hdiff,
      hpatch, hdescription, fun _ => ⟨_, rfl⟩, fun _ => exists_jsonText rt _, nofun⟩

end Expected

/-! ## The answers differ -/

section Answers
variable {rt : Runtime} {fields : Fields}

/-- `answer_key` is no class of the classifiers or the battery: it is found where it is required. -/
theorem answer_key_listed_iff (names : List String) (h : HasTexts rt (.obj fields)) :
    ∃ result, evaluateHostileFixture rt (.obj (withExpected fields
        (some (.obj [("required_red_classes", .arr (names.map .str))])))) = .ok result ∧
      (.str "answer_key" ∈ result.red_classes ↔ "answer_key" ∈ names) := by
  obtain ⟨candidate, hc⟩ := exists_makeCandidate_iff.mpr ((hasTexts_withExpected
    (some (.obj [("required_red_classes", .arr (names.map .str))]))).mpr h)
  have hrequires : Requires (.obj (withExpected fields
      (some (.obj [("required_red_classes", .arr (names.map .str))])))) names :=
    Or.inr (get_expected _ _)
  obtain ⟨found, result, hf, he, hred⟩ := exists_evaluate hrequires hc
  obtain ⟨required, hrequired, hmem⟩ := mem_red_classes_iff hf
  obtain rfl := Except.ok.inj (hrequires.iterate.symm.trans hrequired)
  have hnamed : ¬ NamedBy found "answer_key" := fun hnamed => absurd hnamed.1 (by decide)
  have hdetected : "answer_key" ∉ detectedClasses (hostileText rt candidate) := by
    intro hdetected
    obtain ⟨test, htest, he⟩ := List.mem_map.mp hdetected
    have hnames : ∀ test ∈ hostileTests, test.1 ≠ "answer_key" := by decide
    exact hnames test (List.mem_filter.mp htest).1 he
  refine ⟨result, he, ?_⟩
  rw [hred, hmem]
  simp [hnamed, hdetected]

theorem not_ignoresAnswerKey (h : HasTexts rt (.obj fields)) : ¬ IgnoresAnswerKey rt fields := by
  intro hignores
  obtain ⟨result, he, hkey⟩ := answer_key_listed_iff [] h
  obtain ⟨other, he', hkey'⟩ := answer_key_listed_iff ["answer_key"] h
  have hsame := hignores _ _ (by simp [IsJson, ItemsJson, FieldsJson])
    (by simp [IsJson, ItemsJson, FieldsJson]) result other he he'
  rw [← hsame.red_classes] at hkey'
  exact absurd (hkey.mp (hkey'.mpr (List.mem_singleton.mpr rfl))) List.not_mem_nil

end Answers

/-- The answer key is ignored only where no fixture is answered. -/
theorem ignoresAnswerKey_iff (rt : Runtime) (fields : Fields) :
    IgnoresAnswerKey rt fields ↔ ¬ HasTexts rt (.obj fields) := by
  constructor
  · exact fun hignores h => not_ignoresAnswerKey h hignores
  · intro h expected expected' _ _ result other he _
    obtain ⟨candidate, hc, _⟩ := bind_eq_ok.mp he
    exact absurd ((hasTexts_withExpected expected).mp (exists_makeCandidate_iff.mp ⟨candidate, hc⟩)) h

theorem not_ignoresAnswerKey_calm :
    ¬ IgnoresAnswerKey .ascii [("summary", .str "calm")] := by
  refine not_ignoresAnswerKey ⟨?_, ?_⟩
  · simp only [List.forall_mem_cons]
    exact ⟨nofun, nofun, nofun, nofun⟩
  · simp only [List.forall_mem_cons]
    exact ⟨fun _ => ⟨"calm", rfl⟩, nofun, nofun, nofun, nofun, nofun, nofun⟩

end Admissorium.Hostile.AnswerKey
