import Admissorium.Pipeline.WriterSimulation
import Admissorium.Signing.Stored

/-!
# The operator's bundle on disk

A case copies fields of a suite's result, whether the result has them or not. A bundle
with a field that its suite lacks verifies in memory and no longer once it is read back
(`survivesWriting_iff`).
-/
namespace Admissorium.Pipeline.StoredBundle
set_option autoImplicit false

open JavaScript Json Signing Signing.Replay Signing.Stored Verdict QuarantineSuite WriterSimulation

/-- The counts a bundle copies from its suite. -/
def totalKeys : List String := ["total", "quarantined", "passed_without_quarantine", "failed"]

/-- The fields a case copies from its result. -/
def caseKeys : List String :=
  ["candidate_id", "file", "risk", "verdict_state", "quarantine_required", "quarantine_route",
    "repair_mode"]

/-- The members of a result whose hash a case copies. -/
def hashedKeys : List String := ["quarantine", "repair_packet"]

/-- Every field that a bundle copies is there. -/
structure Complete (suite : Value) (results : List Value) : Prop where
  totals : ∀ key ∈ totalKeys, suite.get key ≠ .undefined
  cases : ∀ r ∈ results, (∀ key ∈ caseKeys, r.get key ≠ .undefined) ∧
    ∀ key ∈ hashedKeys, (r.get key).get "canonical_hash" ≠ .undefined

/-- The bundle of the suite is compiled, and verifies after it has been written and read. -/
def SurvivesWriting (rt : Runtime) (read : String → Option Number) (suite : Value) : Prop :=
  ∃ own, compileOperatorReviewBundle rt suite {} = .ok (.obj own) ∧ Survives rt read .undefined own

/-- The bundle of a suite with these results, before it is signed. -/
def bundleOf (suite : Value) (results : List Value) : Fields :=
  bundleFields suite (generatedAt {} suite) (results.map (fun r => .obj (caseFields r)))

/-! ## Values that are copied -/

theorem get_of_isJson {v : Value} (h : IsJson v) (key : String) :
    v.get key = .undefined ∨ IsJson (v.get key) := by
  cases v with
  | obj fields =>
      rw [isJson_obj] at h
      rw [Value.get]
      cases hlookup : fields.lookup key with
      | none => exact Or.inl rfl
      | some w =>
          obtain ⟨before, after, rfl, _⟩ := List.lookup_eq_some_iff.mp hlookup
          exact Or.inr (h.2 (key, w) (by simp))
  | _ => exact Or.inl rfl

theorem get_get_of_isJson {v : Value} (h : IsJson v) (key other : String) :
    (v.get key).get other = .undefined ∨ IsJson ((v.get key).get other) := by
  rcases get_of_isJson h key with hnone | hjson
  · rw [hnone]
    exact Or.inl rfl
  · exact get_of_isJson hjson other

theorem numbersOf_get (v : Value) (key : String) : ∀ q ∈ numbersOf (v.get key), q ∈ numbersOf v := by
  intro q hq
  cases v with
  | obj fields =>
      rw [Value.get] at hq
      cases hlookup : fields.lookup key with
      | none =>
          rw [hlookup] at hq
          exact absurd hq List.not_mem_nil
      | some w =>
          rw [hlookup, Option.getD_some] at hq
          obtain ⟨before, after, rfl, _⟩ := List.lookup_eq_some_iff.mp hlookup
          exact mem_numbersOf_obj.mpr ⟨(key, w), by simp, hq⟩
  | _ => exact absurd hq List.not_mem_nil

theorem loose_of_isJson (v : Value) : IsJson v → Loose v := by
  induction v using Value.induction with
  | undefined => exact fun h => h.elim
  | arr items ih =>
      intro h
      rw [isJson_arr] at h
      exact (loose_arr items).mpr fun v hv => ih v hv (h v hv)
  | obj fields ih =>
      intro h
      rw [isJson_obj] at h
      exact (loose_obj fields).mpr ⟨h.1, fun field hfield => Or.inr (ih field hfield (h.2 field hfield))⟩
  | _ => exact fun _ => trivial

/-- A copied value is JSON exactly when it is there. -/
theorem isJson_iff_defined {v : Value} (h : v = .undefined ∨ IsJson v) :
    IsJson v ↔ v ≠ .undefined := by
  constructor
  · intro hjson hnone
    rw [hnone] at hjson
    exact hjson
  · exact h.resolve_left

/-! ## The fields of a bundle -/

section Fields

variable {P : Value → Prop}

theorem caseFields_forall_iff (hstr : ∀ s, P (.str s)) (r : Value) :
    (∀ field ∈ caseFields r, P field.2) ↔ (∀ key ∈ caseKeys, P (r.get key)) ∧
      ∀ key ∈ hashedKeys, P ((r.get key).get "canonical_hash") := by
  simp only [caseFields, caseKeys, hashedKeys, List.forall_mem_cons, List.not_mem_nil,
    false_imp_iff, implies_true, and_true, hstr, and_assoc]

theorem bundleFields_forall_iff (hstr : ∀ s, P (.str s)) (hbool : ∀ b, P (.bool b))
    (htexts : ∀ items, P (texts items)) (suite generated_at : Value) (cases : List Value) :
    (∀ field ∈ bundleFields suite generated_at cases, P field.2) ↔
      P generated_at ∧ (∀ key ∈ totalKeys, P (suite.get key)) ∧ P (.arr cases) := by
  have hidle : ∀ field ∈ idleWriters, P field.2 := by
    simp only [idleWriters, List.forall_mem_map, hbool, implies_true]
  simp only [bundleFields, boundaryFields, totalKeys, List.forall_mem_append,
    List.forall_mem_cons, List.not_mem_nil, false_imp_iff, implies_true, and_true, hstr, htexts,
    true_and, and_assoc]
  constructor
  · intro h
    obtain ⟨hat, htotal, hquarantined, hpassed, hfailed, _, hcases⟩ := h
    exact ⟨hat, htotal, hquarantined, hpassed, hfailed, hcases⟩
  · intro h
    obtain ⟨hat, htotal, hquarantined, hpassed, hfailed, hcases⟩ := h
    exact ⟨hat, htotal, hquarantined, hpassed, hfailed, hidle, hcases⟩

end Fields

theorem keys_caseFields (r : Value) : ((caseFields r).map Prod.fst).Nodup := by
  have hkeys : (caseFields r).map Prod.fst = ["candidate_id", "file", "risk", "verdict_state",
      "quarantine_required", "quarantine_route", "repair_mode", "quarantine_hash",
      "repair_packet_hash", "operator_action"] := rfl
  rw [hkeys]
  decide

def bundleKeys : List String :=
  (bundleFields .undefined .undefined []).map Prod.fst

theorem keys_bundleFields (suite generated_at : Value) (cases : List Value) :
    (bundleFields suite generated_at cases).map Prod.fst = bundleKeys := rfl

theorem nodup_bundleKeys : bundleKeys.Nodup := by decide +kernel

/-- A bundle has no field of a signature before it is signed. -/
theorem unsigned_bundleFields (suite generated_at : Value) (cases : List Value) :
    unsigned (bundleFields suite generated_at cases) = bundleFields suite generated_at cases := by
  have hapart : ∀ key ∈ bundleKeys, key ∉ signatureFields := by decide +kernel
  refine List.filter_eq_self.mpr fun field hfield => decide_eq_true (hapart field.1 ?_)
  rw [← keys_bundleFields suite generated_at cases]
  exact List.mem_map_of_mem hfield

section Bundle

variable {suite : Value} {results : List Value}

theorem isJson_texts (items : List String) : IsJson (texts items) := by
  rw [texts, isJson_arr]
  intro v hv
  obtain ⟨s, _, rfl⟩ := List.mem_map.mp hv
  trivial

theorem isJson_generatedAt (h : IsJson suite) : IsJson (generatedAt {} suite) := by
  have hnone : (Value.undefined).or (suite.get "generated_at") = suite.get "generated_at" := rfl
  rw [generatedAt, hnone, Value.or]
  cases htruthy : (suite.get "generated_at").truthy with
  | false => trivial
  | true =>
      refine (get_of_isJson h "generated_at").resolve_left fun hundefined => ?_
      rw [hundefined] at htruthy
      cases htruthy

theorem isJson_results (h : IsJson suite) (hresults : suite.get "results" = .arr results) :
    ∀ r ∈ results, IsJson r := by
  rcases get_of_isJson h "results" with hnone | hjson
  · rw [hresults] at hnone
    cases hnone
  · rw [hresults, isJson_arr] at hjson
    exact hjson

/-- The bundle is JSON but for fields that the suite lacks. -/
theorem loose_bundleOf (h : IsJson suite) (hresults : suite.get "results" = .arr results) :
    Loose (.obj (bundleOf suite results)) := by
  rw [loose_obj, bundleOf, keys_bundleFields]
  have hcopied : ∀ v : Value, v = .undefined ∨ IsJson v → v = .undefined ∨ Loose v :=
    fun v hv => hv.imp_right (loose_of_isJson v)
  refine ⟨nodup_bundleKeys, (bundleFields_forall_iff (P := fun v => v = .undefined ∨ Loose v)
    (fun _ => Or.inr trivial) (fun _ => Or.inr trivial)
    (fun items => Or.inr (loose_of_isJson _ (isJson_texts items))) _ _ _).mpr
    ⟨Or.inr (loose_of_isJson _ (isJson_generatedAt h)), fun key _ => hcopied _ (get_of_isJson h key),
      Or.inr ?_⟩⟩
  rw [loose_arr, List.forall_mem_map]
  intro r hr
  have hjson := isJson_results h hresults r hr
  rw [loose_obj]
  exact ⟨keys_caseFields r, (caseFields_forall_iff (P := fun v => v = .undefined ∨ Loose v)
    (fun _ => Or.inr trivial) r).mpr ⟨fun key _ => hcopied _ (get_of_isJson hjson key),
      fun key _ => hcopied _ (get_get_of_isJson hjson key _)⟩⟩

/-- It is JSON exactly when the suite lacks none. -/
theorem isJson_bundleOf_iff (h : IsJson suite) (hresults : suite.get "results" = .arr results) :
    IsJson (.obj (bundleOf suite results)) ↔ Complete suite results := by
  have hcase : ∀ r ∈ results, (IsJson (.obj (caseFields r)) ↔
      (∀ key ∈ caseKeys, r.get key ≠ .undefined) ∧
        ∀ key ∈ hashedKeys, (r.get key).get "canonical_hash" ≠ .undefined) := by
    intro r hr
    have hjson := isJson_results h hresults r hr
    rw [isJson_obj, and_iff_right (keys_caseFields r),
      caseFields_forall_iff (P := IsJson) (fun _ => trivial)]
    simp only [isJson_iff_defined (get_of_isJson hjson _),
      isJson_iff_defined (get_get_of_isJson hjson _ _)]
  rw [isJson_obj, bundleOf, keys_bundleFields, and_iff_right nodup_bundleKeys,
    bundleFields_forall_iff (P := IsJson) (fun _ => trivial) (fun _ => trivial) isJson_texts,
    and_iff_right (isJson_generatedAt h), isJson_arr, List.forall_mem_map]
  simp only [isJson_iff_defined (get_of_isJson h _)]
  constructor
  · intro hboth
    exact ⟨hboth.1, fun r hr => (hcase r hr).mp (hboth.2 r hr)⟩
  · intro hcomplete
    exact ⟨hcomplete.totals, fun r hr => (hcase r hr).mpr (hcomplete.cases r hr)⟩

/-- Its numbers are numbers of the suite. -/
theorem numbersOf_bundleOf (hresults : suite.get "results" = .arr results) :
    ∀ q ∈ numbersOf (.obj (bundleOf suite results)), q ∈ numbersOf suite := by
  have hget := numbersOf_get suite
  have hfields : ∀ field ∈ bundleOf suite results, ∀ q ∈ numbersOf field.2, q ∈ numbersOf suite := by
    refine (bundleFields_forall_iff (P := fun v => ∀ q ∈ numbersOf v, q ∈ numbersOf suite)
      (fun _ _ hq => absurd hq List.not_mem_nil) (fun _ _ hq => absurd hq List.not_mem_nil)
      (fun items q hq => ?_) _ _ _).mpr ⟨?_, fun key _ => hget key, ?_⟩
    · obtain ⟨v, hv, hq⟩ := mem_numbersOf_arr.mp hq
      obtain ⟨s, _, rfl⟩ := List.mem_map.mp hv
      exact absurd hq List.not_mem_nil
    · have hnone : (Value.undefined).or (suite.get "generated_at") = suite.get "generated_at" := rfl
      rw [generatedAt, hnone, Value.or]
      split
      · exact hget "generated_at"
      · exact fun _ hq => absurd hq List.not_mem_nil
    · intro q hq
      obtain ⟨c, hc, hq⟩ := mem_numbersOf_arr.mp hq
      obtain ⟨r, hr, rfl⟩ := List.mem_map.mp hc
      obtain ⟨field, hfield, hq⟩ := mem_numbersOf_obj.mp hq
      have hr' : ∀ q ∈ numbersOf r, q ∈ numbersOf suite := by
        intro q hq
        apply hget "results" q
        rw [hresults]
        exact mem_numbersOf_arr.mpr ⟨r, hr, hq⟩
      refine hr' q ((caseFields_forall_iff (P := fun v => ∀ q ∈ numbersOf v, q ∈ numbersOf r)
        (fun _ _ hq => absurd hq List.not_mem_nil) r).mpr ⟨fun key _ => numbersOf_get r key,
          fun key _ q hq => numbersOf_get r key q (numbersOf_get _ _ q hq)⟩ field hfield q hq)
  intro q hq
  obtain ⟨field, hfield, hq⟩ := mem_numbersOf_obj.mp hq
  exact hfields field hfield q hq

/-- The bundle is compiled unless some result has no properties. -/
theorem compile_bundleOf {rt : Runtime} (hsuite : ∃ v, suite.prop "results" = .ok v)
    (hresults : suite.get "results" = .arr results) (signed : Value) :
    compileOperatorReviewBundle rt suite {} = .ok signed ↔
      (∀ r ∈ results, ∃ id, r.prop "candidate_id" = .ok id) ∧
        signObject rt (bundleOf suite results) .undefined = .ok signed := by
  obtain ⟨v, hv⟩ := hsuite
  have hprop : suite.prop "results" = .ok (.arr results) := by
    rw [← hresults]
    exact Value.prop_eq_get hv "results"
  have harray : (Value.arr results).asArray = .ok results := rfl
  have hcompile : ∀ r id, r.prop "candidate_id" = .ok id →
      compileCase r = .ok (.obj (caseFields r)) := by
    intro r id hid
    rw [compileCase, hid]
    rfl
  rw [compileOperatorReviewBundle, hprop, ok_bind, harray, ok_bind, bind_eq_ok]
  constructor
  · intro h
    obtain ⟨cases, hcases, hsigned⟩ := h
    have hread : ∀ r ∈ results, ∃ id, r.prop "candidate_id" = .ok id := by
      intro r hr
      obtain ⟨c, _, hc⟩ := exists_of_mem_of_mapM hcases hr
      obtain ⟨id, hid, _⟩ := bind_eq_ok.mp hc
      exact ⟨id, hid⟩
    have hmapped := mapM_eq_ok_map (f := compileCase) fun r hr => (hread r hr).elim (hcompile r)
    obtain rfl := Except.ok.inj (hmapped.symm.trans hcases)
    exact ⟨hread, hsigned⟩
  · intro h
    obtain ⟨hread, hsigned⟩ := h
    exact ⟨_, mapM_eq_ok_map fun r hr => (hread r hr).elim (hcompile r), hsigned⟩

/-- A bundle survives being written exactly when its suite has every field it copies. -/
theorem survivesWriting_iff {rt : Runtime} {read : String → Option Number} {fields : Fields}
    (hsuite : suite = .obj fields) (hjson : IsJson suite)
    (hresults : suite.get "results" = .arr results)
    (hnum : ∀ q ∈ numbersOf suite, ReadsBack rt read q)
    (hsha : DigestSeparates rt (bundleOf suite results) (cleanedFields (bundleOf suite results))) :
    SurvivesWriting rt read suite ↔ Complete suite results := by
  have hread : ∃ v, suite.prop "results" = .ok v := by
    rw [hsuite]
    exact ⟨_, rfl⟩
  have hunsigned : unsigned (bundleOf suite results) = bundleOf suite results :=
    unsigned_bundleFields _ _ _
  have hstored : ∀ own, signObject rt (bundleOf suite results) .undefined = .ok (.obj own) →
      (Survives rt read .undefined own ↔ Complete suite results) := by
    intro own hsigned
    rw [survives_iff hsigned, hunsigned, isJson_bundleOf_iff hjson hresults]
    · rw [hunsigned]
      exact loose_bundleOf hjson hresults
    · rw [hunsigned]
      exact fun q hq => hnum q (numbersOf_bundleOf hresults q hq)
    · rw [hunsigned]
      exact hsha
  constructor
  · intro h
    obtain ⟨own, hcompile, hsurvives⟩ := h
    exact (hstored own ((compile_bundleOf hread hresults _).mp hcompile).2).mp hsurvives
  · intro hcomplete
    obtain ⟨own, hsigned, _⟩ := exists_signObject rt (bundleOf suite results) seedText_undefined
    refine ⟨own, (compile_bundleOf hread hresults _).mpr ⟨?_, hsigned⟩, (hstored own hsigned).mpr
      hcomplete⟩
    intro r hr
    have hid := (hcomplete.cases r hr).1 "candidate_id" (by decide)
    cases r with
    | undefined => exact absurd rfl hid
    | null => exact absurd rfl hid
    | _ => exact ⟨_, rfl⟩

end Bundle

/-! ## A result without its repair packet -/

def lackingResult : Value :=
  .obj [("file", .str "a.json"), ("candidate_id", .str "candidate-1"), ("risk", .str "GREEN"),
    ("verdict_state", .str "ADMISSIBLE_REPORT_ONLY"), ("quarantine_required", .bool false),
    ("quarantine_route", .str "NONE"), ("repair_mode", .str "NONE"),
    ("quarantine", .obj [("canonical_hash", .str "0f")])]

def lackingFields : Fields :=
  [("total", .num 1), ("quarantined", .num 0), ("passed_without_quarantine", .num 1),
    ("failed", .num 0), ("results", .arr [lackingResult])]

/-- Reads the two numerals of the suite. -/
def readBit (text : String) : Option Number :=
  if text = "0" then some 0 else if text = "1" then some 1 else none

theorem isJson_lackingFields : IsJson (.obj lackingFields) := by
  rw [isJson_obj]
  simp [lackingFields, lackingResult, IsJson, ItemsJson, FieldsJson]

theorem readsBack_lackingFields : ∀ q ∈ numbersOf (.obj lackingFields), ReadsBack .ascii readBit q := by
  have hzero : ReadsBack .ascii readBit 0 := ⟨by decide, by decide, by decide⟩
  have hone : ReadsBack .ascii readBit 1 := ⟨by decide, by decide, by decide⟩
  have hnumbers : numbersOf (.obj lackingFields) = [1, 0, 1, 0] := rfl
  rw [hnumbers]
  simp only [List.forall_mem_cons]
  exact ⟨hone, hzero, hone, hzero, fun _ h => absurd h List.not_mem_nil⟩

theorem survivesWriting_iff_lackingFields :
    SurvivesWriting .ascii readBit (.obj lackingFields) ↔
      Complete (.obj lackingFields) [lackingResult] :=
  survivesWriting_iff rfl isJson_lackingFields rfl readsBack_lackingFields
    (digestSeparates_ascii _ _)

/-- The bundle of this suite verifies in memory only. -/
theorem lackingFields_not_survivesWriting :
    ¬ SurvivesWriting .ascii readBit (.obj lackingFields) := by
  have hresults : (Value.obj lackingFields).get "results" = .arr [lackingResult] := rfl
  rw [survivesWriting_iff rfl isJson_lackingFields hresults readsBack_lackingFields
    (digestSeparates_ascii _ _)]
  intro h
  exact (h.cases lackingResult List.mem_cons_self).2 "repair_packet" (by decide) rfl

end Admissorium.Pipeline.StoredBundle
