import Admissorium.Hostile.Evaluation

/-!
# What the evaluator answers

Once the candidate is made and its classes are sorted, every compiler is reached by one of
its calls. The receipt is compiled from an object without a state, so it admits nothing.
-/
namespace Admissorium.Hostile
set_option autoImplicit false

open JavaScript Json Classify LanguageBoundary Signing Verdict Verdict.Admission
  Pipeline.QuarantineSuite

/-! ## Members of sets -/

theorem strictEquals_of_str (s : String) (v : Value) :
    (Value.str s).strictEquals v = true ↔ v = .str s := by
  cases v <;> simp [Value.strictEquals, eq_comm]

theorem mem_addTo_str (set : List Value) (v : Value) (s : String) :
    .str s ∈ addTo set v ↔ .str s ∈ set ∨ v = .str s := by
  unfold addTo
  split
  · rename_i h
    refine ⟨Or.inl, fun hcase => hcase.elim id ?_⟩
    rintro rfl
    obtain ⟨w, hw, he⟩ := List.any_eq_true.mp h
    rw [(strictEquals_of_str s w).mp he] at hw
    exact hw
  · rw [List.mem_append, List.mem_singleton, @eq_comm _ (Value.str s)]

theorem mem_addAll_str (set vs : List Value) (s : String) :
    .str s ∈ addAll set vs ↔ .str s ∈ set ∨ .str s ∈ vs := by
  induction vs generalizing set with
  | nil => simp [addAll]
  | cons v vs ih =>
      have hstep : addAll set (v :: vs) = addAll (addTo set v) vs := rfl
      rw [hstep, ih, mem_addTo_str, List.mem_cons, @eq_comm _ (Value.str s), or_assoc]

/-- Sorting keeps the members. -/
theorem mem_sortValues {rt : Runtime} {vs sorted : List Value} (h : sortValues rt vs = .ok sorted)
    (v : Value) : v ∈ sorted ↔ v ∈ vs := by
  unfold sortValues at h
  split at h
  · cases h
    exact Iff.rfl
  · obtain ⟨keyed, hkeyed, h⟩ := bind_eq_ok.mp h
    cases h
    have hkeep : keyed.map Prod.snd = vs := by
      have hrel : List.Forall₂ (fun v kv => kv.2 = v) vs keyed := by
        refine forall₂_of_mapM hkeyed (List.forall₂_same.mpr (fun v _ => (rfl : v = v))) ?_
        rintro v _ kv rfl hkv
        obtain ⟨text, _, hkv⟩ := bind_eq_ok.mp hkv
        cases hkv
        rfl
      rw [map_eq_of_forall₂ hrel (fun _ _ h => h), List.map_id']
    have hperm := (List.perm_insertionSort (fun a b : String × Value => textLe a.1 b.1) keyed).map
      Prod.snd
    rw [hperm.mem_iff, hkeep]

/-- Texts can always be sorted. -/
theorem exists_sortValues (rt : Runtime) {vs : List Value} (h : ∀ v ∈ vs, ∃ s, v = .str s) :
    ∃ sorted, sortValues rt vs = .ok sorted := by
  unfold sortValues
  split
  · exact ⟨_, rfl⟩
  · have hkeyed : ∃ keyed, vs.mapM (fun v => do return (← Value.toText rt v, v)) = .ok keyed := by
      refine exists_mapM_eq_ok (fun v hv => ?_)
      obtain ⟨s, rfl⟩ := h v hv
      exact ⟨(s, .str s), rfl⟩
    obtain ⟨keyed, hkeyed⟩ := hkeyed
    exact exists_bind_ok hkeyed ⟨_, rfl⟩

theorem addTo_subset {set : List Value} {v w : Value} (h : w ∈ addTo set v) : w ∈ set ∨ w = v := by
  unfold addTo at h
  split at h
  · exact Or.inl h
  · simpa using h

theorem addAll_subset {set vs : List Value} {w : Value} (h : w ∈ addAll set vs) :
    w ∈ set ∨ w ∈ vs := by
  induction vs generalizing set with
  | nil => exact Or.inl h
  | cons v vs ih =>
      rcases ih (show w ∈ addAll (addTo set v) vs from h) with h | h
      · rcases addTo_subset h with h | rfl
        · exact Or.inl h
        · exact Or.inr List.mem_cons_self
      · exact Or.inr (List.mem_cons_of_mem _ h)

/-! ## The classes -/

section Classes
variable {rt : Runtime} {fixture : Value} {candidate : Candidate} {found : Findings}

/-- The classes the classifiers name, of those the battery knows. -/
def NamedBy (found : Findings) (s : String) : Prop :=
  s ∈ baseClasses ∧ ((∃ c, (c ∈ found.mutation.red_classes ∨ c ∈ found.mutation.classes) ∧
    c.text = s) ∨ s ∈ found.risk0.reasons)

/-- The lists the evaluator reads of the three classifiers. -/
theorem listed_classes (found : Findings) :
    [found.surface.toValue, found.mutation.toValue, found.risk0.toValue].flatMap (fun object =>
      ["red_classes", "classes", "reasons"].flatMap (fun key => itemsOr (object.get key))) =
    found.mutation.red_classes.map (fun c => .str c.text) ++
      (found.mutation.classes.map (fun c => .str c.text) ++ found.risk0.reasons.map .str) := by
  have hsurface : ["red_classes", "classes", "reasons"].flatMap
      (fun key => itemsOr (found.surface.toValue.get key)) = [] := rfl
  have hmutation : ["red_classes", "classes", "reasons"].flatMap
      (fun key => itemsOr (found.mutation.toValue.get key)) =
      found.mutation.red_classes.map (fun c => .str c.text) ++
        (found.mutation.classes.map (fun c => .str c.text) ++ ([] ++ [])) := rfl
  have hrisk : ["red_classes", "classes", "reasons"].flatMap
      (fun key => itemsOr (found.risk0.toValue.get key)) =
      [] ++ ([] ++ (found.risk0.reasons.map .str ++ [])) := rfl
  rw [List.flatMap_cons, hsurface, List.flatMap_cons, hmutation, List.flatMap_cons, hrisk]
  simp

theorem mem_baseRedClasses (found : Findings) (s : String) :
    .str s ∈ baseRedClasses [found.surface.toValue, found.mutation.toValue, found.risk0.toValue] ↔
      NamedBy found s := by
  have hknown : (baseClasses.any (fun name => (Value.str s).strictEquals (.str name))) = true ↔
      s ∈ baseClasses := by
    rw [List.any_eq_true]
    simp [Value.strictEquals]
  rw [baseRedClasses, mem_addAll_str, listed_classes, List.mem_filter, hknown, NamedBy,
    and_comm]
  simp [or_and_right, exists_or, or_assoc]

theorem text_of_mem_baseRedClasses {objects : List Value} {v : Value}
    (h : v ∈ baseRedClasses objects) : ∃ s, v = .str s := by
  rcases addAll_subset h with h | h
  · cases h
  · obtain ⟨name, _, he⟩ := List.any_eq_true.mp (List.mem_filter.mp h).2
    exact ⟨name, (Value.strictEquals_str v name).mp he⟩

/-- The candidate of a fixture has no files. -/
theorem no_files (candidate : Candidate) : candidate.toValue.get "files" = .undefined := rfl

theorem classified_of_findClasses (h : findClasses rt fixture candidate = .ok found) :
    Classified rt candidate.toValue found.surface found.mutation found.risk0 := by
  obtain ⟨surface, hs, h⟩ := bind_eq_ok.mp h
  obtain ⟨mutation, hm, h⟩ := bind_eq_ok.mp h
  obtain ⟨risk0, hr, h⟩ := bind_eq_ok.mp h
  obtain ⟨_, _, h⟩ := bind_eq_ok.mp h
  obtain ⟨_, _, h⟩ := bind_eq_ok.mp h
  cases h
  exact ⟨hs, hm, hr⟩

/-- A class is named by the classifiers, detected by the battery, or required by the fixture. -/
theorem mem_red_classes_iff (h : findClasses rt fixture candidate = .ok found) :
    ∃ required, iterate ((fixture.get "expected").get "required_red_classes") = .ok required ∧
      ∀ s, .str s ∈ found.red_classes ↔
        NamedBy found s ∨ s ∈ detectedClasses (hostileText rt candidate) ∨ .str s ∈ required := by
  obtain ⟨surface, _, h⟩ := bind_eq_ok.mp h
  obtain ⟨mutation, _, h⟩ := bind_eq_ok.mp h
  obtain ⟨risk0, _, h⟩ := bind_eq_ok.mp h
  obtain ⟨hostile, hhostile, hfound⟩ := bind_eq_ok.mp h
  obtain ⟨required, hrequired, hset⟩ := bind_eq_ok.mp hhostile
  cases hset
  obtain ⟨red_classes, hsorted, hall⟩ := bind_eq_ok.mp hfound
  cases hall
  refine ⟨required, hrequired, fun s => ?_⟩
  have hbase := mem_baseRedClasses ⟨surface, mutation, risk0, red_classes⟩ s
  rw [mem_sortValues hsorted, mem_addAll_str, hbase, mem_addAll_str, List.mem_append]
  simp

end Classes

/-! ## The calls -/

section Calls
variable {rt : Runtime} {name : String} {attempts : List (String × Except JsError Value)}
  {errors : List String}

theorem isObject_callCompat {v : Value} (h : callCompat name attempts errors = .ok v) :
    isObject v = true := by
  induction attempts generalizing errors with
  | nil => cases h
  | cons attempt rest ih =>
      obtain ⟨label, answer⟩ := attempt
      cases answer with
      | error e => exact ih h
      | ok w =>
          by_cases hw : isObject w = true
          · rw [callCompat, if_pos hw] at h
            cases h
            exact hw
          · rw [callCompat, if_neg hw] at h
            exact ih h

theorem isObject_obj (own : Fields) : isObject (.obj own) = true := rfl

/-- The first attempt is the answer if it is an object. -/
theorem callCompat_of_first {label : String} {answer : Except JsError Value} {v : Value}
    (h : answer = .ok v) (hv : isObject v = true) :
    callCompat name ((label, answer) :: attempts) errors = .ok v := by
  rw [h, callCompat, if_pos hv]

/-- One attempt that answers with an object is enough. -/
theorem exists_callCompat {label : String} {v : Value} (hm : (label, .ok v) ∈ attempts)
    (hv : isObject v = true) : ∃ w, callCompat name attempts errors = .ok w := by
  induction attempts generalizing errors with
  | nil => cases hm
  | cons attempt rest ih =>
      obtain ⟨other, answer⟩ := attempt
      rcases List.mem_cons.mp hm with he | hrest
      · cases he
        exact ⟨v, by rw [callCompat, if_pos hv]⟩
      · cases answer with
        | error e => exact ih hrest
        | ok w =>
            by_cases hw : isObject w = true
            · rw [callCompat, if_pos hw]
              exact ⟨w, rfl⟩
            · rw [callCompat, if_neg hw]
              exact ih hrest

theorem exists_prop_of_isObject {v : Value} (h : isObject v = true) (key : String) :
    ∃ w, v.prop key = .ok w := by
  cases v with
  | arr items => exact ⟨_, rfl⟩
  | obj fields => exact ⟨_, rfl⟩
  | _ => cases h

theorem exists_routeQuarantine (rt : Runtime) {verdict receipt : Value} (hv : isObject verdict = true)
    (hr : isObject receipt = true) :
    ∃ own, routeQuarantine rt verdict receipt {} = .ok (.obj own) := by
  obtain ⟨_, hstate⟩ := exists_prop_of_isObject hv "state"
  obtain ⟨_, hadmission⟩ := exists_prop_of_isObject hr "admission"
  obtain ⟨own, hown, _⟩ := exists_signObject rt (quarantineFields verdict receipt {})
    seedText_undefined
  refine ⟨own, ?_⟩
  rw [routeQuarantine, hstate, ok_bind, hadmission, ok_bind]
  exact hown

theorem exists_compileDryRunRepairPacket (rt : Runtime) {verdict receipt quarantine : Value}
    (hv : isObject verdict = true) (hr : isObject receipt = true) (hq : isObject quarantine = true) :
    ∃ own, compileDryRunRepairPacket rt verdict receipt quarantine {} = .ok (.obj own) := by
  obtain ⟨_, hstate⟩ := exists_prop_of_isObject hv "state"
  obtain ⟨_, hroute⟩ := exists_prop_of_isObject hq "route"
  obtain ⟨_, hhash⟩ := exists_prop_of_isObject hr "canonical_hash"
  obtain ⟨own, hown, _⟩ := exists_signObject rt (repairFields verdict receipt quarantine {})
    seedText_undefined
  refine ⟨own, ?_⟩
  rw [compileDryRunRepairPacket, hstate, ok_bind, hroute, ok_bind, hhash, ok_bind]
  exact hown

/-- The last of the shapes tried is the one the router has. -/
theorem exists_quarantine (rt : Runtime) (args : Arguments) {verdict receipt : Value}
    (hv : isObject verdict = true) (hr : isObject receipt = true) :
    ∃ quarantine, callCompat "routeQuarantine" (quarantineAttempts rt args verdict receipt) [] =
      .ok quarantine := by
  obtain ⟨routed, hrouted⟩ := exists_routeQuarantine rt hv hr
  have hm : ("verdict-receipt", .ok (.obj routed)) ∈ quarantineAttempts rt args verdict receipt := by
    rw [← hrouted]
    exact List.mem_of_getLast? rfl
  exact exists_callCompat hm rfl

theorem exists_repair (rt : Runtime) (args : Arguments) {verdict receipt quarantine : Value}
    (hv : isObject verdict = true) (hr : isObject receipt = true) (hq : isObject quarantine = true) :
    ∃ repair, callCompat "compileDryRunRepairPacket"
      (repairAttempts rt args verdict receipt quarantine) [] = .ok repair := by
  obtain ⟨packet, hpacket⟩ := exists_compileDryRunRepairPacket rt hv hr hq
  have hm : ("verdict-receipt-quarantine", .ok (.obj packet)) ∈
      repairAttempts rt args verdict receipt quarantine := by
    rw [← hpacket]
    exact List.mem_of_getLast? rfl
  exact exists_callCompat hm rfl

/-! ## The admission that is read -/

theorem admissionIsPositive_undefined (rt : Runtime) :
    admissionIsPositive rt .undefined = .ok false := by
  have hupper : rt.toUpperCase "" = "" := rt.toUpperCase_fixed rfl rfl
  change Except.ok _ = _
  rw [hupper]
  rfl

theorem admissionIsPositive_notAdmitted (rt : Runtime) :
    admissionIsPositive rt (.str "NOT_ADMITTED") = .ok false := by
  have hupper : rt.toUpperCase "NOT_ADMITTED" = "NOT_ADMITTED" :=
    rt.toUpperCase_fixed (by decide) (by decide)
  change Except.ok _ = _
  rw [hupper]
  rfl

/-- A verdict has no field the evaluator reads, and a receipt compiled from an object without
a state admits nothing. -/
theorem not_admitted {args verdict receipt : Value} {wrapped : Fields}
    (hv : compileActuatorVerdict rt args {} = .ok verdict)
    (hr : compileAdmissionReceipt rt (.obj wrapped) {} = .ok receipt)
    (hstate : (Value.obj wrapped).get "state" = .undefined) :
    (admissionReads verdict receipt).anyM (admissionIsPositive rt) = .ok false := by
  obtain ⟨_, _, _, _, hverdict⟩ := get_of_verdict hv
  obtain ⟨digest, hreceipt⟩ := get_of_receipt hr
  have hunread : ∀ key ∈ ["admitted", "admission", "verdict", "decision"],
      verdict.get key = .undefined := by
    simp only [List.forall_mem_cons]
    exact ⟨hverdict _ (by decide), hverdict _ (by decide), hverdict _ (by decide),
      hverdict _ (by decide), nofun⟩
  have hadmitted : receipt.get "admitted" = .undefined := hreceipt _ (by decide)
  have hdecision : receipt.get "decision" = .undefined := hreceipt _ (by decide)
  have hadmission : receipt.get "admission" = .str "NOT_ADMITTED" := by
    rw [hreceipt _ (by decide), admission_eq, hstate]
    rfl
  rw [anyM_eq_false_iff]
  intro v hv
  rw [admissionReads, List.mem_append] at hv
  rcases hv with hv | hv
  · obtain ⟨key, hkey, rfl⟩ := List.mem_map.mp hv
    rw [hunread key hkey]
    exact admissionIsPositive_undefined rt
  · rw [List.map_cons, List.map_cons, List.map_cons, hadmitted, hadmission, hdecision] at hv
    simp only [List.map_nil, List.mem_cons, List.not_mem_nil, or_false] at hv
    rcases hv with rfl | rfl | rfl
    · exact admissionIsPositive_undefined rt
    · exact admissionIsPositive_notAdmitted rt
    · exact admissionIsPositive_undefined rt

end Calls

/-! ## The whole evaluation -/

/-- The fixture expects nothing, or no more than that these classes are found. -/
def Requires (fixture : Value) (names : List String) : Prop :=
  fixture.get "expected" = .undefined ∧ names = [] ∨
    fixture.get "expected" = .obj [("required_red_classes", .arr (names.map .str))]

section Requires
variable {fixture : Value} {names : List String} (h : Requires fixture names)
include h

theorem Requires.iterate :
    iterate ((fixture.get "expected").get "required_red_classes") = .ok (names.map .str) := by
  rcases h with ⟨h, rfl⟩ | h
  · rw [h]
    rfl
  · rw [h]
    rfl

theorem Requires.exists_failures (rt : Runtime) (risk : String) (red_classes : List Value)
    (admitted : Bool) (flags : List (String × Bool)) :
    ∃ failures, failuresOf rt ((fixture.get "expected").or (.obj [])) risk red_classes admitted
      flags = .ok failures := by
  rcases h with ⟨h, rfl⟩ | h
  · rw [h]
    exact ⟨_, rfl⟩
  · obtain ⟨missing, hmissing⟩ : ∃ missing, ((names.map Value.str).filter
        (fun cls => !includesValue rt red_classes cls)).mapM (fun cls => do
          return "missing_red_class_" ++ (← cls.toText rt)) = .ok missing := by
      refine exists_mapM_eq_ok (fun v hv => ?_)
      obtain ⟨s, _, rfl⟩ := List.mem_map.mp (List.mem_filter.mp hv).1
      exact ⟨_, rfl⟩
    rw [h]
    refine ⟨missing ++ [], ?_⟩
    apply (bind_of_ok (a := []) rfl).trans
    apply (bind_of_ok (a := names.map Value.str) rfl).trans
    apply (bind_of_ok hmissing).trans
    rfl

end Requires

section Whole
variable {rt : Runtime} {fixture : Value} {candidate : Candidate} {found : Findings}

theorem exists_verdict_of_arguments (rt : Runtime) (args : Arguments) :
    ∃ verdict, compileActuatorVerdict rt (.obj args.fields) {} = .ok (.obj verdict) := by
  have hfiles : (Value.obj args.fields).get "files" = .undefined := rfl
  obtain ⟨text, hread⟩ := reads_of_no_files rt hfiles
  obtain ⟨surface, mutation, risk, hclass⟩ := exists_classified_of_reads hread
  have hseed : seedText (CompileOptions.signing_seed {}) = .ok _ := seedText_undefined
  exact exists_compiled hseed hclass

/-- A fixture whose classes are found is evaluated but for the failures, and never admitted. -/
theorem evaluate_eq (hc : makeCandidate rt fixture = .ok candidate)
    (hf : findClasses rt fixture candidate = .ok found) :
    ∃ flags, evaluateHostileFixture rt fixture =
      (failuresOf rt ((fixture.get "expected").or (.obj [])) found.riskText found.red_classes false
        flags >>= fun failures => .ok {
          fixture := fixtureName fixture
          failures
          risk := found.riskText
          red_classes := found.red_classes
          admitted := false
          flags }) := by
  obtain ⟨args, hargs⟩ : ∃ args : Arguments, args =
    ⟨candidate.toValue, found.surface.toValue, found.widened, found.risk⟩ := ⟨_, rfl⟩
  have hseed : seedText (CompileOptions.signing_seed {}) = .ok _ := seedText_undefined
  obtain ⟨verdict, hv⟩ := exists_verdict_of_arguments rt args
  have hverdict : callCompat "compileActuatorVerdict" (verdictAttempts rt args) [] =
      .ok (.obj verdict) := callCompat_of_first hv (isObject_obj verdict)
  obtain ⟨own, hr⟩ := exists_receipt_of_fields rt hseed (args.fields ++ [("verdict", .obj verdict)])
  have hreceipt : callCompat "compileAdmissionReceipt" (receiptAttempts rt args (.obj verdict)) [] =
      .ok (.obj own) := callCompat_of_first hr (isObject_obj own)
  obtain ⟨quarantine, hquarantine⟩ := exists_quarantine rt args (isObject_obj verdict)
    (isObject_obj own)
  obtain ⟨repair, hrepair⟩ := exists_repair rt args (isObject_obj verdict)
    (isObject_obj own) (isObject_callCompat hquarantine)
  have hadmitted := not_admitted hv hr rfl
  refine ⟨flagNames.map (fun key => (key, trueInAny key [args.surface, args.mutation, args.risk,
    .obj verdict, .obj own, quarantine, repair])), ?_⟩
  subst hargs
  rw [evaluateHostileFixture, hc, ok_bind, hf, ok_bind]
  apply (bind_of_ok hverdict).trans
  apply (bind_of_ok hreceipt).trans
  apply (bind_of_ok hquarantine).trans
  apply (bind_of_ok hrepair).trans
  exact (bind_of_ok hadmitted).trans rfl

/-- No fixture is ever admitted. -/
theorem never_admitted {result : HostileResult}
    (h : evaluateHostileFixture rt fixture = .ok result) : result.admitted = false := by
  obtain ⟨candidate, hc, hrest⟩ := bind_eq_ok.mp h
  obtain ⟨found, hf, _⟩ := bind_eq_ok.mp hrest
  obtain ⟨flags, he⟩ := evaluate_eq hc hf
  rw [he] at h
  obtain ⟨_, _, h⟩ := bind_eq_ok.mp h
  cases h
  rfl

theorem exists_findClasses (rt : Runtime) {names : List String} (h : Requires fixture names)
    (candidate : Candidate) : ∃ found, findClasses rt fixture candidate = .ok found := by
  obtain ⟨text, hread⟩ := reads_of_no_files rt (no_files candidate)
  obtain ⟨surface, mutation, risk0, hclass⟩ := exists_classified_of_reads hread
  have hhostile : hostileRedClasses rt fixture candidate =
      .ok (addAll [] ((detectedClasses (hostileText rt candidate)).map .str ++ names.map .str)) := by
    rw [hostileRedClasses, h.iterate, ok_bind]
    rfl
  have htexts : ∀ v ∈ addAll (baseRedClasses [surface.toValue, mutation.toValue, risk0.toValue])
      (addAll [] ((detectedClasses (hostileText rt candidate)).map .str ++ names.map .str)),
      ∃ s, v = .str s := by
    intro v hv
    rcases addAll_subset hv with hbase | hhostile
    · exact text_of_mem_baseRedClasses hbase
    · rcases addAll_subset hhostile with hnil | hlisted
      · cases hnil
      · rw [← List.map_append] at hlisted
        obtain ⟨s, _, rfl⟩ := List.mem_map.mp hlisted
        exact ⟨s, rfl⟩
  obtain ⟨red_classes, hsorted⟩ := exists_sortValues rt htexts
  exact exists_bind_ok hclass.surface_eq (exists_bind_ok hclass.mutation_eq
    (exists_bind_ok hclass.risk_eq (exists_bind_ok hhostile (exists_bind_ok hsorted ⟨_, rfl⟩))))

/-- A fixture that expects no more than classes is evaluated. -/
theorem exists_evaluate {names : List String} (h : Requires fixture names)
    (hc : makeCandidate rt fixture = .ok candidate) :
    ∃ found result, findClasses rt fixture candidate = .ok found ∧
      evaluateHostileFixture rt fixture = .ok result ∧ result.red_classes = found.red_classes := by
  obtain ⟨found, hf⟩ := exists_findClasses rt h candidate
  obtain ⟨flags, he⟩ := evaluate_eq hc hf
  obtain ⟨failures, hfailures⟩ := h.exists_failures rt found.riskText found.red_classes false flags
  exact ⟨found, _, hf, he.trans (bind_of_ok hfailures), rfl⟩

end Whole

end Admissorium.Hostile
