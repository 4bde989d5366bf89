import Admissorium.Verdict

/-!
# What is admitted

A verdict is what the classifiers read and find, under a signature; a receipt repeats what
the verdict says. A candidate is admitted when it can be read and nothing in it is a reason.
-/
namespace Admissorium.Verdict.Admission
set_option autoImplicit false

open JavaScript Classify LanguageBoundary Signing

/-- The paths and the text of a candidate, which the classifiers can read. -/
structure Reads (rt : Runtime) (candidate : Value) (paths : List Value) (text : String) : Prop where
  paths_eq : candidatePaths candidate = .ok paths
  text_eq : dangerText rt candidate = .ok text
  readable : AllReadable paths

/-- Nothing in the paths and the text is a reason. -/
structure Calm (paths : List Value) (text : String) : Prop where
  truth : ¬ TouchesTruth paths
  text : ¬ RedText text

/-- What the three classifiers find. -/
structure Classified (rt : Runtime) (candidate : Value) (surface : Surface) (mutation : Mutation)
    (risk : TruthRisk) : Prop where
  surface_eq : classifySurface rt candidate = .ok surface
  mutation_eq : classifyMutation rt candidate surface = .ok mutation
  risk_eq : classifyTruthRisk candidate surface mutation = .ok risk

def candidateId (candidate : Value) : Value :=
  (((candidate.get "id").or (candidate.get "candidate_id")).or (candidate.get "name")).or
    (.str "candidate-unknown")

section Admission
variable {rt : Runtime} {candidate : Value} {paths : List Value} {text : String}
  {surface : Surface} {mutation : Mutation} {risk : TruthRisk} {options : CompileOptions}

/-! ## Classification -/

theorem Reads.unique {paths' : List Value} {text' : String} (h : Reads rt candidate paths text)
    (h' : Reads rt candidate paths' text') : paths' = paths ∧ text' = text :=
  ⟨Except.ok.inj (h'.paths_eq.symm.trans h.paths_eq), Except.ok.inj (h'.text_eq.symm.trans h.text_eq)⟩

theorem not_calm_iff : ¬ Calm paths text ↔ TouchesTruth paths ∨ RedText text := by
  constructor
  · intro hcalm
    by_contra hnone
    rw [not_or] at hnone
    exact hcalm ⟨hnone.1, hnone.2⟩
  · exact fun hreason hcalm => hreason.elim hcalm.truth hcalm.text

theorem reads_of_surface (h : classifySurface rt candidate = .ok surface) :
    ∃ paths text, Reads rt candidate paths text ∧
      (surface.truth_path_touched = true ↔ TouchesTruth paths) ∧
      surface.sovereign_language_detected = includesSome dangerPhrases text := by
  obtain ⟨paths, text, hp, ht, hread, htouch, hlanguage⟩ := classifySurface_ok h
  exact ⟨paths, text, ⟨hp, ht, hread⟩, htouch, hlanguage⟩

/-- An object without files has no paths, and can be read. -/
theorem reads_of_no_files (rt : Runtime) {fields : Fields}
    (h : (Value.obj fields).get "files" = .undefined) : ∃ text, Reads rt (.obj fields) [] text := by
  obtain ⟨text, htext⟩ := exists_dangerText rt fields
  have hfiles : Value.prop (.obj fields) "files" = .ok .undefined := by
    rw [← h]
    rfl
  have hpaths : candidatePaths (.obj fields) = .ok [] := by
    rw [candidatePaths, hfiles]
    rfl
  exact ⟨text, hpaths, htext, trivial, trivial, trivial, trivial⟩

/-- A candidate the first classifier accepts is classified. -/
theorem exists_classified (h : classifySurface rt candidate = .ok surface) :
    ∃ mutation risk, Classified rt candidate surface mutation risk := by
  obtain ⟨paths, text, hread, _⟩ := reads_of_surface h
  obtain ⟨mutation, hm⟩ := exists_classifyMutation hread.paths_eq hread.text_eq surface
  obtain ⟨files, hfiles, _⟩ := bind_eq_ok.mp hread.paths_eq
  obtain ⟨risk, hr⟩ := exists_classifyTruthRisk hfiles surface mutation
  exact ⟨mutation, risk, h, hm, hr⟩

theorem exists_classified_of_reads (h : Reads rt candidate paths text) :
    ∃ surface mutation risk, Classified rt candidate surface mutation risk := by
  obtain ⟨surface, hs⟩ := exists_classifySurface h.paths_eq h.text_eq h.readable
  exact ⟨surface, exists_classified hs⟩

/-- The risk is green exactly when the candidate is calm. -/
theorem Classified.green_iff (h : Classified rt candidate surface mutation risk)
    (hread : Reads rt candidate paths text) : risk.risk = .green ↔ Calm paths text := by
  obtain ⟨_, _, hread', htouch, hlanguage⟩ := reads_of_surface h.surface_eq
  obtain ⟨rfl, rfl⟩ := hread.unique hread'
  have hred := risk_red_iff htouch hlanguage hread.text_eq h.mutation_eq h.risk_eq
  have hgreen : risk.risk = .green ↔ ¬ risk.risk = .red := by cases risk.risk <;> decide
  rw [hgreen, hred, not_or]
  exact ⟨fun hcalm => ⟨hcalm.1, hcalm.2⟩, fun hcalm => ⟨hcalm.truth, hcalm.text⟩⟩

theorem Classified.unique {surface' : Surface} {mutation' : Mutation} {risk' : TruthRisk}
    (h : Classified rt candidate surface mutation risk)
    (h' : Classified rt candidate surface' mutation' risk') :
    surface = surface' ∧ mutation = mutation' ∧ risk = risk' := by
  obtain rfl := Except.ok.inj (h.surface_eq.symm.trans h'.surface_eq)
  obtain rfl := Except.ok.inj (h.mutation_eq.symm.trans h'.mutation_eq)
  exact ⟨rfl, rfl, Except.ok.inj (h.risk_eq.symm.trans h'.risk_eq)⟩

/-! ## Verdicts and receipts -/

theorem verdictState_eq (risk : TruthRisk) : verdictState risk =
    match risk.risk with
    | .green => "ADMISSIBLE_REPORT_ONLY"
    | .red => "INADMISSIBLE_OR_QUARANTINE" := by
  rw [verdictState, blocked]
  cases risk.risk <;> rfl

/-- A verdict holds the fields that follow from the classifiers. -/
theorem get_of_verdict {verdict : Value} (h : compileActuatorVerdict rt candidate options = .ok verdict) :
    ∃ surface mutation risk, Classified rt candidate surface mutation risk ∧
      ∀ key, key ∉ signatureFields → verdict.get key =
        (Value.obj (verdictFields options (candidateId candidate) surface mutation risk)).get key := by
  obtain ⟨surface, hs, h⟩ := bind_eq_ok.mp h
  obtain ⟨mutation, hm, h⟩ := bind_eq_ok.mp h
  obtain ⟨risk, hr, h⟩ := bind_eq_ok.mp h
  obtain ⟨id, hid, h⟩ := bind_eq_ok.mp h
  have hread := Value.prop_eq_get hid
  rw [hread "candidate_id", hread "name", ← Except.ok.inj (hid.symm.trans (hread "id")).symm] at h
  exact ⟨surface, mutation, risk, ⟨hs, hm, hr⟩, fun key hk => get_of_signObject h hk⟩

/-- Every classified candidate has a verdict. -/
theorem exists_compiled {seed : String} (hseed : seedText options.signing_seed = .ok seed)
    (h : Classified rt candidate surface mutation risk) :
    ∃ own, compileActuatorVerdict rt candidate options = .ok (.obj own) := by
  obtain ⟨id, hid, _⟩ := bind_eq_ok.mp h.risk_eq
  have hread := Value.prop_eq_get hid
  obtain ⟨verdict, hsigned, _⟩ := exists_signObject rt
    (verdictFields options (candidateId candidate) surface mutation risk) hseed
  refine ⟨verdict, ?_⟩
  rw [compileActuatorVerdict, h.surface_eq, ok_bind, h.mutation_eq, ok_bind, h.risk_eq, ok_bind,
    hread "id", ok_bind, hread "candidate_id", ok_bind, hread "name", ok_bind]
  exact hsigned

/-- A receipt repeats the state of the verdict. -/
theorem get_of_receipt {verdict receipt : Value}
    (h : compileAdmissionReceipt rt verdict options = .ok receipt) :
    ∃ digest, ∀ key, key ∉ signatureFields →
      receipt.get key = (Value.obj (receiptFields digest verdict options)).get key := by
  obtain ⟨_, _, h⟩ := bind_eq_ok.mp h
  obtain ⟨digest, _, h⟩ := bind_eq_ok.mp h
  exact ⟨digest, fun key hk => get_of_signObject h hk⟩

/-- Every object has a receipt. -/
theorem exists_receipt_of_fields (rt : Runtime) {seed : String}
    (hseed : seedText options.signing_seed = .ok seed) (verdict : Fields) :
    ∃ own, compileAdmissionReceipt rt (.obj verdict) options = .ok (.obj own) := by
  obtain ⟨digest, hd⟩ := exists_objectDigest rt verdict
  obtain ⟨receipt, hsigned, _⟩ := exists_signObject rt
    (receiptFields digest (.obj verdict) options) hseed
  refine ⟨receipt, ?_⟩
  rw [compileAdmissionReceipt, bind_eq_ok]
  exact ⟨_, rfl, (bind_of_ok hd).trans hsigned⟩

theorem admission_eq (digest : String) (verdict : Value) :
    (Value.obj (receiptFields digest verdict options)).get "admission" =
      .str (if (verdict.get "state").strictEquals (.str "ADMISSIBLE_REPORT_ONLY")
        then "REPORT_ONLY_ADMISSION" else "NOT_ADMITTED") := by
  by_cases h : verdict.get "state" = .str "ADMISSIBLE_REPORT_ONLY"
  · rw [receiptFields, h]
    rfl
  · rw [if_neg (fun he => h ((Value.strictEquals_str _ _).mp he)), receiptFields]
    split
    · exact absurd ‹_› h
    · rfl

/-! ## Admission -/

/-- The receipt of the candidate's verdict admits it. -/
def Admitted (rt : Runtime) (candidate : Value) : Prop :=
  ∃ verdict receipt, compileActuatorVerdict rt candidate {} = .ok verdict ∧
    compileAdmissionReceipt rt verdict {} = .ok receipt ∧
    receipt.get "admission" = .str "REPORT_ONLY_ADMISSION"

theorem admission_of_verdict {verdict receipt : Value} {own : CompileOptions}
    (hv : compileActuatorVerdict rt candidate options = .ok verdict)
    (hr : compileAdmissionReceipt rt verdict own = .ok receipt)
    (h : Classified rt candidate surface mutation risk) :
    receipt.get "admission" =
      .str (if risk.risk = .green then "REPORT_ONLY_ADMISSION" else "NOT_ADMITTED") := by
  obtain ⟨_, _, risk', hclass, hget⟩ := get_of_verdict hv
  obtain ⟨_, _, rfl⟩ := h.unique hclass
  obtain ⟨digest, hreceipt⟩ := get_of_receipt hr
  have hstate : verdict.get "state" = .str (verdictState risk) := hget "state" (by decide)
  rw [hreceipt "admission" (by decide), admission_eq, hstate, verdictState_eq]
  cases risk.risk <;> rfl

/-- With no options the compilers sign with the local seed, and a candidate that is classified
has a verdict and a receipt. -/
theorem exists_admission (h : Classified rt candidate surface mutation risk) :
    ∃ verdict receipt, compileActuatorVerdict rt candidate {} = .ok verdict ∧
      compileAdmissionReceipt rt verdict {} = .ok receipt := by
  have hseed : seedText (CompileOptions.signing_seed {}) = .ok _ := seedText_undefined
  obtain ⟨verdict, hv⟩ := exists_compiled hseed h
  obtain ⟨receipt, hr⟩ := exists_receipt_of_fields rt hseed verdict
  exact ⟨_, _, hv, hr⟩

/-- A blocked state is a candidate that is not calm. -/
theorem inadmissible_iff {verdict : Value}
    (hv : compileActuatorVerdict rt candidate options = .ok verdict)
    (hread : Reads rt candidate paths text) :
    verdict.get "state" = .str "INADMISSIBLE_OR_QUARANTINE" ↔ ¬ Calm paths text := by
  obtain ⟨surface, mutation, risk, hclass, hget⟩ := get_of_verdict hv
  have hstate : verdict.get "state" = .str (verdictState risk) := hget "state" (by decide)
  rw [hstate, Value.str.injEq, verdictState_eq, ← hclass.green_iff hread]
  cases risk.risk <;> decide

/-- A candidate is admitted exactly when it can be read and is calm. -/
theorem admitted_iff : Admitted rt candidate ↔ ∃ paths text, Reads rt candidate paths text ∧
    Calm paths text := by
  constructor
  · intro h
    obtain ⟨verdict, receipt, hv, hr, hadmitted⟩ := h
    obtain ⟨surface, mutation, risk, hclass, _⟩ := get_of_verdict hv
    obtain ⟨paths, text, hread, _⟩ := reads_of_surface hclass.surface_eq
    have hadmission := admission_of_verdict hv hr hclass
    refine ⟨paths, text, hread, (hclass.green_iff hread).mp ?_⟩
    by_contra hred
    rw [if_neg hred, hadmitted, Value.str.injEq] at hadmission
    exact absurd hadmission (by decide)
  · intro h
    obtain ⟨paths, text, hread, hcalm⟩ := h
    obtain ⟨surface, mutation, risk, hclass⟩ := exists_classified_of_reads hread
    obtain ⟨verdict, receipt, hv, hr⟩ := exists_admission hclass
    refine ⟨verdict, receipt, hv, hr, ?_⟩
    rw [admission_of_verdict hv hr hclass, if_pos ((hclass.green_iff hread).mpr hcalm)]

end Admission

end Admissorium.Verdict.Admission
