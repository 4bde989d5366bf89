import Admissorium.Pipeline.StoredBundle
import Admissorium.Scripts.CandidateSuites

/-!
# What is stored is read back

The summary of the quarantine suite and the bundle made from it hold parts of candidates that were
parsed, texts, flags and counts. Where the host reads the numerals it prints, such a summary is
read back from its file as it was.
-/
namespace Admissorium.Scripts
set_option autoImplicit false

open JavaScript Json Files Signing Signing.Replay Classify Verdict Verdict.Admission
open Pipeline.QuarantineSuite Pipeline.WriterSimulation Pipeline.StoredBundle

/-- The host reads what it prints for a number it has read, and for the length of an array. -/
structure Numerals (m : Machine) : Prop where
  printed : ∀ q text, m.read text = some q → ReadsBack m.rt m.read q
  counts : ∀ n : Nat, n < 2 ^ 32 → ReadsBack m.rt m.read (n : Number)

section Stored
variable {m : Machine} {read : String → Option Number} {v w : Value} {fields : Fields}

theorem parse_storedJson (hm : Numerals m) (h : Parsed m.read v) :
    Json.parse m.read (storedJson m v) = .ok v := by
  refine parse_prettyOf h.isJson (fun q hq => ?_)
  obtain ⟨text, hread⟩ := h.numbers q hq
  exact hm.printed q text hread

theorem parsed_count (hm : Numerals m) {n : Nat} (h : n < 2 ^ 32) :
    Parsed m.read (.num (n : Number)) := by
  refine ⟨trivial, fun q hq => ?_⟩
  obtain rfl := List.mem_singleton.mp hq
  exact ⟨_, (hm.counts n h).read_eq⟩

theorem parsed_get (h : Parsed read v) (key : String) : v.get key = .undefined ∨ Parsed read (v.get key) := by
  refine (get_of_isJson h.isJson key).imp_right (fun hjson => ⟨hjson, fun q hq => ?_⟩)
  exact h.numbers q (numbersOf_get v key q hq)

theorem parsed_or (hv : v = .undefined ∨ Parsed read v) (hw : Parsed read w) : Parsed read (v.or w) := by
  rw [Value.or]
  split
  case isTrue htruthy =>
    refine hv.resolve_left (fun he => ?_)
    rw [he] at htruthy
    cases htruthy
  case isFalse => exact hw

theorem parsed_texts (items : List String) : Parsed read (texts items) :=
  parsed_arr (fun v hv => by
    obtain ⟨s, _, rfl⟩ := List.mem_map.mp hv
    exact parsed_str s)

/-- The id of a candidate is a part of it, or a text. -/
theorem parsed_candidateId (h : Parsed read v) : Parsed read (candidateId v) := by
  rw [candidateId]
  refine parsed_or ?_ (parsed_str _)
  have hor : ∀ a b : Value, (a = .undefined ∨ Parsed read a) → (b = .undefined ∨ Parsed read b) →
      a.or b = .undefined ∨ Parsed read (a.or b) := by
    intro a b ha hb
    rcases hb with rfl | hb
    · rw [Value.or]
      split
      · exact ha
      · exact Or.inl rfl
    · exact Or.inr (parsed_or ha hb)
  exact hor _ _ (hor _ _ (parsed_get h _) (parsed_get h _)) (parsed_get h _)

/-- A signature adds four texts. -/
theorem parsed_of_signObject {rt : Runtime} {seed signed : Value}
    (h : signObject rt fields seed = .ok signed) (hnodup : (fields.map Prod.fst).Nodup)
    (hvalues : ∀ field ∈ fields, Parsed read field.2) : Parsed read signed := by
  obtain ⟨digest, _, hrest⟩ := bind_eq_ok.mp h
  obtain ⟨text, hseed, _⟩ := bind_eq_ok.mp hrest
  obtain ⟨canonical, hc⟩ : ∃ canonical, canonicalJson rt (.obj (unsigned fields)) = some canonical := by
    rw [canonicalJson]
    exact ⟨_, rfl⟩
  rw [signObject_eq hseed hc, Except.ok.injEq] at h
  rw [← h]
  have hkeys : (envelope rt text (rt.sha256 canonical)).map Prod.fst =
      ["canonical_hash", "signature_algorithm", "signer_key_ref", "signature"] := rfl
  refine parsed_obj ⟨?_, List.forall_mem_append.mpr ⟨fun field hf => ?_, ?_⟩⟩
  · rw [List.map_append, List.nodup_append, hkeys]
    refine ⟨(List.filter_sublist.map Prod.fst).nodup hnodup, by decide, ?_⟩
    rintro key hkey other hother rfl
    obtain ⟨field, hfield, rfl⟩ := List.mem_map.mp hkey
    have hnot := of_decide_eq_true (List.mem_filter.mp hfield).2
    simp only [signatureFields, List.mem_cons, List.not_mem_nil, or_false, not_or] at hnot hother
    grind
  · exact hvalues field (List.mem_filter.mp hf).1
  · simp only [envelope, List.forall_mem_cons, parsed_str, List.not_mem_nil, false_imp_iff,
      implies_true, and_true]

end Stored

/-! ## The suite -/

section Stages
variable {rt : Runtime} {read : String → Option Number} {candidate : Value} {surface : Surface}
  {mutation : Mutation} {risk : TruthRisk} {stages : Stages}

theorem generatedAt_suiteOptions (source : Value) : generatedAt suiteOptions source = epochStart := rfl

theorem canonical_hash_of_verdict {options : CompileOptions} {verdict : Value}
    (h : compileActuatorVerdict rt candidate options = .ok verdict) :
    ∃ hash, verdict.get "canonical_hash" = .str hash := by
  obtain ⟨_, _, h⟩ := bind_eq_ok.mp h
  obtain ⟨_, _, h⟩ := bind_eq_ok.mp h
  obtain ⟨_, _, h⟩ := bind_eq_ok.mp h
  obtain ⟨_, _, h⟩ := bind_eq_ok.mp h
  obtain ⟨_, _, h⟩ := bind_eq_ok.mp h
  obtain ⟨_, _, h⟩ := bind_eq_ok.mp h
  exact canonical_hash_of_signObject h

theorem canonical_hash_of_receipt {options : CompileOptions} {verdict receipt : Value}
    (h : compileAdmissionReceipt rt verdict options = .ok receipt) :
    ∃ hash, receipt.get "canonical_hash" = .str hash := by
  obtain ⟨_, _, h⟩ := bind_eq_ok.mp h
  obtain ⟨_, _, h⟩ := bind_eq_ok.mp h
  exact canonical_hash_of_signObject h

/-- What the stages of a candidate read from its verdict and its receipt. -/
structure Copied (rt : Runtime) (read : String → Option Number) (stages : Stages) : Prop where
  candidate_id : Parsed read (stages.verdict.get "candidate_id")
  state : Parsed read (stages.verdict.get "state")
  risk : Parsed read (stages.verdict.get "risk")
  truth_pass : Parsed read (stages.verdict.get "no_truth_mutation_path_pass")
  main_pass : Parsed read (stages.verdict.get "no_direct_main_write_pass")
  package_pass : Parsed read (stages.verdict.get "no_package_publish_path_pass")
  secret_pass : Parsed read (stages.verdict.get "no_secret_persistence_pass")
  verdict_hash : Parsed read (stages.verdict.get "canonical_hash")
  reasons : Parsed read (((stages.verdict.get "truth_risk").get "reasons").or (.arr []))
  red_classes : Parsed read (((stages.verdict.get "mutation").get "red_classes").or (.arr []))
  admission : Parsed read (stages.receipt.get "admission")
  receipt_hash : Parsed read (stages.receipt.get "canonical_hash")
  quarantine_eq : signObject rt (quarantineFields stages.verdict stages.receipt suiteOptions)
    .undefined = .ok stages.quarantine
  repair_eq : signObject rt (repairFields stages.verdict stages.receipt stages.quarantine suiteOptions)
    .undefined = .ok stages.repair_packet

theorem copied_of_stages (h : compileStages rt candidate = .ok stages)
    (hclass : Classified rt candidate surface mutation risk) (hparsed : Parsed read candidate) :
    Copied rt read stages := by
  have htold := says_of_stages h hclass
  obtain ⟨verdict, hv, h⟩ := bind_eq_ok.mp h
  obtain ⟨receipt, hr, h⟩ := bind_eq_ok.mp h
  obtain ⟨quarantine, hq, h⟩ := bind_eq_ok.mp h
  obtain ⟨repair, hp, h⟩ := bind_eq_ok.mp h
  cases h
  obtain ⟨_, _, _, hclass', hverdict⟩ := get_of_verdict hv
  obtain ⟨rfl, rfl, rfl⟩ := hclass.unique hclass'
  obtain ⟨_, _, hq⟩ := bind_eq_ok.mp hq
  obtain ⟨_, _, hq⟩ := bind_eq_ok.mp hq
  obtain ⟨_, _, hp⟩ := bind_eq_ok.mp hp
  obtain ⟨_, _, hp⟩ := bind_eq_ok.mp hp
  obtain ⟨_, _, hp⟩ := bind_eq_ok.mp hp
  have hrisk : verdict.get "truth_risk" = risk.toValue := hverdict "truth_risk" (by decide)
  have hmutation : verdict.get "mutation" = mutation.toValue := hverdict "mutation" (by decide)
  have hid : Parsed read (verdict.get "candidate_id") := by
    rw [htold.id]
    exact parsed_candidateId hparsed
  have hflag : ∀ {w : Value} {b : Bool}, w = .bool b → Parsed read w := by
    rintro w b rfl
    exact parsed_bool b
  have htruth : verdict.get "no_truth_mutation_path_pass" = .bool risk.no_truth_mutation_path_pass :=
    hverdict _ (by decide)
  have hmain : verdict.get "no_direct_main_write_pass" = .bool risk.no_direct_main_write_pass :=
    hverdict _ (by decide)
  have hpackage : verdict.get "no_package_publish_path_pass" =
      .bool risk.no_package_publish_path_pass := hverdict _ (by decide)
  have hsecret : verdict.get "no_secret_persistence_pass" =
      .bool risk.no_secret_persistence_pass := hverdict _ (by decide)
  have htext : ∀ {w : Value} {text : String}, w = .str text → Parsed read w := by
    rintro w text rfl
    exact parsed_str text
  obtain ⟨hash, hhash⟩ := canonical_hash_of_verdict hv
  obtain ⟨digest, hdigest⟩ := canonical_hash_of_receipt hr
  exact {
    candidate_id := hid
    state := htext htold.state
    risk := htext htold.risk
    truth_pass := hflag htruth
    main_pass := hflag hmain
    package_pass := hflag hpackage
    secret_pass := hflag hsecret
    verdict_hash := htext hhash
    reasons := by
      rw [hrisk]
      exact parsed_texts risk.reasons
    red_classes := by
      rw [hmutation]
      have hclasses : Parsed read (texts (mutation.red_classes.map MutationClass.text)) :=
        parsed_texts _
      rw [texts, List.map_map] at hclasses
      exact hclasses
    admission := htext htold.admission
    receipt_hash := htext hdigest
    quarantine_eq := hq
    repair_eq := hp }

def quarantineKeys : List String :=
  (quarantineFields .undefined .undefined suiteOptions).map Prod.fst

def repairKeys : List String :=
  (repairFields .undefined .undefined .undefined suiteOptions).map Prod.fst

theorem Copied.parsed_quarantine (h : Copied rt read stages) : Parsed read stages.quarantine := by
  have hkeys : (quarantineFields stages.verdict stages.receipt suiteOptions).map Prod.fst =
      quarantineKeys := rfl
  have hnodup : quarantineKeys.Nodup := by decide +kernel
  refine parsed_of_signObject h.quarantine_eq (hkeys ▸ hnodup) ?_
  simp only [quarantineFields, boundaryFields, idleWriters, List.forall_mem_append,
    List.forall_mem_map, List.forall_mem_cons, List.not_mem_nil, false_imp_iff, implies_true,
    and_true, parsed_str, parsed_bool, parsed_texts, generatedAt_suiteOptions, epochStart,
    h.candidate_id, h.state, h.risk, h.admission, h.reasons, h.red_classes, h.verdict_hash,
    h.receipt_hash]

theorem Copied.parsed_repair (h : Copied rt read stages) : Parsed read stages.repair_packet := by
  have hkeys : (repairFields stages.verdict stages.receipt stages.quarantine suiteOptions).map
      Prod.fst = repairKeys := rfl
  have hnodup : repairKeys.Nodup := by decide +kernel
  refine parsed_of_signObject h.repair_eq (hkeys ▸ hnodup) ?_
  have hroute : stages.quarantine.get "route" = .str (if isBlocked stages.verdict then
      "PRIVATE_REVIEW_QUARANTINE" else "NO_QUARANTINE_REPORT_ONLY") :=
    get_of_signObject h.quarantine_eq (by decide)
  obtain ⟨hash, hhash⟩ := canonical_hash_of_signObject h.quarantine_eq
  simp only [repairFields, boundaryFields, idleWriters, List.forall_mem_append, List.forall_mem_map,
    List.forall_mem_cons, List.not_mem_nil, false_imp_iff, implies_true, and_true,
    parsed_str, parsed_bool, parsed_texts, generatedAt_suiteOptions, epochStart, hroute, hhash,
    h.candidate_id, h.state, h.truth_pass, h.main_pass, h.package_pass, h.secret_pass,
    h.verdict_hash, h.receipt_hash]

/-- The packet has every writer off. -/
theorem Copied.idle (h : Copied rt read stages) :
    ∀ key ∈ checkedWriters, stages.repair_packet.get key = .bool false := by
  have hwriters : ∀ key ∈ checkedWriters, key ∉ signatureFields ∧
      (Value.obj (repairFields stages.verdict stages.receipt stages.quarantine suiteOptions)).get
        key = .bool false := by
    simp only [checkedWriters, List.forall_mem_cons, List.not_mem_nil, false_imp_iff, implies_true,
      and_true]
    exact ⟨⟨by decide, rfl⟩, ⟨by decide, rfl⟩, ⟨by decide, rfl⟩, ⟨by decide, rfl⟩,
      ⟨by decide, rfl⟩, ⟨by decide, rfl⟩, ⟨by decide, rfl⟩⟩
  intro key hkey
  rw [get_of_signObject h.repair_eq (hwriters key hkey).1, (hwriters key hkey).2]

/-- The result of a parsed candidate can be stored. -/
theorem parsed_result {file : String × Value} {result : Value} (h : ResultOf rt file result)
    (hparsed : Parsed read file.2) : Parsed read result := by
  obtain ⟨surface, mutation, risk, stages, hclass, hstages, rfl⟩ := h.stages
  have hcopied := copied_of_stages hstages hclass hparsed
  have htold := says_of_stages hstages hclass
  have hkeys : (resultFields file.1 stages true true).map Prod.fst =
      (resultFields "" ⟨.null, .null, .null, .null⟩ true true).map Prod.fst := rfl
  refine parsed_obj ⟨by rw [hkeys]; decide +kernel, ?_⟩
  simp only [resultFields, List.forall_mem_append, List.forall_mem_map, List.forall_mem_cons,
    List.not_mem_nil, false_imp_iff, implies_true, and_true, parsed_str, parsed_bool,
    hcopied.candidate_id, hcopied.risk, hcopied.state, htold.required, htold.route, htold.mode,
    hcopied.parsed_quarantine, hcopied.parsed_repair, true_and]
  intro key hkey
  rw [hcopied.idle key hkey]
  exact parsed_bool false

/-- No result fails: what is signed verifies, and the packets have their writers off. -/
theorem resultFailed_eq_false {file : String × Value} {result : Value} (h : ResultOf rt file result)
    (hparsed : Parsed read file.2) : resultFailed result = false := by
  obtain ⟨surface, mutation, risk, stages, hclass, hstages, rfl⟩ := h.stages
  have hidle := (copied_of_stages hstages hclass hparsed).idle
  have hget : ∀ key ∈ checkedWriters, (Value.obj (resultFields file.1 stages true true)).get key =
      stages.repair_packet.get key := by
    simp only [checkedWriters, List.forall_mem_cons, List.not_mem_nil, false_imp_iff, implies_true,
      and_true]
    exact ⟨rfl, rfl, rfl, rfl, rfl, rfl, rfl⟩
  have hoff : checkedWriters.any (fun key => !((Value.obj (resultFields file.1 stages true true)).get
      key).strictEquals (.bool false)) = false := by
    rw [List.any_eq_false]
    intro key hkey
    rw [hget key hkey, hidle key hkey]
    decide
  rw [resultFailed, hoff, Bool.or_false]
  rfl

end Stages

section Summaries
variable {m : Machine} {files : List (String × Value)} {results : List Value}

/-- The suite's own numbers are counts of its results. -/
theorem parsed_suite (hm : Numerals m) (hlength : results.length < 2 ^ 32)
    (h : ∀ result ∈ results, Parsed m.read result) : Parsed m.read (.obj (suiteFields results)) := by
  have hkeys : (suiteFields results).map Prod.fst = (suiteFields []).map Prod.fst := rfl
  have hcount : ∀ test : Value → Bool, Parsed m.read (count test results) := fun test =>
    parsed_count hm (Nat.lt_of_le_of_lt (List.length_filter_le test results) hlength)
  refine parsed_obj ⟨by rw [hkeys]; decide +kernel, ?_⟩
  simp only [suiteFields, List.forall_mem_cons, List.not_mem_nil, false_imp_iff, implies_true,
    and_true, parsed_str, epochStart, hcount, parsed_count hm hlength, parsed_arr h]

/-- The bundle of a suite, before it is signed. -/
def bundleOfResults (results : List Value) : Fields :=
  bundleFields (.obj (suiteFields results)) epochStart (results.map (fun r => .obj (caseFields r)))

theorem compile_bundleOfResults {rt : Runtime} (h : List.Forall₂ (ResultOf rt) files results) :
    compileOperatorReviewBundle rt (.obj (suiteFields results)) suiteOptions =
      signObject rt (bundleOfResults results) .undefined := by
  have hcases : results.mapM compileCase = .ok (results.map (fun r => .obj (caseFields r))) := by
    refine mapM_eq_ok_map (fun r hr => ?_)
    obtain ⟨file, _, hfile⟩ := exists_of_forall₂_right h hr
    obtain ⟨c, hc⟩ := exists_compileCase hfile
    obtain ⟨_, _, hpure⟩ := bind_eq_ok.mp hc
    cases hpure
    exact hc
  have hresults : Value.prop (.obj (suiteFields results)) "results" = .ok (.arr results) := rfl
  have harray : Value.asArray (.arr results) = .ok results := rfl
  rw [compileOperatorReviewBundle, hresults, ok_bind, harray, ok_bind, hcases, ok_bind,
    generatedAt_suiteOptions]
  rfl

theorem parsed_case {rt : Runtime} {file : String × Value} {result : Value}
    (h : ResultOf rt file result) (hparsed : Parsed m.read file.2) :
    Parsed m.read (.obj (caseFields result)) := by
  obtain ⟨surface, mutation, risk, stages, hclass, hstages, rfl⟩ := h.stages
  have hcopied := copied_of_stages hstages hclass hparsed
  have htold := says_of_stages hstages hclass
  obtain ⟨hash, hquarantine⟩ := htold.quarantine_hash
  obtain ⟨other, hrepair⟩ := htold.repair_hash
  refine parsed_obj ⟨keys_caseFields _, (caseFields_forall_iff parsed_str _).mpr ⟨?_, ?_⟩⟩
  · have hget : ∀ key ∈ caseKeys, Parsed m.read
        ((Value.obj (resultFields file.1 stages true true)).get key) := by
      simp only [caseKeys, List.forall_mem_cons, List.not_mem_nil, false_imp_iff, implies_true,
        and_true]
      refine ⟨hcopied.candidate_id, parsed_str _, hcopied.risk, hcopied.state, ?_, ?_, ?_⟩
      · change Parsed m.read (stages.quarantine.get "quarantine_required")
        rw [htold.required]
        exact parsed_bool _
      · change Parsed m.read (stages.quarantine.get "route")
        rw [htold.route]
        exact parsed_str _
      · change Parsed m.read (stages.repair_packet.get "repair_mode")
        rw [htold.mode]
        exact parsed_str _
    exact hget
  · simp only [hashedKeys, List.forall_mem_cons, List.not_mem_nil, false_imp_iff, implies_true,
      and_true]
    constructor
    · change Parsed m.read (stages.quarantine.get "canonical_hash")
      rw [hquarantine]
      exact parsed_str _
    · change Parsed m.read (stages.repair_packet.get "canonical_hash")
      rw [hrepair]
      exact parsed_str _

theorem parsed_bundleOfResults {rt : Runtime} {bundle : Value} (hm : Numerals m)
    (hlength : results.length < 2 ^ 32) (h : List.Forall₂ (ResultOf rt) files results)
    (hparsed : ∀ file ∈ files, Parsed m.read file.2)
    (hbundle : signObject rt (bundleOfResults results) .undefined = .ok bundle) :
    Parsed m.read bundle := by
  have hcases : ∀ c ∈ results.map (fun r => Value.obj (caseFields r)), Parsed m.read c := by
    intro c hc
    obtain ⟨r, hr, rfl⟩ := List.mem_map.mp hc
    obtain ⟨file, hfile, hresult⟩ := exists_of_forall₂_right h hr
    exact parsed_case hresult (hparsed file hfile)
  have hcount : ∀ test : Value → Bool, Parsed m.read (count test results) := fun test =>
    parsed_count hm (Nat.lt_of_le_of_lt (List.length_filter_le test results) hlength)
  refine parsed_of_signObject hbundle ?_ ?_
  · rw [bundleOfResults, keys_bundleFields]
    exact nodup_bundleKeys
  · refine (bundleFields_forall_iff parsed_str parsed_bool parsed_texts _ _ _).mpr
      ⟨parsed_str _, ?_, parsed_arr hcases⟩
    simp only [totalKeys, List.forall_mem_cons, List.not_mem_nil, false_imp_iff, implies_true,
      and_true]
    exact ⟨parsed_count hm hlength, hcount _, hcount _, hcount _⟩

end Summaries

end Admissorium.Scripts
