import Admissorium.Scripts.WriterChain

/-!
# The reports of the chain, read again

A simulated writer that exits with 0 leaves three reports. Whoever reads them from the disk gets
the values that were stored, every signature in them verifies again, and the hashes that the
bundle names are those of the records in the suite.
-/
namespace Admissorium.Scripts
set_option autoImplicit false

open JavaScript Json Files Signing Signing.Replay Classify Verdict Verdict.Admission
open Pipeline.QuarantineSuite Pipeline.WriterSimulation Pipeline.StoredBundle Pipeline.WriterSeed

/-! ## Packets -/

section Packets
variable {m : Machine} {file : String × Value} {report c packet : Value}

theorem parsed_envelope {kind : String} {payload : Fields} (hcase : CaseOf m.rt file c)
    (hparsed : Parsed m.read file.2) (hpayload : Parsed m.read (.obj payload))
    (h : noWriterEnvelope m.rt kind c (generatedAt suiteOptions report) payload = .ok packet) :
    Parsed m.read packet := by
  obtain ⟨_, _, h⟩ := bind_eq_ok.mp h
  have hkeys : (envelopeFields kind c (generatedAt suiteOptions report) payload).map Prod.fst =
      (envelopeFields "" .undefined .undefined []).map Prod.fst := rfl
  refine parsed_of_signObject h (by rw [hkeys]; decide +kernel) ?_
  simp only [envelopeFields, offlineWriters, List.forall_mem_append, List.forall_mem_map,
    List.forall_mem_cons, List.not_mem_nil, false_imp_iff, implies_true, and_true, parsed_str,
    parsed_bool, generatedAt_suiteOptions, epochStart, hcase.id, hcase.name,
    parsed_candidateId hparsed, hpayload]

theorem parsed_payload {payload : Fields} (keys : List String) (hkeys : payload.map Prod.fst = keys)
    (hnodup : keys.Nodup) (h : ∀ field ∈ payload, Parsed m.read field.2) :
    Parsed m.read (.obj payload) :=
  parsed_obj ⟨hkeys ▸ hnodup, h⟩

theorem parsed_checkRunPacket (hcase : CaseOf m.rt file c) (hparsed : Parsed m.read file.2)
    (h : checkRunPacket m.rt (generatedAt suiteOptions report) c = .ok packet) :
    Parsed m.read packet := by
  obtain ⟨_, _, h⟩ := bind_eq_ok.mp h
  obtain ⟨_, _, h⟩ := bind_eq_ok.mp h
  obtain ⟨_, _, h⟩ := bind_eq_ok.mp h
  refine parsed_envelope hcase hparsed (parsed_payload ["name", "conclusion", "title", "summary"] rfl
    (by decide) ?_) h
  simp only [List.forall_mem_cons, List.not_mem_nil, false_imp_iff, implies_true, and_true,
    parsed_str]

theorem parsed_issuePacket (hcase : CaseOf m.rt file c) (hparsed : Parsed m.read file.2)
    (h : issuePacket m.rt (generatedAt suiteOptions report) c = .ok packet) :
    Parsed m.read packet := by
  obtain ⟨_, _, h⟩ := bind_eq_ok.mp h
  obtain ⟨_, _, h⟩ := bind_eq_ok.mp h
  obtain ⟨_, _, h⟩ := bind_eq_ok.mp h
  obtain ⟨_, _, h⟩ := bind_eq_ok.mp h
  refine parsed_envelope hcase hparsed (parsed_payload ["title", "labels", "body"] rfl (by decide) ?_) h
  simp only [List.forall_mem_cons, List.not_mem_nil, false_imp_iff, implies_true, and_true,
    parsed_str, parsed_texts]

theorem parsed_pullRequestPacket (hcase : CaseOf m.rt file c) (hparsed : Parsed m.read file.2)
    (h : pullRequestPacket m.rt (generatedAt suiteOptions report) c = .ok packet) :
    Parsed m.read packet := by
  obtain ⟨_, _, h⟩ := bind_eq_ok.mp h
  obtain ⟨_, _, h⟩ := bind_eq_ok.mp h
  obtain ⟨_, _, h⟩ := bind_eq_ok.mp h
  refine parsed_envelope hcase hparsed (parsed_payload ["title", "branch", "body"] rfl (by decide) ?_) h
  simp only [List.forall_mem_cons, List.not_mem_nil, false_imp_iff, implies_true, and_true,
    parsed_str]

end Packets

/-! ## The three reports -/

section Reports
variable {m : Machine} {fs after : FileSystem} {files : List (String × Value)}
  {results : List Value} {bundle simulation : Value} {stdout : String}

/-- The packets around the operator's bundle are signed together with its kind. -/
theorem signed_simulation {cases : List Value} {own : Fields}
    (hcases : casesOf (.obj (operatorSummary (.obj own) true)) = .ok cases)
    (h : compileTestModeWriterSimulation m.rt (.obj (operatorSummary (.obj own) true))
      suiteOptions = .ok simulation) :
    ∃ checkRuns issues pulls, Compiled m.rt (.obj (operatorSummary (.obj own) true)) suiteOptions
        cases checkRuns issues pulls simulation ∧
      signObject m.rt (simulationFields (.obj own) epochStart cases.length checkRuns issues pulls)
        .undefined = .ok simulation := by
  have hbundle : Value.prop (.obj (operatorSummary (.obj own) true)) "bundle" = .ok (.obj own) := rfl
  have hor : (Value.obj own).or (.obj (operatorSummary (.obj own) true)) = .obj own := rfl
  rw [casesOf, hbundle, ok_bind, hor] at hcases
  rw [compileTestModeWriterSimulation, hbundle, ok_bind, hor] at h
  obtain ⟨listed, hlisted, h⟩ := bind_eq_ok.mp h
  obtain rfl := Except.ok.inj (hcases.symm.trans hlisted)
  obtain ⟨checkRuns, hchecks, h⟩ := bind_eq_ok.mp h
  obtain ⟨issues, hissues, h⟩ := bind_eq_ok.mp h
  obtain ⟨pulls, hpulls, h⟩ := bind_eq_ok.mp h
  exact ⟨checkRuns, issues, pulls, ⟨hchecks, hissues, hpulls, _, h⟩, h⟩

/-- Every packet of a compiled simulation can be stored. -/
theorem parsed_packets {report : Value} {cases checkRuns issues pulls : List Value}
    (hparsed : ∀ file ∈ files, Parsed m.read file.2)
    (hof : List.Forall₂ (CaseOf m.rt) files cases)
    (h : Compiled m.rt report suiteOptions cases checkRuns issues pulls simulation) :
    (∀ packet ∈ checkRuns, Parsed m.read packet) ∧ (∀ packet ∈ issues, Parsed m.read packet) ∧
      ∀ packet ∈ pulls, Parsed m.read packet := by
  have hcase : ∀ c ∈ cases, ∃ file, CaseOf m.rt file c ∧ Parsed m.read file.2 := by
    intro c hc
    obtain ⟨file, hfile, hcaseOf⟩ := exists_of_forall₂_right hof hc
    exact ⟨file, hcaseOf, hparsed file hfile⟩
  refine ⟨fun packet hp => ?_, fun packet hp => ?_, fun packet hp => ?_⟩
  · obtain ⟨c, hc, hpacket⟩ := (mem_mapM_iff h.check_run_packets packet).mp hp
    obtain ⟨file, hcaseOf, hfile⟩ := hcase c hc
    exact parsed_checkRunPacket hcaseOf hfile hpacket
  · obtain ⟨c, hc, hpacket⟩ := (mem_mapM_iff h.issue_packets packet).mp hp
    obtain ⟨file, hcaseOf, hfile⟩ := hcase c (List.mem_filter.mp hc).1
    exact parsed_issuePacket hcaseOf hfile hpacket
  · obtain ⟨c, hc, hpacket⟩ := (mem_mapM_iff h.pull_request_packets packet).mp hp
    obtain ⟨file, hcaseOf, hfile⟩ := hcase c hc
    exact parsed_pullRequestPacket hcaseOf hfile hpacket

theorem parsed_simulation (hm : Numerals m) (hparsed : ∀ file ∈ files, Parsed m.read file.2)
    (hof : List.Forall₂ (ResultOf m.rt) files results)
    (hbundle : signObject m.rt (bundleOfResults results) .undefined = .ok bundle)
    (hfive : files.length = 5)
    (h : compileTestModeWriterSimulation m.rt (.obj (operatorSummary bundle true)) suiteOptions =
      .ok simulation) : Parsed m.read simulation := by
  obtain ⟨own, rfl⟩ := isObject_of_signObject hbundle
  obtain ⟨checkRuns, issues, pulls, hall, hsigned⟩ :=
    signed_simulation (casesOf_operatorSummary hbundle) h
  have hcases := cases_of_results hof
  obtain ⟨hchecks, hissues, hpulls⟩ := parsed_packets hparsed hcases hall
  have htotal : (results.map (fun r => Value.obj (caseFields r))).length = 5 :=
    hcases.length_eq.symm.trans hfive
  have hcheckCount := (length_mapM hall.check_run_packets).trans htotal
  have hpullCount := (length_mapM hall.pull_request_packets).trans htotal
  have hissueCount : issues.length ≤ 5 :=
    (length_mapM hall.issue_packets).trans_le ((List.length_filter_le _ _).trans_eq htotal)
  have htype : (Value.obj own).get "bundle_type" = .str "ADMISSORIUM_OPERATOR_REVIEW_BUNDLE" :=
    get_of_signObject hbundle (by decide)
  have hkeys : (simulationFields (.obj own) epochStart
      (results.map (fun r => Value.obj (caseFields r))).length checkRuns issues pulls).map Prod.fst =
      (simulationFields .undefined .undefined 0 [] [] []).map Prod.fst := rfl
  have hcount : ∀ n : Nat, n ≤ 15 → Parsed m.read (.num (n : Number)) := fun n hn =>
    parsed_count hm (by omega)
  have hpackets : Parsed m.read (.obj [("check_run_packets", .arr checkRuns),
      ("issue_packets", .arr issues), ("pull_request_packets", .arr pulls)]) := by
    refine parsed_payload ["check_run_packets", "issue_packets", "pull_request_packets"] rfl
      (by decide) ?_
    simp only [List.forall_mem_cons, List.not_mem_nil, false_imp_iff, implies_true, and_true]
    exact ⟨parsed_arr hchecks, parsed_arr hissues, parsed_arr hpulls⟩
  refine parsed_of_signObject hsigned (by rw [hkeys]; decide +kernel) ?_
  simp only [simulationFields, offlineWriters, List.forall_mem_append, List.forall_mem_map,
    List.forall_mem_cons, List.not_mem_nil, false_imp_iff, implies_true, and_true, parsed_str,
    parsed_bool, epochStart, htype, hpackets, true_and]
  exact ⟨hcount _ (by omega), hcount _ (by omega), hcount _ (by omega), hcount _ (by omega),
    hcount _ (by omega)⟩

theorem parsed_simulationSummary {report : Value} {cases checkRuns issues pulls : List Value}
    (hm : Numerals m) (hparsed : Parsed m.read simulation)
    (hof : List.Forall₂ (CaseOf m.rt) files cases) (hfive : files.length = 5)
    (h : Compiled m.rt report suiteOptions cases checkRuns issues pulls simulation) :
    Parsed m.read (.obj (simulationSummary simulation true 0 0)) := by
  have hkeys : (simulationSummary simulation true 0 0).map Prod.fst =
      (simulationSummary .undefined true 0 0).map Prod.fst := rfl
  have hcounted := counted_of_compiled hof h
  have hissues := List.length_filter_le (fun file : String × Value => blocks m.rt file.2) files
  have hcount : ∀ n : Nat, n ≤ 15 → Parsed m.read (.num (n : Number)) := fun n hn =>
    parsed_count hm (by omega)
  refine parsed_obj ⟨by rw [hkeys]; decide +kernel, ?_⟩
  simp only [simulationSummary, List.forall_mem_append, List.forall_mem_map, List.forall_mem_cons,
    List.not_mem_nil, false_imp_iff, implies_true, and_true, parsed_str, parsed_bool, epochStart,
    hcounted.total_cases, hcounted.check_runs, hcounted.issues, hcounted.pulls, hcounted.total,
    hparsed, true_and]
  refine ⟨⟨hcount 0 (by omega), hcount 0 (by omega), hcount _ (by omega), hcount _ (by omega),
    hcount _ (by omega), hcount _ (by omega), hcount _ (by omega)⟩, fun key hkey => ?_⟩
  rw [flags_compiled h key hkey]
  exact parsed_bool false

end Reports

/-! ## The chain as a reader finds it -/

/-- The record of a stage verifies. -/
def Verifies (m : Machine) (record : Value) : Prop := signatureOk m.rt record = .ok true

/-- The case of a result: it is of the same candidate, and names the records by their hashes. -/
structure Names (result c : Value) : Prop where
  subject_eq : subject c = subject result
  quarantine_hash : c.get "quarantine_hash" = (result.get "quarantine").get "canonical_hash"
  repair_packet_hash :
    c.get "repair_packet_hash" = (result.get "repair_packet").get "canonical_hash"

/-- The three reports of a chain fit together. -/
structure Linked (m : Machine) (suite review written : Value) : Prop where
  records : ∀ result ∈ itemsOf suite "results",
    Verifies m (result.get "quarantine") ∧ Verifies m (result.get "repair_packet")
  bundle : Verifies m (review.get "bundle")
  simulation : Verifies m (written.get "simulation")
  packets : ∀ packet ∈ packetsOf (written.get "simulation"), Verifies m packet
  names : List.Forall₂ Names (itemsOf suite "results") (itemsOf (review.get "bundle") "cases")
  subjects : (packetsOf (written.get "simulation")).map subject =
    (itemsOf suite "results").map subject ++
      ((itemsOf suite "results").filter quarantineRequired).map subject ++
      (itemsOf suite "results").map subject

section Linked
variable {m : Machine} {fs after : FileSystem} {files : List (String × Value)}
  {results cases : List Value} {bundle simulation report : Value} {stdout : String}
  {checkRuns issues pulls : List Value}

/-- The packets of one kind are of the cases they are made from, in their order. -/
theorem subjects_of_packets {make : Value → Except JsError Value} {packets : List Value}
    (hof : List.Forall₂ (CaseOf m.rt) files cases) (hmade : cases.mapM make = .ok packets)
    (hsubject : ∀ file c packet, CaseOf m.rt file c → make c = .ok packet →
      subject packet = subjectOf file) : packets.map subject = cases.map subject := by
  have hpairs := (mapM_eq_ok_iff make cases packets).mp hmade
  clear hmade
  induction hpairs generalizing files with
  | nil => rfl
  | @cons c packet rest more hpacket _ ih =>
      obtain ⟨file, others, hcase, hrest, rfl⟩ := List.forall₂_cons_right_iff.mp hof
      have hown : subject c = subjectOf file := by
        rw [subject, hcase.name, hcase.id]
        rfl
      rw [List.map_cons, List.map_cons, hsubject file c packet hcase hpacket, hown, ih hrest]

theorem verifies_of_signObject {fields : Fields} {record : Value}
    (h : signObject m.rt fields .undefined = .ok record) : Verifies m record := by
  obtain ⟨own, rfl⟩ := isObject_of_signObject h
  exact verify_of_signObject h

theorem verifies_of_result {file : String × Value} {result : Value} (h : ResultOf m.rt file result)
    (hparsed : Parsed m.read file.2) :
    Verifies m (result.get "quarantine") ∧ Verifies m (result.get "repair_packet") := by
  obtain ⟨_, _, _, stages, hclass, hstages, rfl⟩ := h.stages
  have hcopied := copied_of_stages hstages hclass hparsed
  exact ⟨verifies_of_signObject hcopied.quarantine_eq, verifies_of_signObject hcopied.repair_eq⟩

theorem subjects_of_compiled (hof : List.Forall₂ (CaseOf m.rt) files cases)
    (h : Compiled m.rt report suiteOptions cases checkRuns issues pulls simulation) :
    (packetsOf simulation).map subject = cases.map subject ++
      (cases.filter quarantineRequired).map subject ++ cases.map subject := by
  have hfiltered : List.Forall₂ (CaseOf m.rt) (files.filter (fun file => blocks m.rt file.2))
      (cases.filter quarantineRequired) :=
    List.rel_filter (fun file c hcase => by
      change blocks m.rt file.2 = true ↔ quarantineRequired c = true
      rw [hcase.quarantineRequired_eq]) hof
  have hchecks := subjects_of_packets hof h.check_run_packets
    (fun _ _ _ hcase hpacket => And.left <| checkRunPacket_says hcase hpacket)
  have hissues := subjects_of_packets hfiltered h.issue_packets
    (fun _ _ _ hcase hpacket => issuePacket_says hcase hpacket)
  have hpulls := subjects_of_packets hof h.pull_request_packets
    (fun _ _ _ hcase hpacket => pullRequestPacket_says hcase hpacket)
  rw [packetsOf_compiled h, List.map_append, List.map_append, hchecks, hissues, hpulls]

/-- The reports of a simulated run fit together. -/
theorem Simulated.linked (h : Simulated m fs files results bundle simulation after) :
    Linked m (.obj (suiteFields results)) (.obj (operatorSummary bundle true))
      (.obj (simulationSummary simulation true 0 0)) := by
  have hcases := cases_of_results h.reviewed.of_files
  have hlisted := casesOf_operatorSummary h.reviewed.bundle_eq
  obtain ⟨checkRuns, issues, pulls, hall⟩ := compile_cases hlisted h.compiled
  have hitems : itemsOf bundle "cases" = results.map (fun r => .obj (caseFields r)) := by
    have hget : bundle.get "cases" = .arr (results.map (fun r => .obj (caseFields r))) :=
      get_of_signObject h.reviewed.bundle_eq (by decide)
    rw [itemsOf, hget]
  have hsame : (results.map (fun r => Value.obj (caseFields r))).map subject =
      results.map subject := by
    rw [List.map_map]
    rfl
  have hrequired : ((results.map (fun r => Value.obj (caseFields r))).filter
      quarantineRequired).map subject = (results.filter quarantineRequired).map subject := by
    rw [List.filter_map, List.map_map]
    rfl
  exact {
    records := fun result hresult => by
      obtain ⟨file, hfile, hof⟩ := exists_of_forall₂_right h.reviewed.of_files hresult
      exact verifies_of_result hof (h.reviewed.candidates.parsed file hfile)
    bundle := verifies_of_signObject h.reviewed.bundle_eq
    simulation := (clean_of_compiled hall).2
    packets := fun packet hpacket => ((clean_of_compiled hall).1 packet hpacket).1
    names := by
      change List.Forall₂ Names results (itemsOf bundle "cases")
      rw [hitems, List.forall₂_map_right_iff]
      exact List.forall₂_same.mpr (fun result _ => ⟨rfl, rfl, rfl⟩)
    subjects := by
      change (packetsOf simulation).map subject = results.map subject ++
        (results.filter quarantineRequired).map subject ++ results.map subject
      rw [subjects_of_compiled hcases hall, hsame, hrequired] }

/-- What is stored under other names later leaves a current report alone. -/
theorem currentPlace_notMem {cwd : Place} {name other : String} {summary : Fields}
    (h : name ≠ other) :
    currentPlace cwd name ∉ (summaryWrites m cwd other summary).map Prod.fst := by
  have hcurrent : currentPlace cwd name ≠ currentPlace cwd other := by
    rw [currentPlace, currentPlace, Ne, List.cons.injEq, String.append_left_inj]
    exact fun heq => h heq.1
  have hlatest : currentPlace cwd name ≠ latestPlace cwd other := by
    simp [currentPlace, latestPlace, currentDir, historyDir]
  simp only [summaryWrites, List.map_cons, List.map_nil, List.mem_cons, List.not_mem_nil, or_false,
    not_or]
  exact ⟨hcurrent, hlatest⟩

/-- After a run of the chain that exits with 0, its three current reports are read back from the
disk, and they fit together: every record in them verifies, and a case names its records by hash. -/
theorem stored_chain_verifies (hm : Numerals m) (hlist : Listable m fs)
    (h : Succeeds (simulateTestModeWriter m) fs stdout after) :
    ∃ suite review written, Linked m suite review written ∧
      readJson m (currentPath quarantineRepairSuite.name) after = .ok suite after ∧
      readJson m (currentPath operatorName) after = .ok review after ∧
      readJson m (currentPath simulationName) after = .ok written after := by
  obtain ⟨files, results, bundle, simulation, hrun⟩ := simulated_of_run hm hlist h
  have hreviewed := hrun.reviewed
  have hparsed := hreviewed.candidates.parsed
  have hlength := length_results hlist hreviewed.candidates hreviewed.of_files
  have hsuite := parsed_suiteFields hm hlist hreviewed.candidates hreviewed.of_files
  have hreview := parsed_operatorSummary hm hlength hreviewed.of_files hparsed hreviewed.bundle_eq
  have hcases := cases_of_results hreviewed.of_files
  obtain ⟨checkRuns, issues, pulls, hall⟩ :=
    compile_cases (casesOf_operatorSummary hreviewed.bundle_eq) hrun.compiled
  have hsimulation := parsed_simulation hm hparsed hreviewed.of_files hreviewed.bundle_eq
    hrun.fourOfFive.five hrun.compiled
  have hwritten := parsed_simulationSummary hm hsimulation hcases hrun.fourOfFive.five hall
  have hlaid : LaidReports fs (summaryWrites m fs.cwd quarantineRepairSuite.name
      (suiteFields results) ++ (summaryWrites m fs.cwd operatorName (operatorSummary bundle true) ++
        summaryWrites m fs.cwd simulationName (simulationSummary simulation true 0 0))) after := by
    rw [← List.append_assoc]
    exact hrun.laid
  refine ⟨_, _, _, hrun.linked, ?_, ?_, read_last _ hm nameable_simulationName hwritten hrun.laid⟩
  · refine read_stored [] _ hm nameable_quarantineRepairSuite hsuite hlaid ?_
    rw [List.map_append, List.mem_append, not_or]
    exact ⟨currentPlace_notMem (by decide), currentPlace_notMem (by decide)⟩
  · exact read_stored _ _ hm nameable_operatorName hreview hlaid (currentPlace_notMem (by decide))

end Linked

/-- The chain ends on the five candidates, and the reports it leaves fit together. -/
theorem stored_chain_verifies_fiveTree : ∃ stdout after suite review written,
    Succeeds (simulateTestModeWriter wholeMachine) fiveTree stdout after ∧
      readJson wholeMachine (currentPath quarantineRepairSuite.name) after = .ok suite after ∧
      readJson wholeMachine (currentPath operatorName) after = .ok review after ∧
      readJson wholeMachine (currentPath simulationName) after = .ok written after ∧
      Linked wholeMachine suite review written := by
  obtain ⟨stdout, after, hrun⟩ := exists_simulation_of_fourOfFive numerals_wholeMachine
    listable_fiveTree storable_fiveTree candidates_fiveTree fourOfFive_fiveFiles
  obtain ⟨suite, review, written, hlinked, hsuite, hreview, hwritten⟩ :=
    stored_chain_verifies numerals_wholeMachine listable_fiveTree hrun
  exact ⟨stdout, after, suite, review, written, hrun, hsuite, hreview, hwritten, hlinked⟩

end Admissorium.Scripts
