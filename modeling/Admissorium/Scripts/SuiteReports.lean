import Admissorium.Scripts.WriterChain

/-!
# What the two suites report

Both suites sum up the same candidates, one by verdicts and one by routes. No candidate fails in
either of them, so neither script has a run that exits with 1; and what the two reports say of a
candidate is the same, down to the hashes of its verdict and its receipt.
-/
namespace Admissorium.Scripts
set_option autoImplicit false

open JavaScript Json Files Signing Signing.Replay Classify Verdict Verdict.Admission
open Pipeline.QuarantineSuite Pipeline.WriterSimulation Pipeline.StoredBundle Pipeline.WriterSeed

/-! ## Results of the verdict suite -/

section Results
variable {rt : Runtime} {file : String × Value} {result : Value}

/-- The result of a file, out of its verdict and its receipt. -/
structure VerdictResultOf (rt : Runtime) (file : String × Value) (verdict receipt result : Value) :
    Prop where
  verdict_eq : compileActuatorVerdict rt file.2 suiteOptions = .ok verdict
  receipt_eq : compileAdmissionReceipt rt verdict suiteOptions = .ok receipt
  result_eq : result = .obj (verdictResultFields file.1 verdict receipt true true)

theorem verifies_of_verdict {candidate verdict : Value}
    (h : compileActuatorVerdict rt candidate suiteOptions = .ok verdict) :
    signatureOk rt verdict = .ok true := by
  obtain ⟨_, _, h⟩ := bind_eq_ok.mp h
  obtain ⟨_, _, h⟩ := bind_eq_ok.mp h
  obtain ⟨_, _, h⟩ := bind_eq_ok.mp h
  obtain ⟨_, _, h⟩ := bind_eq_ok.mp h
  obtain ⟨_, _, h⟩ := bind_eq_ok.mp h
  obtain ⟨_, _, h⟩ := bind_eq_ok.mp h
  obtain ⟨own, rfl⟩ := isObject_of_signObject h
  exact verify_of_signObject h

theorem verifies_of_receipt {verdict receipt : Value}
    (h : compileAdmissionReceipt rt verdict suiteOptions = .ok receipt) :
    signatureOk rt receipt = .ok true := by
  obtain ⟨_, _, h⟩ := bind_eq_ok.mp h
  obtain ⟨_, _, h⟩ := bind_eq_ok.mp h
  obtain ⟨own, rfl⟩ := isObject_of_signObject h
  exact verify_of_signObject h

theorem verdictResult_eq_ok_iff : verdictResult rt file.1 file.2 = .ok result ↔
    ∃ verdict receipt, VerdictResultOf rt file verdict receipt result := by
  constructor
  · intro h
    obtain ⟨verdict, hverdict, h⟩ := bind_eq_ok.mp h
    obtain ⟨receipt, hreceipt, h⟩ := bind_eq_ok.mp h
    obtain ⟨ok, hok, h⟩ := bind_eq_ok.mp h
    obtain ⟨ok', hok', h⟩ := bind_eq_ok.mp h
    cases h
    obtain rfl := Except.ok.inj ((verifies_of_verdict hverdict).symm.trans hok)
    obtain rfl := Except.ok.inj ((verifies_of_receipt hreceipt).symm.trans hok')
    exact ⟨verdict, receipt, hverdict, hreceipt, rfl⟩
  · intro h
    obtain ⟨verdict, receipt, hverdict, hreceipt, rfl⟩ := h
    rw [verdictResult, hverdict, ok_bind, hreceipt, ok_bind, verifies_of_verdict hverdict, ok_bind,
      verifies_of_receipt hreceipt, ok_bind]
    rfl

/-- A candidate that can be classified has a verdict and a receipt. -/
theorem exists_verdictResult {surface : Surface} (h : classifySurface rt file.2 = .ok surface) :
    ∃ result, verdictResult rt file.1 file.2 = .ok result := by
  obtain ⟨mutation, risk, hclass⟩ := exists_classified h
  have hseed : seedText suiteOptions.signing_seed = .ok defaultLocalSigningSeed := rfl
  obtain ⟨own, hverdict⟩ := exists_compiled hseed hclass
  obtain ⟨receipt, hreceipt⟩ := exists_receipt_of_fields rt hseed own
  exact ⟨_, verdictResult_eq_ok_iff.mpr ⟨_, _, hverdict, hreceipt, rfl⟩⟩

theorem verdictFailed_eq_false {verdict receipt : Value}
    (h : VerdictResultOf rt file verdict receipt result) : verdictFailed result = false := by
  obtain ⟨hverdict, _, rfl⟩ := h
  obtain ⟨surface, mutation, risk, _, hget⟩ := get_of_verdict hverdict
  have hflags : ∀ key ∈ verdictFlags, verdict.get key = .bool false := by
    simp only [verdictFlags, List.forall_mem_cons, List.not_mem_nil, false_imp_iff, implies_true,
      and_true]
    exact ⟨hget _ (by decide), hget _ (by decide), hget _ (by decide), hget _ (by decide),
      hget _ (by decide)⟩
  have hcopied : ∀ key ∈ verdictFlags,
      (Value.obj (verdictResultFields file.1 verdict receipt true true)).get key =
        verdict.get key := by
    simp only [verdictFlags, List.forall_mem_cons, List.not_mem_nil, false_imp_iff, implies_true,
      and_true]
    exact ⟨rfl, rfl, rfl, rfl, rfl⟩
  have hoff : verdictFlags.any (fun key => !((Value.obj (verdictResultFields file.1 verdict receipt
      true true)).get key).strictEquals (.bool false)) = false := by
    rw [List.any_eq_false]
    intro key hkey
    rw [hcopied key hkey, hflags key hkey]
    decide
  rw [verdictFailed, hoff, Bool.or_false]
  rfl

end Results

/-! ## Exit codes -/

section ExitCodes
variable {m : Machine} {s : Suite} {fs after : FileSystem} {outcome : Outcome}

/-- A suite that comes to its end without a failed result exits with 0. -/
theorem code_of_runSuite (h : runSuite m s fs = .ok outcome after)
    (hpassed : ∀ (files : List (String × Value)) results,
      (∀ file ∈ files, Parsed m.read file.2) →
      List.Forall₂ (fun file result => s.result m.rt file.1 file.2 = .ok result) files results →
      ∀ result ∈ results, s.failed result = false) : outcome.code = 0 := by
  obtain ⟨_, made, _, hread⟩ := run_bind_eq_ok.mp h
  obtain ⟨names, listed, _, hcompile⟩ := run_bind_eq_ok.mp hread
  obtain ⟨results, looked, hloop, hstore⟩ := run_bind_eq_ok.mp hcompile
  obtain ⟨_, saved, _, hend⟩ := run_bind_eq_ok.mp hstore
  obtain ⟨hresults, _⟩ := (mapM_looks_eq_ok looks_resultOf).mp hloop
  obtain ⟨files, _, hreads, hcompiled⟩ := results_eq_ok.mp hresults
  have hparsed : ∀ file ∈ files, Parsed m.read file.2 := by
    intro file hfile
    obtain ⟨⟨text, _, hparse⟩, _⟩ := readJson_eq_ok.mp (hreads file hfile)
    exact parsed_of_parse hparse
  have hnone := filter_length_eq_zero_iff.mpr (hpassed files results hparsed hcompiled)
  obtain ⟨rfl, _⟩ := pure_eq_ok.mp hend
  rw [if_neg (not_not_intro hnone)]

/-- The exit code 1 of the two suites is never reached: whatever is in the tree, a run throws or
exits with 0. -/
theorem suites_exit_zero (hs : s = verdictReceiptSuite ∨ s = quarantineRepairSuite)
    (h : runSuite m s fs = .ok outcome after) : outcome.code = 0 := by
  refine code_of_runSuite h (fun files results hparsed hcompiled result hresult => ?_)
  obtain ⟨file, hfile, hof⟩ := exists_of_forall₂_right hcompiled hresult
  rcases hs with rfl | rfl
  · obtain ⟨verdict, receipt, hresultOf⟩ := verdictResult_eq_ok_iff.mp hof
    exact verdictFailed_eq_false hresultOf
  · exact resultFailed_eq_false (resultOf_of_suiteResult hof) (hparsed file hfile)

end ExitCodes

/-- The quarantine suite of the five candidates. -/
theorem succeeds_quarantine_fiveTree :
    ∃ stdout after, Succeeds (routeQuarantineRepair wholeMachine) fiveTree stdout after := by
  obtain ⟨results, hresults⟩ :=
    (exists_results_iff wholeMachine fiveFiles).mpr fourOfFive_fiveFiles.accepted
  obtain ⟨after, hrun, _⟩ := exists_runSuite nameable_quarantineRepairSuite
    listable_fiveTree.finite storable_fiveTree.makeable storable_fiveTree.suite_free
    candidates_fiveTree ((passes_iff candidates_fiveTree.parsed).mpr hresults)
  exact ⟨_, after, hrun⟩

theorem suites_exit_zero_fiveTree : ∃ outcome after,
    runSuite wholeMachine quarantineRepairSuite fiveTree = .ok outcome after ∧ outcome.code = 0 := by
  obtain ⟨stdout, after, hrun⟩ := succeeds_quarantine_fiveTree
  exact ⟨_, after, hrun, suites_exit_zero (Or.inr rfl) hrun⟩

/-! ## Agreement -/

/-- What the two suites say of one candidate. -/
structure Agree (v q : Value) : Prop where
  file : v.get "file" = q.get "file"
  candidate_id : v.get "candidate_id" = q.get "candidate_id"
  state : v.get "verdict_state" = q.get "verdict_state"
  risk : v.get "risk" = q.get "risk"
  required : q.get "quarantine_required" = .bool (!admittedReportOnly v)
  verdict_hash : (q.get "quarantine").get "verdict_hash" = (v.get "verdict").get "canonical_hash"
  receipt_hash : (q.get "quarantine").get "receipt_hash" = (v.get "receipt").get "canonical_hash"

/-- The summaries say the same of every candidate, in one order, and count the same. -/
structure SuitesAgree (vs qs : List Value) : Prop where
  results : List.Forall₂ Agree vs qs
  total : (Value.obj (verdictSummary vs)).get "total" = (Value.obj (suiteFields qs)).get "total"
  blocked : (Value.obj (verdictSummary vs)).get "blocked_or_quarantined" =
    (Value.obj (suiteFields qs)).get "quarantined"
  passed : (Value.obj (verdictSummary vs)).get "admitted_report_only" =
    (Value.obj (suiteFields qs)).get "passed_without_quarantine"

section Agreement
variable {m : Machine} {fs after after' : FileSystem} {stdout stdout' : String}

theorem agree_of_results {rt : Runtime} {file : String × Value} {verdict receipt v q : Value}
    (hv : VerdictResultOf rt file verdict receipt v) (hq : ResultOf rt file q)
    {read : String → Option Number} (hparsed : Parsed read file.2) : Agree v q := by
  obtain ⟨hverdict, hreceipt, rfl⟩ := hv
  obtain ⟨surface, mutation, risk, stages, hclass, hstages, rfl⟩ := hq.stages
  have hcopied := copied_of_stages hstages hclass hparsed
  have htold := says_of_stages hstages hclass
  have hsame : stages.verdict = verdict ∧ stages.receipt = receipt := by
    obtain ⟨verdict', hverdict', hstages⟩ := bind_eq_ok.mp hstages
    obtain ⟨receipt', hreceipt', hstages⟩ := bind_eq_ok.mp hstages
    obtain ⟨_, _, hstages⟩ := bind_eq_ok.mp hstages
    obtain ⟨_, _, hstages⟩ := bind_eq_ok.mp hstages
    cases hstages
    obtain rfl := Except.ok.inj (hverdict.symm.trans hverdict')
    obtain rfl := Except.ok.inj (hreceipt.symm.trans hreceipt')
    exact ⟨rfl, rfl⟩
  obtain ⟨rfl, rfl⟩ := hsame
  have hadmitted : admittedReportOnly (.obj (verdictResultFields file.1 stages.verdict stages.receipt
      true true)) = !blocked risk := by
    change (stages.verdict.get "state").strictEquals (.str "ADMISSIBLE_REPORT_ONLY") = _
    rw [htold.state, verdictState_eq, blocked]
    cases risk.risk <;> decide
  have hquarantine : stages.quarantine.get "verdict_hash" = stages.verdict.get "canonical_hash" :=
    get_of_signObject hcopied.quarantine_eq (by decide)
  have hreceiptHash : stages.quarantine.get "receipt_hash" = stages.receipt.get "canonical_hash" :=
    get_of_signObject hcopied.quarantine_eq (by decide)
  exact {
    file := rfl
    candidate_id := rfl
    state := rfl
    risk := rfl
    required := by
      rw [hadmitted, Bool.not_not]
      exact htold.required
    verdict_hash := hquarantine
    receipt_hash := hreceiptHash }

/-- Lists with the same bits have the same count. -/
theorem count_eq_of_map_eq {vs qs : List Value} {f g : Value → Bool} (h : vs.map f = qs.map g) :
    count f vs = count g qs := by
  have hcount := congrArg (List.countP id) h
  rw [List.countP_map, List.countP_map] at hcount
  have hlength : (vs.filter f).length = (qs.filter g).length := by
    rw [← List.countP_eq_length_filter, ← List.countP_eq_length_filter]
    exact hcount
  rw [count, count, hlength]

theorem suitesAgree_of_results {vs qs : List Value} (h : List.Forall₂ Agree vs qs) :
    SuitesAgree vs qs := by
  have hbits : qs.map quarantineRequired = vs.map (fun v => !admittedReportOnly v) := by
    refine map_eq_of_forall₂ h (fun v q hagree => ?_)
    rw [quarantineRequired, hagree.required]
    rfl
  have hothers : qs.map (fun q => !quarantineRequired q) = vs.map admittedReportOnly := by
    refine map_eq_of_forall₂ h (fun v q hagree => ?_)
    rw [quarantineRequired, hagree.required]
    exact Bool.not_not _
  exact {
    results := h
    total := congrArg (fun n : Nat => Value.num (n : Number)) h.length_eq
    blocked := (count_eq_of_map_eq hbits).symm
    passed := (count_eq_of_map_eq hothers).symm }

/-- Two lists that are each made from a third are related item by item. -/
theorem forall₂_of_common {α β γ : Type} {R : α → β → Prop} {S : α → γ → Prop} {T : β → γ → Prop}
    {l : List α} {bs : List β} {cs : List γ} (h : List.Forall₂ R l bs) (h' : List.Forall₂ S l cs)
    (hmade : ∀ a ∈ l, ∀ b c, R a b → S a c → T b c) : List.Forall₂ T bs cs := by
  induction h generalizing cs with
  | nil =>
      cases h'
      exact List.Forall₂.nil
  | cons hb _ ih =>
      obtain ⟨c, rest, hc, hrest, rfl⟩ := List.forall₂_cons_left_iff.mp h'
      obtain ⟨hfirst, hmore⟩ := List.forall_mem_cons.mp hmade
      exact List.Forall₂.cons (hfirst _ _ hb hc) (ih hrest hmore)

/-- A tree has one list of candidates. -/
theorem Candidates.unique {files others : List (String × Value)} (h : Candidates m fs files)
    (h' : Candidates m fs others) : files = others := by
  have hnames : files.map Prod.fst = others.map Prod.fst := h.names.trans h'.names.symm
  have hreads := h.read
  have hreads' := h'.read
  clear h h'
  induction files generalizing others with
  | nil =>
      cases others with
      | nil => rfl
      | cons _ _ => cases hnames
  | cons file rest ih =>
      cases others with
      | nil => cases hnames
      | cons other more =>
          obtain ⟨hname, htail⟩ := List.cons.inj hnames
          obtain ⟨hfirst, hrest⟩ := List.forall_mem_cons.mp hreads
          obtain ⟨hfirst', hmore⟩ := List.forall_mem_cons.mp hreads'
          rw [← hname, hfirst, EStateM.Result.ok.injEq] at hfirst'
          rw [Prod.ext hname hfirst'.1, ih htail hrest hmore]

/-- The two suites of one tree store reports that agree. -/
theorem suites_agree (hfinite : {name | fs.node (name :: candidatePlace fs.cwd) ≠ none}.Finite)
    (hv : Succeeds (compileVerdictReceipt m) fs stdout after)
    (hq : Succeeds (routeQuarantineRepair m) fs stdout' after') :
    ∃ vs qs, SuitesAgree vs qs ∧
      after.text (currentPlace fs.cwd verdictReceiptSuite.name) =
        some (storedJson m (.obj (verdictSummary vs))) ∧
      after'.text (currentPlace fs.cwd quarantineRepairSuite.name) =
        some (storedJson m (.obj (suiteFields qs))) := by
  obtain ⟨_, _, files, vs, hcand, hpasses, _, hlaid⟩ :=
    of_runSuite nameable_verdictReceiptSuite hfinite hv
  obtain ⟨_, _, files', qs, hcand', hpasses', _, hlaid'⟩ :=
    of_runSuite nameable_quarantineRepairSuite hfinite hq
  obtain rfl := hcand.unique hcand'
  have hagree : List.Forall₂ Agree vs qs := by
    refine forall₂_of_common hpasses.compiled hpasses'.compiled (fun file hfile v q hv hq => ?_)
    obtain ⟨verdict, receipt, hof⟩ := verdictResult_eq_ok_iff.mp hv
    exact agree_of_results hof (resultOf_of_suiteResult hq) (hcand.parsed file hfile)
  have htext : ∀ {name : String} {summary : Fields} {tree : FileSystem},
      LaidReports fs (summaryWrites m fs.cwd name summary) tree →
        tree.text (currentPlace fs.cwd name) = some (storedJson m (.obj summary)) := fun h =>
    text_of_stored [] [] h List.not_mem_nil
  exact ⟨vs, qs, suitesAgree_of_results hagree, htext hlaid, htext hlaid'⟩

/-- The verdict suite exits with 0 where its candidates can be classified and stored. -/
theorem exists_compileVerdictReceipt {files : List (String × Value)}
    (hfinite : {name | fs.node (name :: candidatePlace fs.cwd) ≠ none}.Finite)
    (hmakeable : Makeable fs) (hfree : Free fs verdictReceiptSuite.name)
    (hcand : Candidates m fs files)
    (haccepted : ∀ file ∈ files, ∃ surface, classifySurface m.rt file.2 = .ok surface) :
    ∃ stdout after, Succeeds (compileVerdictReceipt m) fs stdout after := by
  have hexists : ∃ results, files.mapM (fun file => verdictResult m.rt file.1 file.2) =
      .ok results := exists_mapM_eq_ok (fun file hfile => by
    obtain ⟨surface, hsurface⟩ := haccepted file hfile
    exact exists_verdictResult hsurface)
  obtain ⟨results, hresults⟩ := hexists
  have hpasses : Passes m verdictReceiptSuite files results := by
    refine ⟨(mapM_eq_ok_iff _ _ _).mp hresults, fun result hresult => ?_⟩
    obtain ⟨file, _, hof⟩ := (mem_mapM_iff hresults result).mp hresult
    obtain ⟨verdict, receipt, hresultOf⟩ := verdictResult_eq_ok_iff.mp hof
    exact verdictFailed_eq_false hresultOf
  obtain ⟨after, hrun, _⟩ := exists_runSuite nameable_verdictReceiptSuite hfinite hmakeable hfree
    hcand hpasses
  exact ⟨_, after, hrun⟩

end Agreement

/-- The verdict suite of the five candidates. -/
theorem succeeds_verdicts_fiveTree :
    ∃ stdout after, Succeeds (compileVerdictReceipt wholeMachine) fiveTree stdout after :=
  exists_compileVerdictReceipt listable_fiveTree.finite storable_fiveTree.makeable
    ⟨by decide, by decide⟩ candidates_fiveTree fourOfFive_fiveFiles.accepted

/-- Both suites end on the five candidates, and what they store agrees. -/
theorem suites_agree_fiveTree : ∃ stdout after stdout' after' vs qs,
    Succeeds (compileVerdictReceipt wholeMachine) fiveTree stdout after ∧
      Succeeds (routeQuarantineRepair wholeMachine) fiveTree stdout' after' ∧
      after.text (currentPlace [] verdictReceiptSuite.name) =
        some (storedJson wholeMachine (.obj (verdictSummary vs))) ∧
      after'.text (currentPlace [] quarantineRepairSuite.name) =
        some (storedJson wholeMachine (.obj (suiteFields qs))) ∧ SuitesAgree vs qs := by
  obtain ⟨stdout, after, hverdicts⟩ := succeeds_verdicts_fiveTree
  obtain ⟨stdout', after', hquarantine⟩ := succeeds_quarantine_fiveTree
  obtain ⟨vs, qs, hagree, hv, hq⟩ := suites_agree listable_fiveTree.finite hverdicts hquarantine
  exact ⟨stdout, after, stdout', after', vs, qs, hverdicts, hquarantine, hv, hq, hagree⟩

end Admissorium.Scripts
