import Admissorium.Files.Endings
import Admissorium.Scripts.Filing

/-!
# What a step needs

For each step, what a tree must hold for it to exit with 0, told of the tree alone. A step leaves a
tree in which only reports were filed, and reports change nothing about what any step needs, so that
all of it can be told of the tree before the first step.
-/
namespace Admissorium.Scripts
set_option autoImplicit false

open JavaScript Json Files Signing Verdict Hostile ValidateObject App.WebhookIntake
open Verdict.Admission Pipeline.WriterSimulation Pipeline.QuarantineSuite

/-! ## What filing leaves as it was -/

/-- A tree as hosts have it. -/
structure Hosted (m : Machine) (fs : FileSystem) : Prop where
  named : Named fs.cwd
  candidates : Browsable fs (candidatePlace fs.cwd)
  fixtures : Browsable fs (hostilePlace fs.cwd)
  reports : Browsable fs (currentDir fs.cwd)
  small : (jsonNames (m.listing.names fs (candidatePlace fs.cwd))).length < 2 ^ 32

section Kept
variable {m : Machine} {reach : Reach} {fs after : FileSystem} {name path : String}
  {kind : SnapshotKind} {stamp : Instant}

theorem Hosted.listable (h : Hosted m fs) : Listable m fs := ⟨h.candidates.finite, h.small⟩

theorem beside_candidate (cwd : Place) (name : String) : Beside cwd (name :: candidatePlace cwd) :=
  beside_append cwd (List.cons_ne_nil name ["candidates", "v020", "fixtures"]) (by simp)

theorem beside_hostile (cwd : Place) (name : String) : Beside cwd (name :: hostilePlace cwd) :=
  beside_append cwd (List.cons_ne_nil name ["hostile", "v020", "fixtures"]) (by simp)

theorem beside_candidatePlace (cwd : Place) : Beside cwd (candidatePlace cwd) :=
  beside_append cwd (List.cons_ne_nil "candidates" ["v020", "fixtures"]) (by simp)

theorem beside_hostilePlace (cwd : Place) : Beside cwd (hostilePlace cwd) :=
  beside_append cwd (List.cons_ne_nil "hostile" ["v020", "fixtures"]) (by simp)

theorem Filed.readJson_iff (h : Filed reach fs after) (hplace : Beside fs.cwd (resolve fs.cwd path))
    {v : Value} : readJson m path after = .ok v after ↔ readJson m path fs = .ok v fs := by
  rw [readJson_eq_ok, readJson_eq_ok, h.cwd, h.text_of_beside hplace, and_iff_left rfl,
    and_iff_left rfl]

/-- The names of a directory beside the reports. -/
theorem Filed.jsonNames_eq (h : Filed reach fs after) {place : Place}
    (hfinite : {name | fs.node (name :: place) ≠ none}.Finite)
    (hbeside : ∀ name, Beside fs.cwd (name :: place)) :
    jsonNames (m.listing.names after place) = jsonNames (m.listing.names fs place) :=
  jsonNames_eq_of_nodes hfinite (fun name => (h.node_iff_of_beside (hbeside name)).symm)

/-- A name that is listed is one the host can have. -/
theorem isName_of_listed {place : Place} (hbrowse : Browsable fs place)
    (hname : name ∈ jsonNames (m.listing.names fs place)) : IsName name :=
  (hbrowse.names name ((m.listing.mem_names fs place hbrowse.finite name).mp
    (mem_jsonNames.mp hname).1)).1

theorem Filed.candidates_iff (h : Filed reach fs after)
    (hbrowse : Browsable fs (candidatePlace fs.cwd)) {files : List (String × Value)} :
    Candidates m after files ↔ Candidates m fs files := by
  have hdir := h.dir_iff_of_beside (beside_candidatePlace fs.cwd)
  have hnames : jsonNames (m.listing.names after (candidatePlace fs.cwd)) = _ :=
    h.jsonNames_eq hbrowse.finite (beside_candidate fs.cwd)
  have hread : files.map Prod.fst = jsonNames (m.listing.names fs (candidatePlace fs.cwd)) →
      ∀ file ∈ files, readJson m (join [candidateDir, file.1]) after = .ok file.2 after ↔
        readJson m (join [candidateDir, file.1]) fs = .ok file.2 fs := by
    intro hfiles file hfile
    have hname : IsName file.1 :=
      isName_of_listed hbrowse (hfiles ▸ List.mem_map_of_mem hfile)
    refine h.readJson_iff ?_
    rw [resolve_join fs.cwd (by decide) hname]
    exact beside_candidate fs.cwd file.1
  constructor
  · intro hcand
    have hd := hcand.dir
    have hn := hcand.names
    rw [h.cwd] at hd hn
    rw [hnames] at hn
    exact ⟨hdir.mp hd, hn, fun file hf => (hread hn file hf).mp (hcand.read file hf)⟩
  · intro hcand
    refine ⟨?_, ?_, fun file hf => (hread hcand.names file hf).mpr (hcand.read file hf)⟩
    · rw [h.cwd]
      exact hdir.mpr hcand.dir
    · rw [h.cwd, hnames]
      exact hcand.names

theorem Filed.evaluates_iff (h : Filed reach fs after)
    (hbrowse : Browsable fs (hostilePlace fs.cwd)) {results : List HostileResult} :
    Evaluates m after results ↔ Evaluates m fs results := by
  have hdir := h.dir_iff_of_beside (beside_hostilePlace fs.cwd)
  have hnames : jsonNames (m.listing.names after (hostilePlace fs.cwd)) = _ :=
    h.jsonNames_eq hbrowse.finite (beside_hostile fs.cwd)
  have hread : ∀ name ∈ jsonNames (m.listing.names fs (hostilePlace fs.cwd)), ∀ v,
      readJson m (join [hostileDir, name]) after = .ok v after ↔
        readJson m (join [hostileDir, name]) fs = .ok v fs := by
    intro name hname v
    refine h.readJson_iff ?_
    rw [resolve_join fs.cwd (by decide) (isName_of_listed hbrowse hname)]
    exact beside_hostile fs.cwd name
  have hall : List.Forall₂ (fun name result => ∃ fixture,
      readJson m (join [hostileDir, name]) after = .ok fixture after ∧
        evaluateHostileFixture m.rt fixture = .ok result)
      (jsonNames (m.listing.names fs (hostilePlace fs.cwd))) results ↔
    List.Forall₂ (fun name result => ∃ fixture,
      readJson m (join [hostileDir, name]) fs = .ok fixture fs ∧
        evaluateHostileFixture m.rt fixture = .ok result)
      (jsonNames (m.listing.names fs (hostilePlace fs.cwd))) results := by
    constructor
    · intro hleft
      refine ((List.forall₂_and_left _ _).mpr ⟨hread, hleft⟩).imp (fun name result hboth => ?_)
      obtain ⟨hsame, fixture, hfixture, hresult⟩ := hboth
      exact ⟨fixture, (hsame fixture).mp hfixture, hresult⟩
    · intro hright
      refine ((List.forall₂_and_left _ _).mpr ⟨hread, hright⟩).imp (fun name result hboth => ?_)
      obtain ⟨hsame, fixture, hfixture, hresult⟩ := hboth
      exact ⟨fixture, (hsame fixture).mpr hfixture, hresult⟩
  constructor
  · intro hleft
    obtain ⟨hthere, hevaluated⟩ := hleft
    rw [h.cwd] at hthere hevaluated
    rw [hnames] at hevaluated
    exact ⟨hdir.mp hthere, hall.mp hevaluated⟩
  · intro hright
    constructor <;> rw [h.cwd]
    · exact hdir.mpr hright.dir
    · rw [hnames]
      exact hall.mpr hright.evaluated

theorem currentPlace_mem (cwd : Place) (name : String) :
    currentPlace cwd name ∈ Reach.places cwd ⟨[name], []⟩ :=
  Or.inl ⟨name, List.mem_cons_self, Or.inl rfl⟩

theorem latestPlace_mem (cwd : Place) (name : String) :
    latestPlace cwd name ∈ Reach.places cwd ⟨[name], []⟩ :=
  Or.inl ⟨name, List.mem_cons_self, Or.inr rfl⟩

theorem snapshotFile_mem (cwd : Place) (kind : SnapshotKind) (stamp : Instant) (file : String) :
    file :: snapshotPlace cwd kind stamp ∈ Reach.places cwd ⟨[], [(kind, stamp)]⟩ :=
  Or.inr ⟨(kind, stamp), List.mem_cons_self, file, rfl⟩

theorem Filed.roomFor_iff (h : Filed reach fs after) {files : List String} :
    RoomFor after name kind stamp files ↔ RoomFor fs name kind stamp files := by
  have hcurrent := h.canMake_iff _ (Or.inl (Eq.refl (currentDir fs.cwd)))
  have hsnapshot := h.canMake_iff _ (Or.inr (Or.inr ⟨kind, stamp, Eq.refl _⟩))
  have hreport := h.free_iff (currentPlace_mem fs.cwd name)
  have hkept : ∀ file, after.node (file :: snapshotPlace fs.cwd kind stamp) ≠ some .dir ↔
      fs.node (file :: snapshotPlace fs.cwd kind stamp) ≠ some .dir :=
    fun file => h.free_iff (snapshotFile_mem fs.cwd kind stamp file)
  constructor
  · intro hroom
    obtain ⟨hc, hs, hr, hk⟩ := hroom
    rw [h.cwd] at hc hs hr hk
    exact ⟨hcurrent.mp hc, hsnapshot.mp hs, hreport.mp hr,
      fun file hfile => (hkept file).mp (hk file hfile)⟩
  · intro hroom
    obtain ⟨hc, hs, hr, hk⟩ := hroom
    constructor <;> rw [h.cwd]
    · exact hcurrent.mpr hc
    · exact hsnapshot.mpr hs
    · exact hreport.mpr hr
    · exact fun file hfile => (hkept file).mpr (hk file hfile)

theorem Filed.makeable_iff (h : Filed reach fs after) : Makeable after ↔ Makeable fs := by
  have hcurrent := h.canMake_iff _ (Or.inl (Eq.refl (currentDir fs.cwd)))
  have hhistory := h.canMake_iff _ (Or.inr (Or.inl (Eq.refl (historyDir fs.cwd))))
  constructor
  · intro hmake
    obtain ⟨hc, hh⟩ := hmake
    rw [h.cwd] at hc hh
    exact ⟨hcurrent.mp hc, hhistory.mp hh⟩
  · intro hmake
    constructor <;> rw [h.cwd]
    · exact hcurrent.mpr hmake.current
    · exact hhistory.mpr hmake.history

theorem Filed.summary_free_iff (h : Filed reach fs after) (name : String) :
    Free after name ↔ Free fs name := by
  have hcurrent := h.free_iff (currentPlace_mem fs.cwd name)
  have hlatest := h.free_iff (latestPlace_mem fs.cwd name)
  constructor
  · intro hfree
    obtain ⟨hc, hl⟩ := hfree
    rw [h.cwd] at hc hl
    exact ⟨hcurrent.mp hc, hlatest.mp hl⟩
  · intro hfree
    constructor <;> rw [h.cwd]
    · exact hcurrent.mpr hfree.current
    · exact hlatest.mpr hfree.latest

theorem Filed.storable_iff (h : Filed reach fs after) : Storable after ↔ Storable fs :=
  ⟨fun hs => ⟨h.makeable_iff.mp hs.makeable, (h.summary_free_iff _).mp hs.suite_free,
      (h.summary_free_iff _).mp hs.bundle_free, (h.summary_free_iff _).mp hs.simulation_free⟩,
    fun hs => ⟨h.makeable_iff.mpr hs.makeable, (h.summary_free_iff _).mpr hs.suite_free,
      (h.summary_free_iff _).mpr hs.bundle_free, (h.summary_free_iff _).mpr hs.simulation_free⟩⟩

/-- The names of reports can be used. -/
def Reach.Usable (reach : Reach) : Prop :=
  ∀ name ∈ reach.names, IsName (name ++ ".json") ∧ hasNul (name ++ ".json") = false

instance (reach : Reach) : Decidable reach.Usable :=
  inferInstanceAs (Decidable (∀ name ∈ reach.names, _))

/-- What is in the current reports was there before or is a report that was filed. -/
theorem Filed.current_cases (h : Filed reach fs after)
    (hthere : after.node (name :: currentDir fs.cwd) ≠ none) :
    fs.node (name :: currentDir fs.cwd) ≠ none ∨ ∃ report ∈ reach.names, name = report ++ ".json" := by
  by_cases hplace : name :: currentDir fs.cwd ∈ reach.places fs.cwd
  · right
    rcases hplace with ⟨report, hreport, hsame | hsame⟩ | ⟨_, _, _, hsame⟩
    · exact ⟨report, hreport, (List.cons.inj hsame).1⟩
    · have hdir := (List.cons.inj (List.cons.inj hsame).2).1
      exact absurd hdir (by decide)
    · have hlength := congrArg List.length hsame
      simp only [currentDir, snapshotPlace, historyDir, List.length_cons] at hlength
      omega
  · left
    have hinside : fs.cwd <:+ name :: currentDir fs.cwd :=
      List.suffix_append [name, "current", "reports"] fs.cwd
    have hdir : after.node (name :: currentDir fs.cwd) = some .dir ↔
        fs.node (name :: currentDir fs.cwd) = some .dir :=
      h.dir_iff _ hinside (fun _ hdir => current_not_above hdir)
    rw [node_ne_none_iff, hdir, h.text _ hinside hplace] at hthere
    exact node_ne_none_iff.mpr hthere

theorem Hosted.of_filed (hhost : Hosted m fs) (husable : reach.Usable) (h : Filed reach fs after) :
    Hosted m after where
  named := h.cwd ▸ hhost.named
  candidates := by
    rw [h.cwd]
    exact hhost.candidates.of_subset (fun name hname =>
      (h.node_iff_of_beside (beside_candidate fs.cwd name)).mp hname)
  fixtures := by
    rw [h.cwd]
    exact hhost.fixtures.of_subset (fun name hname =>
      (h.node_iff_of_beside (beside_hostile fs.cwd name)).mp hname)
  reports := by
    rw [h.cwd]
    refine ⟨?_, fun name hname => ?_⟩
    · refine (hhost.reports.finite.union
        (reach.names.map (fun report => report ++ ".json")).finite_toSet).subset ?_
      intro name hname
      rcases h.current_cases hname with hold | ⟨report, hreport, rfl⟩
      · exact Or.inl hold
      · exact Or.inr (List.mem_map.mpr ⟨report, hreport, rfl⟩)
    · rcases h.current_cases hname with hold | ⟨report, hreport, rfl⟩
      · exact hhost.reports.names name hold
      · exact husable report hreport
  small := by
    rw [h.cwd, h.jsonNames_eq hhost.candidates.finite (beside_candidate fs.cwd)]
    exact hhost.small

end Kept

/-! ## What each script needs -/

section Succeeds
variable {m : Machine} {reach : Reach} {fs after : FileSystem} {cwd : Place} {name stdout : String}
  {kind : SnapshotKind} {stamp created : Instant} {schemas : List Schema} {summary : Fields}

theorem filed_of_stores {files : List String} {tasks : List FileTask}
    (h : Stores fs.cwd name kind stamp files tasks) (hrun : runTasks tasks fs = .ok () after) :
    Filed ⟨[name], [(kind, stamp)]⟩ fs after := by
  refine filed_of_laid (h.run_iff.2 after hrun) (fun dir hdir => ?_) (fun write hwrite => ?_)
  · rcases h.made dir hdir with rfl | rfl | rfl
    · exact Or.inl rfl
    · exact Or.inr (Or.inl rfl)
    · exact Or.inr (Or.inr ⟨kind, stamp, rfl⟩)
  · have hplace := List.mem_map_of_mem (f := Prod.fst) hwrite
    rw [h.written, List.mem_cons, List.mem_map] at hplace
    rcases hplace with hplace | ⟨file, _, hplace⟩
    · exact Or.inl ⟨name, List.mem_cons_self, Or.inl hplace⟩
    · exact Or.inr ⟨(kind, stamp), List.mem_cons_self, file, hplace.symm⟩

theorem filed_of_laidReports {writes : List (Place × String)} (h : LaidReports fs writes after)
    (hwrites : ∀ write ∈ writes, write.1 ∈ reach.places fs.cwd) : Filed reach fs after := by
  refine filed_of_laid h ?_ hwrites
  rw [List.forall_mem_cons, List.forall_mem_singleton]
  exact ⟨Or.inl rfl, Or.inr (Or.inl rfl)⟩

theorem mem_summaryWrites (hname : name ∈ reach.names) :
    ∀ write ∈ summaryWrites m cwd name summary, write.1 ∈ reach.places cwd := by
  rw [summaryWrites, List.forall_mem_cons, List.forall_mem_singleton]
  exact ⟨Or.inl ⟨name, hname, Or.inl rfl⟩, Or.inl ⟨name, hname, Or.inr rfl⟩⟩

theorem outcome_eq_of_code {outcome : Outcome} (h : outcome.code = 0) :
    outcome = ⟨outcome.stdout, 0⟩ := by
  cases outcome
  cases h
  rfl

theorem validateObjects_succeeds_iff (hmain : IsMain m fs.cwd objectsScript)
    (hschemas : List.Forall₂ (HoldsSchema m fs) PAIRS schemas) :
    (∃ stdout after, Succeeds (validateObjects m stamp created) fs stdout after) ↔
      List.Forall₂ (HoldsValid m fs) PAIRS schemas ∧
        RoomFor fs "v020-schema-validation" .schemaValidation stamp ["manifest.json"] := by
  have hgood : ∀ pair schema result, HoldsSchema m fs pair schema →
      validateFile m pair.1 pair.2 fs = .ok result fs →
      (result.ok = true ↔ HoldsValid m fs pair schema) :=
    fun pair schema result hschema hresult => (validateFile_eq_ok_iff hschema).2 result hresult
  constructor
  · intro h
    obtain ⟨stdout, after, hrun⟩ := h
    obtain ⟨results, hresults, htasks, hout⟩ := (validateObjects_eq_ok_iff hmain).mp hrun
    have hcode : (objectsOutcome m results).code = 0 := by rw [← hout]
    exact ⟨(forall_mem_iff_forall₂ hschemas hresults hgood).mp ((code_eq_zero_iff results).mp hcode),
      (stores_objectsTasks fs.cwd results).run_iff.1.mp ⟨after, htasks⟩⟩
  · intro h
    obtain ⟨hvalid, hroom⟩ := h
    have hall : ∀ pair ∈ PAIRS, ∃ result, validateFile m pair.1 pair.2 fs = .ok result fs := by
      intro pair hpair
      obtain ⟨schema, _, hschema⟩ := exists_of_forall₂_left hschemas hpair
      obtain ⟨_, _, value, hvalue, _⟩ := exists_of_forall₂_left hvalid hpair
      exact (validateFile_eq_ok_iff hschema).1.mpr ⟨value, hvalue⟩
    obtain ⟨results, hresults⟩ := exists_forall₂ hall
    have hstores : Stores fs.cwd "v020-schema-validation" .schemaValidation stamp
        ["manifest.json"] (objectsTasks m stamp created results) := stores_objectsTasks _ _
    obtain ⟨after, htasks⟩ := hstores.run_iff.1.mpr hroom
    have hcode : (objectsOutcome m results).code = 0 := (code_eq_zero_iff results).mpr
      ((forall_mem_iff_forall₂ hschemas hresults hgood).mpr hvalid)
    exact ⟨_, after, (validateObjects_eq_ok_iff hmain).mpr
      ⟨results, hresults, htasks, (outcome_eq_of_code hcode).symm⟩⟩

theorem evaluateCandidates_succeeds_iff (hmain : IsMain m fs.cwd candidatesScript) :
    (∃ stdout after, Succeeds (evaluateCandidates m stamp created) fs stdout after) ↔
      (∀ name ∈ caseNames, ∃ report,
        evaluateCandidateFiles m acceptedGraphPath (casePath name) fs = .ok report fs) ∧
      RoomFor fs "v020-classifier-comparator" .classifierComparator stamp ["manifest.json"] := by
  constructor
  · intro h
    obtain ⟨stdout, after, hrun⟩ := h
    obtain ⟨reports, hreports, htasks, _⟩ := (evaluateCandidates_eq_ok_iff hmain).mp hrun
    refine ⟨fun name hname => ?_, (stores_classifierTasks fs.cwd reports).run_iff.1.mp ⟨after, htasks⟩⟩
    obtain ⟨report, _, hreport⟩ := exists_of_forall₂_left hreports hname
    exact ⟨report, hreport⟩
  · intro h
    obtain ⟨hall, hroom⟩ := h
    obtain ⟨reports, hreports⟩ := exists_forall₂ hall
    have hstores : Stores fs.cwd "v020-classifier-comparator" .classifierComparator stamp
        ["manifest.json"] (classifierTasks m stamp created reports) := stores_classifierTasks _ _
    obtain ⟨after, htasks⟩ := hstores.run_iff.1.mpr hroom
    exact ⟨_, after, (evaluateCandidates_eq_ok_iff hmain).mpr ⟨reports, hreports, htasks, rfl⟩⟩

theorem compileVerdictReceipt_succeeds_iff
    (hfinite : {name | fs.node (name :: candidatePlace fs.cwd) ≠ none}.Finite) :
    (∃ stdout after, Succeeds (compileVerdictReceipt m) fs stdout after) ↔
      (Makeable fs ∧ Free fs verdictReceiptSuite.name) ∧
        ∃ files, Candidates m fs files ∧ Accepted m.rt files := by
  constructor
  · intro h
    obtain ⟨stdout, after, hrun⟩ := h
    obtain ⟨hmakeable, hfree, files, results, hcand, hpasses, _⟩ :=
      of_runSuite nameable_verdictReceiptSuite hfinite hrun
    refine ⟨⟨hmakeable, hfree⟩, files, hcand, fun file hfile => ?_⟩
    obtain ⟨result, _, hresult⟩ := exists_of_forall₂_left hpasses.compiled hfile
    obtain ⟨verdict, receipt, hverdict, _⟩ := verdictResult_eq_ok_iff.mp hresult
    obtain ⟨surface, _, _, hclass, _⟩ := get_of_verdict hverdict
    exact ⟨surface, hclass.surface_eq⟩
  · intro h
    obtain ⟨⟨hmakeable, hfree⟩, files, hcand, haccepted⟩ := h
    exact exists_compileVerdictReceipt hfinite hmakeable hfree hcand haccepted

theorem routeQuarantineRepair_succeeds_iff
    (hfinite : {name | fs.node (name :: candidatePlace fs.cwd) ≠ none}.Finite) :
    (∃ stdout after, Succeeds (routeQuarantineRepair m) fs stdout after) ↔
      (Makeable fs ∧ Free fs quarantineRepairSuite.name) ∧
        ∃ files, Candidates m fs files ∧ Accepted m.rt files := by
  constructor
  · intro h
    obtain ⟨stdout, after, hrun⟩ := h
    obtain ⟨hmakeable, hfree, files, results, hcand, hpasses, _⟩ :=
      of_runSuite nameable_quarantineRepairSuite hfinite hrun
    exact ⟨⟨hmakeable, hfree⟩, files, hcand,
      (exists_results_iff m files).mp ⟨results, (passes_iff hcand.parsed).mp hpasses⟩⟩
  · intro h
    obtain ⟨⟨hmakeable, hfree⟩, files, hcand, haccepted⟩ := h
    obtain ⟨results, hresults⟩ := (exists_results_iff m files).mpr haccepted
    obtain ⟨after, hrun, _⟩ := exists_runSuite nameable_quarantineRepairSuite hfinite hmakeable hfree
      hcand ((passes_iff hcand.parsed).mpr hresults)
    exact ⟨_, after, hrun⟩

theorem compileOperatorReview_succeeds_iff (hm : Numerals m) (hlist : Listable m fs) :
    (∃ stdout after, Succeeds (compileOperatorReview m) fs stdout after) ↔
      (Makeable fs ∧ Free fs quarantineRepairSuite.name ∧ Free fs operatorName) ∧
        ∃ files, Candidates m fs files ∧ Accepted m.rt files := by
  constructor
  · intro h
    obtain ⟨stdout, after, hrun⟩ := h
    obtain ⟨files, results, bundle, hreviewed, _⟩ := reviewed_of_operator hm hlist hrun
    exact ⟨⟨hreviewed.makeable, hreviewed.suite_free, hreviewed.bundle_free⟩, files,
      hreviewed.candidates, (exists_results_iff m files).mp ⟨results, hreviewed.of_files⟩⟩
  · intro h
    obtain ⟨⟨hmakeable, hsuite, hoperator⟩, files, hcand, haccepted⟩ := h
    obtain ⟨results, hresults⟩ := (exists_results_iff m files).mpr haccepted
    obtain ⟨own, hbundle, _⟩ := exists_signObject m.rt (bundleOfResults results) seedText_undefined
    obtain ⟨stdout, after, hrun, _⟩ := exists_operator hm hlist
      ⟨hmakeable, hsuite, hoperator, hcand, hresults, hbundle⟩
    exact ⟨stdout, after, hrun⟩

theorem verifyWebhookSignatures_succeeds_iff
    (hhex : IsHexDigest (m.rt.hmacSha256 webhookSecret (webhookPayload m.rt))) :
    (∃ stdout after, Succeeds (verifyWebhookSignatures m stamp) fs stdout after) ↔
      RoomFor fs "admissorium-v020-webhook-signature" .webhookSignature stamp ["report.json"] := by
  obtain ⟨results, hresults, hnone⟩ := exists_webhookResults hhex
  have hstores : Stores fs.cwd "admissorium-v020-webhook-signature" .webhookSignature stamp
      ["report.json"] (webhookTasks m stamp results) := stores_webhookTasks _ _
  constructor
  · intro h
    obtain ⟨stdout, after, hrun⟩ := h
    obtain ⟨others, hothers, htasks, _⟩ := verifyWebhookSignatures_eq_ok_iff.mp hrun
    obtain rfl := Except.ok.inj (hresults.symm.trans hothers)
    exact hstores.run_iff.1.mp ⟨after, htasks⟩
  · intro hroom
    obtain ⟨after, htasks⟩ := hstores.run_iff.1.mpr hroom
    have hcode : (webhookOutcome m results).code = 0 := by
      rw [webhookOutcome, hnone]
      rfl
    exact ⟨_, after, verifyWebhookSignatures_eq_ok_iff.mpr
      ⟨results, hresults, htasks, (outcome_eq_of_code hcode).symm⟩⟩

theorem runHostileFixtures_succeeds_iff
    (hfinite : {name | fs.node (name :: hostilePlace fs.cwd) ≠ none}.Finite) :
    (∃ stdout after, Succeeds (runHostileFixtures m stamp) fs stdout after) ↔
      (∃ results, Evaluates m fs results ∧ ∀ result ∈ results, result.passed = true) ∧
        RoomFor fs batteryName .hostileFixtures stamp [batteryName ++ ".json"] := by
  have hstores : ∀ text, Stores fs.cwd batteryName .hostileFixtures stamp
      [batteryName ++ ".json"] (batteryDirs stamp ++ batteryWrites stamp text) :=
    stores_battery fs.cwd
  constructor
  · intro h
    obtain ⟨stdout, after, hrun⟩ := h
    obtain ⟨results, hevaluates, htasks, hout⟩ := (runHostileFixtures_eq_ok_iff hfinite).mp hrun
    refine ⟨⟨results, hevaluates, (batteryPasses_iff hevaluates).2.mp ?_⟩,
      (hstores _).run_iff.1.mp ⟨after, htasks⟩⟩
    rw [batteryOutcome] at hout
    split at hout
    case isTrue hpasses => exact hpasses
    case isFalse => cases hout
  · intro h
    obtain ⟨⟨results, hevaluates, hpassed⟩, hroom⟩ := h
    have hpasses := (batteryPasses_iff hevaluates).2.mpr hpassed
    obtain ⟨after, htasks⟩ :=
      (hstores (storedJson m (.obj (batteryReport results)))).run_iff.1.mpr hroom
    have hcode : (batteryOutcome m results).code = 0 := by
      rw [batteryOutcome, if_pos hpasses]
    exact ⟨_, after, (runHostileFixtures_eq_ok_iff hfinite).mpr
      ⟨results, hevaluates, htasks, (outcome_eq_of_code hcode).symm⟩⟩

/-! ## What each script leaves -/

theorem filed_of_validateObjects (hmain : IsMain m fs.cwd objectsScript)
    (h : Succeeds (validateObjects m stamp created) fs stdout after) :
    Filed ⟨["v020-schema-validation"], [(.schemaValidation, stamp)]⟩ fs after := by
  obtain ⟨results, _, htasks, _⟩ := (validateObjects_eq_ok_iff hmain).mp h
  exact filed_of_stores (stores_objectsTasks fs.cwd results) htasks

theorem filed_of_evaluateCandidates (hmain : IsMain m fs.cwd candidatesScript)
    (h : Succeeds (evaluateCandidates m stamp created) fs stdout after) :
    Filed ⟨["v020-classifier-comparator"], [(.classifierComparator, stamp)]⟩ fs after := by
  obtain ⟨reports, _, htasks, _⟩ := (evaluateCandidates_eq_ok_iff hmain).mp h
  exact filed_of_stores (stores_classifierTasks fs.cwd reports) htasks

theorem filed_of_runSuite {s : Suite} (hname : Nameable s.name)
    (hfinite : {name | fs.node (name :: candidatePlace fs.cwd) ≠ none}.Finite)
    (h : Succeeds (runSuite m s) fs stdout after) : Filed ⟨[s.name], []⟩ fs after := by
  obtain ⟨_, _, files, results, _, _, _, hlaid⟩ := of_runSuite hname hfinite h
  exact filed_of_laidReports hlaid (mem_summaryWrites List.mem_cons_self)

theorem mem_reviewWrites {results : List Value} {bundle : Value}
    (hsuite : quarantineRepairSuite.name ∈ reach.names) (hoperator : operatorName ∈ reach.names) :
    ∀ write ∈ reviewWrites m cwd results bundle, write.1 ∈ reach.places cwd :=
  List.forall_mem_append.mpr ⟨mem_summaryWrites hsuite, mem_summaryWrites hoperator⟩

theorem filed_of_operator (hm : Numerals m) (hlist : Listable m fs)
    (h : Succeeds (compileOperatorReview m) fs stdout after) :
    Filed ⟨[quarantineRepairSuite.name, operatorName], []⟩ fs after := by
  obtain ⟨files, results, bundle, _, hlaid⟩ := reviewed_of_operator hm hlist h
  exact filed_of_laidReports hlaid (mem_reviewWrites (by simp) (by simp))

theorem filed_of_simulation (hm : Numerals m) (hlist : Listable m fs)
    (h : Succeeds (simulateTestModeWriter m) fs stdout after) :
    Filed ⟨[quarantineRepairSuite.name, operatorName, simulationName], []⟩ fs after := by
  obtain ⟨files, results, bundle, simulation, hsimulated⟩ := simulated_of_run hm hlist h
  exact filed_of_laidReports hsimulated.laid (List.forall_mem_append.mpr
    ⟨mem_reviewWrites (by simp) (by simp), mem_summaryWrites (by simp)⟩)

theorem filed_of_webhook (h : Succeeds (verifyWebhookSignatures m stamp) fs stdout after) :
    Filed ⟨["admissorium-v020-webhook-signature"], [(.webhookSignature, stamp)]⟩ fs after := by
  obtain ⟨results, _, htasks, _⟩ := verifyWebhookSignatures_eq_ok_iff.mp h
  exact filed_of_stores (stores_webhookTasks fs.cwd results) htasks

theorem filed_of_battery (hfinite : {name | fs.node (name :: hostilePlace fs.cwd) ≠ none}.Finite)
    (h : Succeeds (runHostileFixtures m stamp) fs stdout after) :
    Filed ⟨[batteryName], [(.hostileFixtures, stamp)]⟩ fs after := by
  obtain ⟨results, _, htasks, _⟩ := (runHostileFixtures_eq_ok_iff hfinite).mp h
  exact filed_of_stores (stores_battery fs.cwd _) htasks

end Succeeds

/-! ## What a step needs -/

section Needs
variable {m : Machine} {reach : Reach} {fs after : FileSystem} {schemas : List Schema}
  {clocks : Clocks} {own : Set Place} {npm : String → Fs Outcome}

/-- What the step of a script needs of a tree, where the script runs as the main module. -/
def stepNeeds (m : Machine) (clocks : Clocks) (schemas : List Schema) (fs : FileSystem) :
    String → Prop
  | "v020:schema:validate" => List.Forall₂ (HoldsValid m fs) PAIRS schemas ∧
      RoomFor fs "v020-schema-validation" .schemaValidation clocks.schemaStamp ["manifest.json"]
  | "v020:classify" => (∀ name ∈ caseNames, ∃ report,
        evaluateCandidateFiles m acceptedGraphPath (casePath name) fs = .ok report fs) ∧
      RoomFor fs "v020-classifier-comparator" .classifierComparator clocks.classifierStamp
        ["manifest.json"]
  | "v020:verdict" => (Makeable fs ∧ Free fs verdictReceiptSuite.name) ∧
      ∃ files, Candidates m fs files ∧ Accepted m.rt files
  | "v020:quarantine" => (Makeable fs ∧ Free fs quarantineRepairSuite.name) ∧
      ∃ files, Candidates m fs files ∧ Accepted m.rt files
  | "v020:operator-review" =>
      (Makeable fs ∧ Free fs quarantineRepairSuite.name ∧ Free fs operatorName) ∧
        ∃ files, Candidates m fs files ∧ Accepted m.rt files
  | "v020:writer-sim" => Storable fs ∧ ∃ files, Candidates m fs files ∧ FourOfFive m files
  | "v020:webhook" =>
      RoomFor fs "admissorium-v020-webhook-signature" .webhookSignature clocks.webhook
        ["report.json"]
  | "v020:hostile" =>
      (∃ results, Evaluates m fs results ∧ ∀ result ∈ results, result.passed = true) ∧
        RoomFor fs batteryName .hostileFixtures clocks.hostile [batteryName ++ ".json"]
  | _ => False

/-- What all eight steps need together. -/
structure Ready (m : Machine) (clocks : Clocks) (schemas : List Schema) (fs : FileSystem) :
    Prop where
  objects : List.Forall₂ (HoldsValid m fs) PAIRS schemas
  compared : ∀ name ∈ caseNames, ∃ report,
    evaluateCandidateFiles m acceptedGraphPath (casePath name) fs = .ok report fs
  candidates : ∃ files, Candidates m fs files ∧ FourOfFive m files
  fixtures : ∃ results, Evaluates m fs results ∧ ∀ result ∈ results, result.passed = true
  storable : Storable fs
  verdict_free : Free fs verdictReceiptSuite.name
  schema_room : RoomFor fs "v020-schema-validation" .schemaValidation clocks.schemaStamp
    ["manifest.json"]
  classifier_room : RoomFor fs "v020-classifier-comparator" .classifierComparator
    clocks.classifierStamp ["manifest.json"]
  webhook_room : RoomFor fs "admissorium-v020-webhook-signature" .webhookSignature clocks.webhook
    ["report.json"]
  hostile_room : RoomFor fs batteryName .hostileFixtures clocks.hostile [batteryName ++ ".json"]

theorem ready_iff :
    (∀ step ∈ STEPS, stepNeeds m clocks schemas fs step.1) ↔ Ready m clocks schemas fs := by
  simp only [STEPS, List.forall_mem_cons, List.not_mem_nil, false_imp_iff, implies_true, and_true]
  constructor
  · intro h
    obtain ⟨⟨hobjects, hschema⟩, ⟨hcompared, hclassifier⟩, ⟨⟨_, hverdict⟩, _⟩, _, _,
      ⟨hstorable, hcandidates⟩, hwebhook, hfixtures, hhostile⟩ := h
    exact ⟨hobjects, hcompared, hcandidates, hfixtures, hstorable, hverdict, hschema, hclassifier,
      hwebhook, hhostile⟩
  · intro h
    obtain ⟨files, hcand, hfour⟩ := h.candidates
    have haccepted : ∃ files, Candidates m fs files ∧ Accepted m.rt files :=
      ⟨files, hcand, hfour.accepted⟩
    have hmakeable := h.storable.makeable
    exact ⟨⟨h.objects, h.schema_room⟩, ⟨h.compared, h.classifier_room⟩,
      ⟨⟨hmakeable, h.verdict_free⟩, haccepted⟩, ⟨⟨hmakeable, h.storable.suite_free⟩, haccepted⟩,
      ⟨⟨hmakeable, h.storable.suite_free, h.storable.bundle_free⟩, haccepted⟩,
      ⟨h.storable, h.candidates⟩, h.webhook_room, h.fixtures, h.hostile_room⟩

theorem away_pairs : ∀ pair ∈ PAIRS, Away pair.1 ∧ Away pair.2 := by decide +kernel

theorem away_acceptedGraphPath : Away acceptedGraphPath := by decide +kernel

theorem away_cases : ∀ name ∈ caseNames, Away (casePath name) := by decide +kernel

theorem Filed.holdsSchemas (h : Filed reach fs after)
    (hschemas : List.Forall₂ (HoldsSchema m fs) PAIRS schemas) :
    List.Forall₂ (HoldsSchema m after) PAIRS schemas := by
  refine ((List.forall₂_and_left _ _).mpr ⟨away_pairs, hschemas⟩).imp (fun pair schema hboth => ?_)
  obtain ⟨⟨haway, _⟩, hfragment, stored, hstored, hdescribes⟩ := hboth
  exact ⟨hfragment, stored, (h.readJson_iff (haway.beside fs.cwd)).mpr hstored, hdescribes⟩

theorem Filed.holdsValids_iff (h : Filed reach fs after) :
    List.Forall₂ (HoldsValid m after) PAIRS schemas ↔
      List.Forall₂ (HoldsValid m fs) PAIRS schemas := by
  constructor
  · intro hvalid
    refine ((List.forall₂_and_left _ _).mpr ⟨away_pairs, hvalid⟩).imp (fun pair schema hboth => ?_)
    obtain ⟨⟨_, haway⟩, value, hread, hv⟩ := hboth
    exact ⟨value, (h.readJson_iff (haway.beside fs.cwd)).mp hread, hv⟩
  · intro hvalid
    refine ((List.forall₂_and_left _ _).mpr ⟨away_pairs, hvalid⟩).imp (fun pair schema hboth => ?_)
    obtain ⟨⟨_, haway⟩, value, hread, hv⟩ := hboth
    exact ⟨value, (h.readJson_iff (haway.beside fs.cwd)).mpr hread, hv⟩

theorem Filed.compared_iff (h : Filed reach fs after) {name : String} (hname : name ∈ caseNames)
    {report : Value} :
    evaluateCandidateFiles m acceptedGraphPath (casePath name) after = .ok report after ↔
      evaluateCandidateFiles m acceptedGraphPath (casePath name) fs = .ok report fs := by
  rw [evaluateCandidateFiles_eq_ok_iff, evaluateCandidateFiles_eq_ok_iff, h.cwd,
    h.text_of_beside (away_acceptedGraphPath.beside fs.cwd),
    h.text_of_beside ((away_cases name hname).beside fs.cwd), and_iff_left rfl, and_iff_left rfl]

/-- A child is a script between changes to files elsewhere. -/
theorem ends_child (h : RunsScripts m clocks fs.cwd own npm) {script : Fs Outcome} {needs : Prop}
    {ownReach : Reach} {command name : String}
    (hlookup : (npmScripts m clocks).lookup name = some script)
    (hnames : ownReach.names ⊆ reach.names) (hsnapshots : ownReach.snapshots ⊆ reach.snapshots)
    (hiff : ∀ tree, Filed reach fs tree →
      ((∃ stdout after, Succeeds script tree stdout after) ↔ needs))
    (hfiled : ∀ tree stdout after, Filed reach fs tree → Succeeds script tree stdout after →
      Filed ownReach tree after) :
    Ends (Filed reach fs) (execFileSync command (npm name)) needs where
  iff := by
    intro tree htree
    obtain ⟨start, hspawns⟩ := h.runs name script hlookup tree htree.cwd
    have hstart : Filed reach fs start :=
      htree.trans (filed_of_spares (htree.cwd ▸ h.outside) hspawns.before)
    rw [← hiff start hstart]
    constructor
    · intro hends
      obtain ⟨stdout, after, hrun⟩ := hends
      exact hspawns.fails stdout after (execFileSync_eq_ok.mp hrun)
    · intro hends
      obtain ⟨stdout, ended, hrun⟩ := hends
      obtain ⟨above, below, after, hchild⟩ := hspawns.passes stdout ended hrun
      exact ⟨above ++ stdout ++ below, after, execFileSync_eq_ok.mpr hchild⟩
  keeps := by
    intro tree stdout after htree hrun
    obtain ⟨start, hspawns⟩ := h.runs name script hlookup tree htree.cwd
    have hstart : Filed reach fs start :=
      htree.trans (filed_of_spares (htree.cwd ▸ h.outside) hspawns.before)
    obtain ⟨_, printed, _, ended, _, hscript, hbehind⟩ :=
      hspawns.of_succeeds (execFileSync_eq_ok.mp hrun)
    have hended : Filed reach fs ended :=
      hstart.trans ((hfiled start printed ended hstart hscript).mono hnames hsnapshots)
    exact hended.trans (filed_of_spares (hended.cwd ▸ h.outside) hbehind)

/-- Each of the eight steps ends in a tree of reports exactly if what it needs was there before. -/
theorem ends_step (h : RunsScripts m clocks fs.cwd own npm) (hmains : Mains m fs.cwd)
    (hm : Numerals m) (hhost : Hosted m fs) (husable : reach.Usable)
    (hhex : IsHexDigest (m.rt.hmacSha256 webhookSecret (webhookPayload m.rt)))
    (hschemas : List.Forall₂ (HoldsSchema m fs) PAIRS schemas)
    (hnames : (stepsReach clocks).names ⊆ reach.names)
    (hsnapshots : (stepsReach clocks).snapshots ⊆ reach.snapshots) :
    ∀ step ∈ STEPS, ∀ command, Ends (Filed reach fs)
      (execFileSync command (npm step.1)) (stepNeeds m clocks schemas fs step.1) := by
  have hreach : ∀ step ∈ STEPS, (stepReach clocks step.1).names ⊆ reach.names ∧
      (stepReach clocks step.1).snapshots ⊆ reach.snapshots := by
    intro step hstep
    exact ⟨fun name hname => hnames (List.mem_flatMap.mpr ⟨step, hstep, hname⟩),
      fun snapshot hs => hsnapshots (List.mem_flatMap.mpr ⟨step, hstep, hs⟩)⟩
  have hhosted : ∀ tree, Filed reach fs tree → Hosted m tree :=
    fun tree htree => hhost.of_filed husable htree
  have haccepted : ∀ tree, Filed reach fs tree →
      ((∃ files, Candidates m tree files ∧ Accepted m.rt files) ↔
        ∃ files, Candidates m fs files ∧ Accepted m.rt files) := by
    intro tree htree
    simp only [htree.candidates_iff hhost.candidates]
  simp only [STEPS, List.forall_mem_cons, List.not_mem_nil, false_imp_iff, implies_true,
    and_true] at hreach ⊢
  obtain ⟨hschema, hclassify, hverdict, hquarantine, hoperator, hwriter, hwebhook, hhostile⟩ := hreach
  refine ⟨fun command => ?_, fun command => ?_, fun command => ?_, fun command => ?_,
    fun command => ?_, fun command => ?_, fun command => ?_, fun command => ?_⟩
  · refine ends_child h rfl hschema.1 hschema.2 (fun tree htree => ?_)
      (fun tree _ _ htree hrun => filed_of_validateObjects (htree.cwd ▸ hmains.objects) hrun)
    rw [validateObjects_succeeds_iff (htree.cwd ▸ hmains.objects) (htree.holdsSchemas hschemas),
      htree.holdsValids_iff, htree.roomFor_iff]
    exact Iff.rfl
  · refine ends_child h rfl hclassify.1 hclassify.2 (fun tree htree => ?_)
      (fun tree _ _ htree hrun => filed_of_evaluateCandidates (htree.cwd ▸ hmains.candidates) hrun)
    rw [evaluateCandidates_succeeds_iff (htree.cwd ▸ hmains.candidates), htree.roomFor_iff]
    exact and_congr_left' (forall₂_congr (fun name hname =>
      exists_congr (fun report => htree.compared_iff hname)))
  · refine ends_child h rfl hverdict.1 hverdict.2 (fun tree htree => ?_)
      (fun tree _ _ htree hrun => filed_of_runSuite nameable_verdictReceiptSuite
        (hhosted tree htree).candidates.finite hrun)
    rw [compileVerdictReceipt_succeeds_iff (hhosted tree htree).candidates.finite,
      htree.makeable_iff, htree.summary_free_iff, haccepted tree htree]
    exact Iff.rfl
  · refine ends_child h rfl hquarantine.1 hquarantine.2 (fun tree htree => ?_)
      (fun tree _ _ htree hrun => filed_of_runSuite nameable_quarantineRepairSuite
        (hhosted tree htree).candidates.finite hrun)
    rw [routeQuarantineRepair_succeeds_iff (hhosted tree htree).candidates.finite,
      htree.makeable_iff, htree.summary_free_iff, haccepted tree htree]
    exact Iff.rfl
  · refine ends_child h rfl hoperator.1 hoperator.2 (fun tree htree => ?_)
      (fun tree _ _ htree hrun => filed_of_operator hm (hhosted tree htree).listable hrun)
    rw [compileOperatorReview_succeeds_iff hm (hhosted tree htree).listable, htree.makeable_iff,
      htree.summary_free_iff, htree.summary_free_iff, haccepted tree htree]
    exact Iff.rfl
  · refine ends_child h rfl hwriter.1 hwriter.2 (fun tree htree => ?_)
      (fun tree _ _ htree hrun => filed_of_simulation hm (hhosted tree htree).listable hrun)
    have hlist := (hhosted tree htree).listable
    constructor
    · intro h
      obtain ⟨stdout, after, hrun⟩ := h
      obtain ⟨files, results, bundle, simulation, hsimulated⟩ := simulated_of_run hm hlist hrun
      have hreviewed := hsimulated.reviewed
      exact ⟨htree.storable_iff.mp ⟨hreviewed.makeable, hreviewed.suite_free,
        hreviewed.bundle_free, hsimulated.simulation_free⟩, files,
        (htree.candidates_iff hhost.candidates).mp hreviewed.candidates, hsimulated.fourOfFive⟩
    · intro h
      obtain ⟨hstorable, files, hcand, hfour⟩ := h
      exact exists_simulation_of_fourOfFive hm hlist (htree.storable_iff.mpr hstorable)
        ((htree.candidates_iff hhost.candidates).mpr hcand) hfour
  · refine ends_child h rfl hwebhook.1 hwebhook.2 (fun tree htree => ?_)
      (fun _ _ _ _ hrun => filed_of_webhook hrun)
    rw [verifyWebhookSignatures_succeeds_iff hhex, htree.roomFor_iff]
    exact Iff.rfl
  · refine ends_child h rfl hhostile.1 hhostile.2 (fun tree htree => ?_)
      (fun tree _ _ htree hrun => filed_of_battery (hhosted tree htree).fixtures.finite hrun)
    rw [runHostileFixtures_succeeds_iff (hhosted tree htree).fixtures.finite, htree.roomFor_iff]
    refine and_congr_left' (exists_congr (fun results => and_congr_left' ?_))
    exact htree.evaluates_iff hhost.fixtures

end Needs

end Admissorium.Scripts
