import Admissorium.Pipeline.WriterSimulation
import Admissorium.Signing.Replay

/-!
# The seed of a simulation

The simulation is signed with the seed of its options, the packets inside it are signed
by a helper that is not handed the seed and falls back to the default one. So a
simulation is signed by one seed throughout exactly when it has no packets or the seed
is the default (`signedThroughout_iff`).
-/
namespace Admissorium.Pipeline.WriterSeed
set_option autoImplicit false

open JavaScript Signing Signing.Replay Verdict QuarantineSuite WriterSimulation

/-- `(report.bundle || report).cases || []`. -/
def casesOf (report : Value) : Except JsError (List Value) := do
  let bundle := (← report.prop "bundle").or report
  ((bundle.get "cases").or (.arr [])).asArray

/-- The packets of a simulation, of all three kinds. -/
def packetsOf (simulation : Value) : List Value :=
  let packets := simulation.get "packets"
  itemsOf packets "check_run_packets" ++ itemsOf packets "issue_packets" ++
    itemsOf packets "pull_request_packets"

/-- A value is a signed object that verifies under the seed. -/
def VerifiesUnder (rt : Runtime) (seed : String) (signed : Value) : Prop :=
  ∃ own, signed = .obj own ∧ verifySignedObject rt own (.str seed) = .ok true

/-- There is a simulation, and it and all its packets verify under the seed. -/
def SignedThroughout (rt : Runtime) (report : Value) (options : CompileOptions) (seed : String) :
    Prop :=
  ∃ simulation, compileTestModeWriterSimulation rt report options = .ok simulation ∧
    VerifiesUnder rt seed simulation ∧ ∀ packet ∈ packetsOf simulation, VerifiesUnder rt seed packet

/-- SHA-256 and the HMAC together tell the seed from the default one. -/
def SeedTold (rt : Runtime) (seed : String) : Prop :=
  ∀ hash, localKeyRef rt defaultLocalSigningSeed = localKeyRef rt seed →
    rt.hmacSha256 defaultLocalSigningSeed hash = rt.hmacSha256 seed hash →
    seed = defaultLocalSigningSeed

/-! ## Packets -/

section Packets

variable {rt : Runtime} {c generated_at packet : Value}

/-- What the helper signs, it signs with the default seed. -/
theorem signed_of_noWriterEnvelope {kind : String} {payload : Fields}
    (h : noWriterEnvelope rt kind c generated_at payload = .ok packet) :
    ∃ fields, signObject rt fields .undefined = .ok packet := by
  obtain ⟨_, _, h⟩ := bind_eq_ok.mp h
  exact ⟨_, h⟩

theorem signed_of_checkRunPacket (h : checkRunPacket rt generated_at c = .ok packet) :
    ∃ fields, signObject rt fields .undefined = .ok packet := by
  obtain ⟨_, _, h⟩ := bind_eq_ok.mp h
  obtain ⟨_, _, h⟩ := bind_eq_ok.mp h
  obtain ⟨_, _, h⟩ := bind_eq_ok.mp h
  exact signed_of_noWriterEnvelope h

theorem signed_of_issuePacket (h : issuePacket rt generated_at c = .ok packet) :
    ∃ fields, signObject rt fields .undefined = .ok packet := by
  obtain ⟨_, _, h⟩ := bind_eq_ok.mp h
  obtain ⟨_, _, h⟩ := bind_eq_ok.mp h
  obtain ⟨_, _, h⟩ := bind_eq_ok.mp h
  obtain ⟨_, _, h⟩ := bind_eq_ok.mp h
  exact signed_of_noWriterEnvelope h

theorem signed_of_pullRequestPacket (h : pullRequestPacket rt generated_at c = .ok packet) :
    ∃ fields, signObject rt fields .undefined = .ok packet := by
  obtain ⟨_, _, h⟩ := bind_eq_ok.mp h
  obtain ⟨_, _, h⟩ := bind_eq_ok.mp h
  obtain ⟨_, _, h⟩ := bind_eq_ok.mp h
  exact signed_of_noWriterEnvelope h

/-- What is signed with the default seed verifies under no other. -/
theorem verifiesUnder_default_iff {fields : Fields} {seed : String}
    (h : signObject rt fields .undefined = .ok packet) (htold : SeedTold rt seed) :
    VerifiesUnder rt seed packet ↔ seed = defaultLocalSigningSeed := by
  have hc : ∃ canonical, canonicalJson rt (.obj (unsigned fields)) = some canonical := by
    rw [canonicalJson]
    exact ⟨_, rfl⟩
  obtain ⟨canonical, hc⟩ := hc
  have hpacket := h.symm.trans (signObject_eq seedText_undefined hc)
  rw [Except.ok.injEq] at hpacket
  have hseed : seedText (.str seed) = .ok seed := rfl
  have hstripped : canonicalJson rt (.obj (unsigned (unsigned fields ++
      envelope rt defaultLocalSigningSeed (rt.sha256 canonical)))) = some canonical := by
    rw [unsigned_append_envelope, hc]
  constructor
  · intro hverifies
    obtain ⟨own, hown, hverified⟩ := hverifies
    rw [hpacket, Value.obj.injEq] at hown
    rw [← hown, verifySignedObject_iff hseed hstripped] at hverified
    obtain ⟨_, hkey, _, hsignature⟩ := hverified
    rw [get_append_envelope fields _ (by decide)] at hkey hsignature
    exact htold _ (Value.str.inj hkey) (Value.str.inj hsignature)
  · rintro rfl
    rw [hpacket]
    refine ⟨_, rfl, ?_⟩
    rw [verifySignedObject_iff hseed hstripped]
    exact ⟨get_append_envelope fields _ (by decide), get_append_envelope fields _ (by decide),
      get_append_envelope fields _ (by decide), get_append_envelope fields _ (by decide)⟩

/-- A case whose packets can be written: a value that has properties, and a text under
each key that a packet writes out. -/
structure Printable (rt : Runtime) (c : Value) : Prop where
  present : ∃ id, c.prop "candidate_id" = .ok id
  check_run : ∀ key ∈ ["candidate_id", "risk", "verdict_state"], ∃ text, templated rt c key = .ok text
  issue : quarantineRequired c = true →
    ∀ key ∈ ["candidate_id", "risk", "quarantine_route", "quarantine_hash"],
      ∃ text, templated rt c key = .ok text
  pull_request : ∀ key ∈ ["candidate_id", "repair_mode", "repair_packet_hash"],
    ∃ text, templated rt c key = .ok text

theorem exists_noWriterEnvelope_iff (kind : String) (payload : Fields) :
    (∃ packet, noWriterEnvelope rt kind c generated_at payload = .ok packet) ↔
      ∃ id, c.prop "candidate_id" = .ok id := by
  constructor
  · intro h
    obtain ⟨packet, h⟩ := h
    obtain ⟨id, hid, _⟩ := bind_eq_ok.mp h
    exact ⟨id, hid⟩
  · intro h
    obtain ⟨id, hid⟩ := h
    obtain ⟨packet, hp, _⟩ := exists_signObject rt (envelopeFields kind c generated_at payload)
      seedText_undefined
    exact exists_bind_ok hid ⟨_, hp⟩

theorem exists_checkRunPacket_iff :
    (∃ packet, checkRunPacket rt generated_at c = .ok packet) ↔
      (∃ id, c.prop "candidate_id" = .ok id) ∧
        ∀ key ∈ ["candidate_id", "risk", "verdict_state"], ∃ text, templated rt c key = .ok text := by
  simp only [List.forall_mem_cons]
  constructor
  · intro h
    obtain ⟨packet, h⟩ := h
    obtain ⟨id, hid, h⟩ := bind_eq_ok.mp h
    obtain ⟨risk, hrisk, h⟩ := bind_eq_ok.mp h
    obtain ⟨state, hstate, h⟩ := bind_eq_ok.mp h
    exact ⟨(exists_noWriterEnvelope_iff _ _).mp ⟨packet, h⟩, ⟨id, hid⟩, ⟨risk, hrisk⟩,
      ⟨state, hstate⟩, fun _ hm => absurd hm List.not_mem_nil⟩
  · intro h
    obtain ⟨hpresent, ⟨id, hid⟩, ⟨risk, hrisk⟩, ⟨state, hstate⟩, _⟩ := h
    exact exists_bind_ok hid (exists_bind_ok hrisk (exists_bind_ok hstate
      ((exists_noWriterEnvelope_iff _ _).mpr hpresent)))

theorem exists_issuePacket_iff :
    (∃ packet, issuePacket rt generated_at c = .ok packet) ↔
      (∃ id, c.prop "candidate_id" = .ok id) ∧
        ∀ key ∈ ["candidate_id", "risk", "quarantine_route", "quarantine_hash"],
          ∃ text, templated rt c key = .ok text := by
  simp only [List.forall_mem_cons]
  constructor
  · intro h
    obtain ⟨packet, h⟩ := h
    obtain ⟨id, hid, h⟩ := bind_eq_ok.mp h
    obtain ⟨risk, hrisk, h⟩ := bind_eq_ok.mp h
    obtain ⟨route, hroute, h⟩ := bind_eq_ok.mp h
    obtain ⟨hash, hhash, h⟩ := bind_eq_ok.mp h
    exact ⟨(exists_noWriterEnvelope_iff _ _).mp ⟨packet, h⟩, ⟨id, hid⟩, ⟨risk, hrisk⟩,
      ⟨route, hroute⟩, ⟨hash, hhash⟩, fun _ hm => absurd hm List.not_mem_nil⟩
  · intro h
    obtain ⟨hpresent, ⟨id, hid⟩, ⟨risk, hrisk⟩, ⟨route, hroute⟩, ⟨hash, hhash⟩, _⟩ := h
    exact exists_bind_ok hid (exists_bind_ok hrisk (exists_bind_ok hroute (exists_bind_ok hhash
      ((exists_noWriterEnvelope_iff _ _).mpr hpresent))))

theorem exists_pullRequestPacket_iff :
    (∃ packet, pullRequestPacket rt generated_at c = .ok packet) ↔
      (∃ id, c.prop "candidate_id" = .ok id) ∧
        ∀ key ∈ ["candidate_id", "repair_mode", "repair_packet_hash"],
          ∃ text, templated rt c key = .ok text := by
  simp only [List.forall_mem_cons]
  constructor
  · intro h
    obtain ⟨packet, h⟩ := h
    obtain ⟨id, hid, h⟩ := bind_eq_ok.mp h
    obtain ⟨mode, hmode, h⟩ := bind_eq_ok.mp h
    obtain ⟨hash, hhash, h⟩ := bind_eq_ok.mp h
    exact ⟨(exists_noWriterEnvelope_iff _ _).mp ⟨packet, h⟩, ⟨id, hid⟩, ⟨mode, hmode⟩,
      ⟨hash, hhash⟩, fun _ hm => absurd hm List.not_mem_nil⟩
  · intro h
    obtain ⟨hpresent, ⟨id, hid⟩, ⟨mode, hmode⟩, ⟨hash, hhash⟩, _⟩ := h
    exact exists_bind_ok hid (exists_bind_ok hmode (exists_bind_ok hhash
      ((exists_noWriterEnvelope_iff _ _).mpr hpresent)))

end Packets

/-! ## The simulation -/

section Simulation

variable {rt : Runtime} {report : Value} {options : CompileOptions} {cases : List Value}

/-- The three lists of packets, and what is signed around them. -/
structure Compiled (rt : Runtime) (report : Value) (options : CompileOptions) (cases : List Value)
    (checkRuns issues pulls : List Value) (simulation : Value) : Prop where
  check_run_packets : cases.mapM (checkRunPacket rt (generatedAt options report)) = .ok checkRuns
  issue_packets : (cases.filter quarantineRequired).mapM (issuePacket rt (generatedAt options report)) =
    .ok issues
  pull_request_packets : cases.mapM (pullRequestPacket rt (generatedAt options report)) = .ok pulls
  signed : ∃ bundle, signObject rt (simulationFields bundle (generatedAt options report) cases.length
    checkRuns issues pulls) options.signing_seed = .ok simulation

theorem compile_cases (hcases : casesOf report = .ok cases) {simulation : Value}
    (h : compileTestModeWriterSimulation rt report options = .ok simulation) :
    ∃ checkRuns issues pulls, Compiled rt report options cases checkRuns issues pulls simulation := by
  obtain ⟨bundle, hbundle, hcases⟩ := bind_eq_ok.mp hcases
  obtain ⟨own, hown, h⟩ := bind_eq_ok.mp h
  obtain rfl := Except.ok.inj (hbundle.symm.trans hown)
  obtain ⟨cases', hcases', h⟩ := bind_eq_ok.mp h
  obtain rfl := Except.ok.inj (hcases.symm.trans hcases')
  obtain ⟨checkRuns, hchecks, h⟩ := bind_eq_ok.mp h
  obtain ⟨issues, hissues, h⟩ := bind_eq_ok.mp h
  obtain ⟨pulls, hpulls, h⟩ := bind_eq_ok.mp h
  exact ⟨checkRuns, issues, pulls, hchecks, hissues, hpulls, _, h⟩

/-- Printable cases are compiled under any seed. -/
theorem exists_compile (hcases : casesOf report = .ok cases) {seed : String}
    (hseed : options.signing_seed = .str seed) (hprint : ∀ c ∈ cases, Printable rt c) :
    ∃ simulation, compileTestModeWriterSimulation rt report options = .ok simulation := by
  obtain ⟨bundle, hbundle, hlist⟩ := bind_eq_ok.mp hcases
  have harray : (((bundle.or report).get "cases").or (.arr [])).asArray = .ok cases := hlist
  obtain ⟨checkRuns, hchecks⟩ := exists_mapM_eq_ok
    (f := checkRunPacket rt (generatedAt options report)) (fun c hc =>
      exists_checkRunPacket_iff.mpr ⟨(hprint c hc).present, (hprint c hc).check_run⟩)
  obtain ⟨issues, hissues⟩ := exists_mapM_eq_ok (l := cases.filter quarantineRequired)
    (f := issuePacket rt (generatedAt options report)) (fun c hc => by
      obtain ⟨hmem, hrequired⟩ := List.mem_filter.mp hc
      exact exists_issuePacket_iff.mpr ⟨(hprint c hmem).present, (hprint c hmem).issue hrequired⟩)
  obtain ⟨pulls, hpulls⟩ := exists_mapM_eq_ok
    (f := pullRequestPacket rt (generatedAt options report)) (fun c hc =>
      exists_pullRequestPacket_iff.mpr ⟨(hprint c hc).present, (hprint c hc).pull_request⟩)
  have htext : seedText options.signing_seed = .ok seed := by rw [hseed]; rfl
  obtain ⟨signed, hsigned, _⟩ := exists_signObject rt (simulationFields (bundle.or report)
    (generatedAt options report) cases.length checkRuns issues pulls) htext
  refine ⟨.obj signed, ?_⟩
  simp only [compileTestModeWriterSimulation, hbundle, ok_bind, harray, hchecks, hissues, hpulls]
  exact hsigned

theorem printable_of_compiled {checkRuns issues pulls : List Value} {simulation : Value}
    (h : Compiled rt report options cases checkRuns issues pulls simulation) {c : Value}
    (hc : c ∈ cases) : Printable rt c := by
  obtain ⟨checkRun, _, hcheck⟩ := exists_of_mem_of_mapM h.check_run_packets hc
  obtain ⟨pull, _, hpull⟩ := exists_of_mem_of_mapM h.pull_request_packets hc
  obtain ⟨hpresent, hchecktexts⟩ := exists_checkRunPacket_iff.mp ⟨checkRun, hcheck⟩
  refine ⟨hpresent, hchecktexts, ?_, (exists_pullRequestPacket_iff.mp ⟨pull, hpull⟩).2⟩
  intro hrequired
  obtain ⟨issue, _, hissue⟩ :=
    exists_of_mem_of_mapM h.issue_packets (List.mem_filter.mpr ⟨hc, hrequired⟩)
  exact (exists_issuePacket_iff.mp ⟨issue, hissue⟩).2

/-- The packets of a simulation are those that were compiled. -/
theorem packetsOf_compiled {checkRuns issues pulls : List Value} {simulation : Value}
    (h : Compiled rt report options cases checkRuns issues pulls simulation) :
    packetsOf simulation = checkRuns ++ issues ++ pulls := by
  obtain ⟨bundle, hsigned⟩ := h.signed
  have hpackets : simulation.get "packets" = .obj [("check_run_packets", .arr checkRuns),
      ("issue_packets", .arr issues), ("pull_request_packets", .arr pulls)] :=
    get_of_signObject hsigned (by decide)
  rw [packetsOf, hpackets]
  rfl

theorem signed_of_compiled {checkRuns issues pulls : List Value} {simulation : Value}
    (h : Compiled rt report options cases checkRuns issues pulls simulation) {packet : Value}
    (hp : packet ∈ packetsOf simulation) :
    ∃ fields, signObject rt fields .undefined = .ok packet := by
  rw [packetsOf_compiled h, List.mem_append, List.mem_append, mem_mapM_iff h.check_run_packets,
    mem_mapM_iff h.issue_packets, mem_mapM_iff h.pull_request_packets] at hp
  obtain (⟨c, _, hcheck⟩ | ⟨c, _, hissue⟩) | ⟨c, _, hpull⟩ := hp
  · exact signed_of_checkRunPacket hcheck
  · exact signed_of_issuePacket hissue
  · exact signed_of_pullRequestPacket hpull

/-- One seed signs the whole simulation exactly when there are no cases, or it is the
default seed and every case can be printed. -/
theorem signedThroughout_iff {seed : String} (hcases : casesOf report = .ok cases)
    (hseed : options.signing_seed = .str seed) (htold : SeedTold rt seed) :
    SignedThroughout rt report options seed ↔
      cases = [] ∨ seed = defaultLocalSigningSeed ∧ ∀ c ∈ cases, Printable rt c := by
  constructor
  · intro h
    obtain ⟨simulation, hcompile, _, hpackets⟩ := h
    obtain ⟨checkRuns, issues, pulls, hcompiled⟩ := compile_cases hcases hcompile
    rw [or_iff_not_imp_left]
    intro hne
    refine ⟨?_, fun c hc => printable_of_compiled hcompiled hc⟩
    obtain ⟨c, hc⟩ := List.exists_mem_of_ne_nil cases hne
    obtain ⟨packet, hmem, _⟩ := exists_of_mem_of_mapM hcompiled.check_run_packets hc
    have hp : packet ∈ packetsOf simulation := by
      rw [packetsOf_compiled hcompiled]
      simp [hmem]
    obtain ⟨fields, hsigned⟩ := signed_of_compiled hcompiled hp
    exact (verifiesUnder_default_iff hsigned htold).mp (hpackets packet hp)
  · intro h
    have hprint : ∀ c ∈ cases, Printable rt c := by
      rcases h with rfl | ⟨_, hprint⟩
      · exact fun c hc => absurd hc List.not_mem_nil
      · exact hprint
    obtain ⟨simulation, hcompile⟩ := exists_compile hcases hseed hprint
    obtain ⟨checkRuns, issues, pulls, hcompiled⟩ := compile_cases hcases hcompile
    obtain ⟨bundle, hsigned⟩ := hcompiled.signed
    obtain ⟨own, rfl⟩ := isObject_of_signObject hsigned
    rw [hseed] at hsigned
    refine ⟨_, hcompile, ⟨own, rfl, verify_of_signObject hsigned⟩, ?_⟩
    intro packet hp
    obtain ⟨fields, hpacket⟩ := signed_of_compiled hcompiled hp
    rw [verifiesUnder_default_iff hpacket htold]
    rcases h with rfl | ⟨hdefault, _⟩
    · rw [packetsOf_compiled hcompiled] at hp
      obtain ⟨hchecks, hissues, hpulls, _⟩ := hcompiled
      cases hchecks
      cases hissues
      cases hpulls
      exact absurd hp List.not_mem_nil
    · exact hdefault

end Simulation

/-- A report with one case that waits for review. -/
def oneCaseReport : Value :=
  .obj [("cases", .arr [.obj [("candidate_id", .str "candidate-1"),
    ("quarantine_required", .bool true)]])]

def otherSeed : CompileOptions := { signing_seed := .str "other" }

theorem otherSeed_told : SeedTold .ascii "other" := by
  intro _ hkey _
  revert hkey
  decide +kernel

theorem signedThroughout_iff_oneCaseReport :
    SignedThroughout .ascii oneCaseReport otherSeed "other" ↔
      [Value.obj [("candidate_id", .str "candidate-1"), ("quarantine_required", .bool true)]] = [] ∨
        "other" = defaultLocalSigningSeed ∧
          ∀ c ∈ [Value.obj [("candidate_id", .str "candidate-1"),
            ("quarantine_required", .bool true)]], Printable .ascii c :=
  signedThroughout_iff rfl rfl otherSeed_told

/-- Its packets do not verify under the seed of the options. -/
theorem oneCaseReport_not_signedThroughout :
    ¬ SignedThroughout .ascii oneCaseReport otherSeed "other" := by
  have hcases : casesOf oneCaseReport = .ok [Value.obj [("candidate_id", .str "candidate-1"),
    ("quarantine_required", .bool true)]] := rfl
  rw [signedThroughout_iff hcases rfl otherSeed_told]
  intro h
  rcases h with hnil | ⟨hseed, _⟩
  · cases hnil
  · revert hseed
    decide

end Admissorium.Pipeline.WriterSeed
