import Admissorium.Reports.JsonHistory
import Admissorium.Signing.TextLength

/-!
# What binds a report to its digests

The digest of a report is that of its canonical text, which spells a member that is `undefined`
out. The stored text leaves such a member out, and so does what is read back of it: its canonical
text is shorter and has another digest. A report of the name `manifest` has the manifest in the
place of its history.
-/
namespace Admissorium.Reports.JsonReport
set_option autoImplicit false

open JavaScript Json Files Signing Signing.TextLength

/-! ## What is read back -/

/-- The object without the digest it is stored with. -/
def withoutHash : Value → Value
  | .obj fields => .obj (fields.filter (fun field => field.1 ≠ "payload_hash_sha256"))
  | v => v

/-- The digest of the report is the one it is stored with and the one in the manifest, which has
that of the history file beside it. -/
structure Bound (rt : Runtime) (stored manifest : Value) (history : String) : Prop where
  payload : ∃ text, stableJson rt (withoutHash stored) = some text ∧
    stored.get "payload_hash_sha256" = .str (rt.sha256 text)
  agrees : manifest.get "payload_hash_sha256" = stored.get "payload_hash_sha256"
  report : manifest.get "report_sha256" = .str (rt.sha256 history)

/-- The three files of a report can be read, and are bound. -/
def Verifiable (rt : Runtime) (read : String → Option Number) (written : WrittenReport)
    (fs : FileSystem) : Prop :=
  ∃ current history manifest stored binding,
    fs.text (resolve fs.cwd written.currentPath) = some current ∧
    fs.text (resolve fs.cwd written.historyPath) = some history ∧
    fs.text (resolve fs.cwd written.manifestPath) = some manifest ∧
    parse read current = .ok stored ∧ parse read manifest = .ok binding ∧
    Bound rt stored binding history

namespace ReportCall

/-- The call with what is read back of its report. -/
def asRead (call : ReportCall) : ReportCall := { call with report := cleaned call.report }

/-- The text that the digest of a report is made of. -/
def payloadText (rt : Runtime) (call : ReportCall) : String :=
  (stableJson rt (.obj call.envelopeWithoutHash)).getD "undefined"

/-- The fields that are read back of the current report. -/
def storedFields (rt : Runtime) (call : ReportCall) : Fields :=
  call.asRead.envelopeWithoutHash ++ [("payload_hash_sha256", .str (call.payload_hash_sha256 rt))]

end ReportCall

/-- SHA-256 tells the payload from what is read back of it, and the report from the manifest. -/
structure TellsApart (rt : Runtime) (call : ReportCall) : Prop where
  payloads : rt.sha256 (call.payloadText rt) = rt.sha256 (call.asRead.payloadText rt) →
    call.payloadText rt = call.asRead.payloadText rt
  files : rt.sha256 (call.serialized rt) = rt.sha256 (call.manifestText rt) →
    call.serialized rt = call.manifestText rt

section Binding
variable {rt : Runtime} {read : String → Option Number} {call : ReportCall} {fs after : FileSystem}

/-- What comes before the report in an envelope. -/
def beforeReport (call : ReportCall) : Fields :=
  ("report_writer", .str "ADMISSORIUM_LOCAL_JSON_REPORT_WRITER") :: reportOnlyFields ++
    [("generated_at", .str call.generated_at), ("run_id", .str call.runId)]

theorem envelopeWithoutHash_eq (call : ReportCall) :
    call.envelopeWithoutHash = beforeReport call ++ [("report", call.report)] := rfl

theorem nodup_envelope (rt : Runtime) (call : ReportCall) : ((call.envelope rt).map Prod.fst).Nodup := by
  have hnames : (call.envelope rt).map Prod.fst = "report_writer" :: reportOnlyFields.map Prod.fst ++
      ["generated_at", "run_id", "report", "payload_hash_sha256"] := rfl
  rw [hnames]
  decide

theorem loose_envelope (rt : Runtime) (hloose : Loose call.report) :
    Loose (.obj (call.envelope rt)) ∧ Loose (.obj call.envelopeWithoutHash) := by
  have hbefore : ∀ field ∈ beforeReport call, field.2 = .undefined ∨ Loose field.2 := by
    simp [beforeReport, reportOnlyFields, Loose]
  have hwithout : ∀ field ∈ call.envelopeWithoutHash, field.2 = .undefined ∨ Loose field.2 := by
    rw [envelopeWithoutHash_eq, List.forall_mem_append, List.forall_mem_singleton]
    exact ⟨hbefore, Or.inr hloose⟩
  have hnodup := nodup_envelope rt call
  rw [loose_obj, loose_obj]
  refine ⟨⟨hnodup, ?_⟩, ?_, hwithout⟩
  · rw [ReportCall.envelope, List.forall_mem_append, List.forall_mem_singleton]
    exact ⟨hwithout, Or.inr trivial⟩
  · rw [ReportCall.envelope, List.map_append] at hnodup
    exact hnodup.of_append_left

theorem cleaned_envelope (rt : Runtime) (h : call.report ≠ .undefined) :
    cleaned (.obj (call.envelope rt)) = .obj (call.storedFields rt) ∧
      cleaned (.obj call.envelopeWithoutHash) = .obj call.asRead.envelopeWithoutHash := by
  have hwithout : cleanedFields call.envelopeWithoutHash = call.asRead.envelopeWithoutHash := by
    rw [envelopeWithoutHash_eq, cleanedFields_append, cleanedFields_cons h]
    rfl
  rw [cleaned, cleaned, ReportCall.envelope, cleanedFields_append, hwithout]
  exact ⟨rfl, rfl⟩

/-- What is read back of a report is the report without its `undefined` members. -/
theorem parse_serialized (hloose : Loose call.report)
    (hnum : ∀ q ∈ numbersOf call.report, ReadsBack rt read q) :
    parse read (call.serialized rt) = .ok (.obj (call.storedFields rt)) := by
  have hnumbers : numbersOf (.obj (call.envelope rt)) = numbersOf call.report ++ [] := rfl
  rw [ReportCall.serialized, ← prettyOf_cleaned,
    ← (cleaned_envelope rt (ne_undefined_of_loose hloose)).1]
  refine parse_prettyOf (isJson_cleaned _ (loose_envelope rt hloose).1) fun q hq => hnum q ?_
  have hmem := numbersOf_cleaned _ q hq
  rw [hnumbers, List.append_nil] at hmem
  exact hmem

/-- A digest that is found again is that of a report in which nothing is `undefined`. -/
theorem isJson_of_payloadText (hloose : Loose call.report)
    (h : call.payloadText rt = call.asRead.payloadText rt) : IsJson call.report := by
  have hcleaned := (cleaned_envelope rt (ne_undefined_of_loose hloose)).2
  have hlength : textLength rt (cleaned (.obj call.envelopeWithoutHash)) =
      textLength rt (.obj call.envelopeWithoutHash) := by
    rw [hcleaned]
    exact (congrArg String.length h).symm
  rcases textLength_cleaned rt (.obj call.envelopeWithoutHash) (loose_envelope rt hloose).2 with
    hjson | hlt
  · rw [isJson_obj] at hjson
    apply hjson.2 ("report", call.report)
    rw [envelopeWithoutHash_eq]
    exact List.mem_append_right _ List.mem_cons_self
  · omega

theorem asRead_of_isJson (h : IsJson call.report) : call.asRead = call := by
  rw [ReportCall.asRead, cleaned_of_isJson _ h]

theorem stableJson_payload (call : ReportCall) :
    stableJson rt (.obj call.envelopeWithoutHash) = some (call.payloadText rt) := rfl

theorem withoutHash_storedFields (call : ReportCall) :
    withoutHash (.obj (call.storedFields rt)) = .obj call.asRead.envelopeWithoutHash := rfl

theorem get_storedFields (call : ReportCall) :
    (Value.obj (call.storedFields rt)).get "payload_hash_sha256" =
      .str (rt.sha256 (call.payloadText rt)) := rfl

theorem get_manifest (call : ReportCall) :
    (Value.obj (call.manifest rt)).get "payload_hash_sha256" =
        .str (rt.sha256 (call.payloadText rt)) ∧
      (Value.obj (call.manifest rt)).get "report_sha256" = .str (rt.sha256 (call.serialized rt)) :=
  ⟨rfl, rfl⟩

/-- Whatever else is written there, the current report is. -/
theorem current_of_wrote (hname : call.name ≠ "manifest")
    (h : Wrote fs (call.writes rt fs) after) :
    after.text ((call.name ++ ".json") :: call.currentPlace after) = some (call.serialized rt) := by
  have hstored := stored_of_wrote h
  rw [← writes_of_cwd rt h.cwd, ReportCall.writes] at h
  by_cases hdir : call.currentPlace after = call.historyPlace after
  · rw [hdir]
    exact hstored.report hname
  apply h.text_of_last []
  rw [List.map_cons, List.map_singleton, List.mem_cons, List.mem_singleton]
  intro hplace
  rcases hplace with hplace | hplace
  · exact hdir (List.cons.inj hplace).2
  · exact hname (name_of_json (List.cons.inj hplace).1)

/-- The files of a report, as far as they are not those of another name. -/
theorem texts_of_ok {written : WrittenReport} (hrun : writeJsonReport rt call fs = .ok written after) :
    after.text (resolve after.cwd written.manifestPath) = some (call.manifestText rt) ∧
      (call.name ≠ "manifest" →
        after.text (resolve after.cwd written.currentPath) = some (call.serialized rt) ∧
        after.text (resolve after.cwd written.historyPath) = some (call.serialized rt)) := by
  obtain ⟨hvalid, rfl, hwrote⟩ := wrote_of_ok rt hrun
  have hstored := stored_of_wrote hwrote
  rw [ReportCall.result, resolve_manifestPath, resolve_currentPath hvalid, resolve_historyPath hvalid]
  exact ⟨hstored.manifest, fun hname => ⟨current_of_wrote hname hwrote, hstored.report hname⟩⟩

theorem verifiable_of_isJson {written : WrittenReport}
    (hrun : writeJsonReport rt call fs = .ok written after)
    (hloose : Loose call.report) (hnum : ∀ q ∈ numbersOf call.report, ReadsBack rt read q)
    (hjson : IsJson call.report) (hname : call.name ≠ "manifest") :
    Verifiable rt read written after := by
  obtain ⟨hmanifest, htexts⟩ := texts_of_ok hrun
  obtain ⟨hcurrent, hhistory⟩ := htexts hname
  refine ⟨_, _, _, _, _, hcurrent, hhistory, hmanifest, parse_serialized hloose hnum,
    parse_manifestText rt read call, ⟨call.payloadText rt, ?_, get_storedFields call⟩, ?_,
    (get_manifest call).2⟩
  · rw [withoutHash_storedFields, asRead_of_isJson hjson]
    exact stableJson_payload call
  · rw [get_storedFields, (get_manifest call).1]

/-- In the place of its history, a report of the name `manifest` has its manifest. -/
theorem name_of_verifiable {written : WrittenReport}
    (hrun : writeJsonReport rt call fs = .ok written after) (hsha : TellsApart rt call)
    (h : Verifiable rt read written after) : call.name ≠ "manifest" := by
  intro hname
  obtain ⟨hmanifest, _⟩ := texts_of_ok hrun
  obtain ⟨_, history, manifest, _, binding, _, hhistory, hheld, _, hparse, hbound⟩ := h
  obtain ⟨hvalid, rfl, _⟩ := wrote_of_ok rt hrun
  rw [hmanifest] at hheld
  obtain rfl := Option.some.inj hheld
  have hsame : call.historyPath = call.manifestPath := by
    rw [ReportCall.historyPath, ReportCall.manifestPath, hname, manifest_json]
  have hplace : after.text (resolve after.cwd call.historyPath) = some (call.manifestText rt) := by
    rw [hsame]
    exact hmanifest
  rw [ReportCall.result, hplace] at hhistory
  obtain rfl := Option.some.inj hhistory
  rw [parse_manifestText] at hparse
  obtain rfl := Except.ok.inj hparse
  have hreport := hbound.report
  rw [(get_manifest call).2] at hreport
  exact serialized_ne_manifestText call call (hsha.files (Value.str.inj hreport))

theorem isJson_of_verifiable {written : WrittenReport}
    (hrun : writeJsonReport rt call fs = .ok written after)
    (hloose : Loose call.report) (hnum : ∀ q ∈ numbersOf call.report, ReadsBack rt read q)
    (hsha : TellsApart rt call) (h : Verifiable rt read written after) : IsJson call.report := by
  obtain ⟨hcurrent, _⟩ := (texts_of_ok hrun).2 (name_of_verifiable hrun hsha h)
  obtain ⟨current, _, _, stored, _, hheld, _, _, hparse, _, hbound⟩ := h
  rw [hcurrent] at hheld
  obtain rfl := Option.some.inj hheld
  rw [parse_serialized hloose hnum] at hparse
  obtain rfl := Except.ok.inj hparse
  obtain ⟨text, htext, hhash⟩ := hbound.payload
  rw [withoutHash_storedFields, stableJson_payload] at htext
  obtain rfl := Option.some.inj htext
  rw [get_storedFields] at hhash
  exact isJson_of_payloadText hloose (hsha.payloads (Value.str.inj hhash))

/-- A report can be verified exactly when nothing in it is `undefined` and its history file is
not its manifest. -/
theorem verifiable_iff {written : WrittenReport}
    (hrun : writeJsonReport rt call fs = .ok written after)
    (hloose : Loose call.report) (hnum : ∀ q ∈ numbersOf call.report, ReadsBack rt read q)
    (hsha : TellsApart rt call) :
    Verifiable rt read written after ↔ IsJson call.report ∧ call.name ≠ "manifest" := by
  constructor
  · exact fun h => ⟨isJson_of_verifiable hrun hloose hnum hsha h, name_of_verifiable hrun hsha h⟩
  · exact fun h => verifiable_of_isJson hrun hloose hnum h.1 h.2

end Binding

/-! ## A report with an `undefined` member -/

def noteCall : ReportCall :=
  ⟨"report", .obj [("red_count", .num 0), ("note", .undefined)], ".", "1", "2026-01-01T00:00:00.000Z"⟩

def afterNote : FileSystem := left (writeJsonReport .ascii noteCall noFiles)

/-- Reads the one numeral of the report. -/
def readZero (text : String) : Option Number := if text = "0" then some 0 else none

theorem noteCall_ok :
    writeJsonReport .ascii noteCall noFiles = .ok (noteCall.result .ascii) afterNote :=
  eq_ok_of_succeeds (by decide +kernel)

theorem loose_noteCall : Loose noteCall.report := by
  rw [noteCall, loose_obj]
  simp [Loose]

theorem readsBack_noteCall : ∀ q ∈ numbersOf noteCall.report, ReadsBack .ascii readZero q := by
  have hnumbers : numbersOf noteCall.report = [0] := rfl
  rw [hnumbers, List.forall_mem_singleton]
  exact ⟨by decide, by decide, by decide⟩

theorem tellsApart_ascii (call : ReportCall) : TellsApart .ascii call where
  payloads := (String.append_right_inj "sha256:").mp
  files := (String.append_right_inj "sha256:").mp

theorem not_isJson_noteCall : ¬ IsJson noteCall.report := by
  rw [noteCall, isJson_obj]
  simp [IsJson]

theorem verifiable_iff_noteCall :
    Verifiable .ascii readZero (noteCall.result .ascii) afterNote ↔
      IsJson noteCall.report ∧ noteCall.name ≠ "manifest" :=
  verifiable_iff noteCall_ok loose_noteCall readsBack_noteCall (tellsApart_ascii noteCall)

/-- The report is accepted and written, and its digest is that of another text. -/
theorem noteCall_not_verifiable :
    assertReportOnly noteCall.report = .ok () ∧
      writeJsonReport .ascii noteCall noFiles = .ok (noteCall.result .ascii) afterNote ∧
      ¬ Verifiable .ascii readZero (noteCall.result .ascii) afterNote :=
  ⟨rfl, noteCall_ok, fun h => not_isJson_noteCall (isJson_of_verifiable noteCall_ok loose_noteCall
    readsBack_noteCall (tellsApart_ascii noteCall) h)⟩

end Admissorium.Reports.JsonReport
