import Admissorium.Files.Tasks
import Admissorium.JavaScript.Instants
import Admissorium.Scripts.CandidateSuites

/-!
# History snapshots

Six of the scripts keep a directory of the history for every run, named after the script and the
time of the run. The scripts cut their stamps in different ways. One of them drops the
milliseconds, and two of its runs within a second share a directory; no other two runs do.
-/
namespace Admissorium.Scripts
set_option autoImplicit false

open JavaScript Files

/-- The scripts that keep a directory for each run. -/
inductive SnapshotKind where
  | schemaValidation
  | classifierComparator
  | webhookSignature
  | hostileFixtures
  | reportBundle
  | readiness
  deriving DecidableEq, Repr

namespace SnapshotKind

def stem : SnapshotKind → String
  | schemaValidation => "v020-schema-validation-"
  | classifierComparator => "v020-classifier-comparator-"
  | webhookSignature => "admissorium-v020-webhook-signature-"
  | hostileFixtures => "admissorium-v020-hostile-fixtures-"
  | reportBundle => "admissorium-v020-report-bundle-"
  | readiness => "admissorium-v020-readiness-"

/-- What a script makes of `new Date().toISOString()`. -/
def stampOf : SnapshotKind → String → String
  | schemaValidation => Instant.dashed
  | classifierComparator => Instant.dashed
  | webhookSignature => Instant.compact
  | hostileFixtures => fun text => Text.replaceAll text ":" "-"
  | reportBundle => Instant.dashed
  | readiness => fun text =>
      String.ofList (Instant.replaceFirst '.' '-' (Text.replaceAll text ":" "-").toList)

def dirName (kind : SnapshotKind) (t : Instant) : String := kind.stem ++ kind.stampOf t.toISOString

/-- The characters of a stamp. -/
def stampChars (kind : SnapshotKind) (t : Instant) : List Char :=
  match kind with
  | webhookSignature => t.digitsToSecond ++ ['Z']
  | hostileFixtures => t.spelled '-' '.'
  | _ => t.spelled '-' '-'

/-- Two times a script takes for the same. -/
def SameStamp (kind : SnapshotKind) (t u : Instant) : Prop :=
  match kind with
  | webhookSignature => t.SameSecond u
  | _ => t = u

instance (kind : SnapshotKind) (t u : Instant) : Decidable (kind.SameStamp t u) := by
  unfold SameStamp
  split <;> infer_instance

end SnapshotKind

section Names
variable {kind other : SnapshotKind} {t u : Instant}

theorem stampOf_eq (kind : SnapshotKind) (t : Instant) :
    kind.stampOf t.toISOString = String.ofList (kind.stampChars t) := by
  cases kind with
  | schemaValidation => exact Instant.dashed_eq t
  | classifierComparator => exact Instant.dashed_eq t
  | reportBundle => exact Instant.dashed_eq t
  | webhookSignature => exact Instant.compact_eq t
  | hostileFixtures => exact Instant.replaceAll_colons t
  | readiness =>
      show String.ofList (Instant.replaceFirst '.' '-' (Text.replaceAll _ ":" "-").toList) = _
      rw [Instant.replaceAll_colons, String.toList_ofList, Instant.replaceFirst_spelled]
      rfl

theorem stampChars_eq_iff : kind.stampChars t = kind.stampChars u ↔ kind.SameStamp t u := by
  have hspelled : ∀ point, t.spelled '-' point = u.spelled '-' point ↔ t = u :=
    fun point => ⟨Instant.spelled_inj, fun h => h ▸ rfl⟩
  cases kind with
  | webhookSignature =>
      show t.digitsToSecond ++ ['Z'] = u.digitsToSecond ++ ['Z'] ↔ t.SameSecond u
      rw [← Instant.compact_eq_iff, Instant.compact_eq, Instant.compact_eq, String.ofList_inj]
  | schemaValidation => exact hspelled '-'
  | classifierComparator => exact hspelled '-'
  | hostileFixtures => exact hspelled '.'
  | reportBundle => exact hspelled '-'
  | readiness => exact hspelled '-'

/-- No script's names begin like those of another. -/
theorem eq_of_isPrefix_stem : ∀ kind other : SnapshotKind, kind.stem.toList <+: other.stem.toList →
    kind = other := by
  intro kind other
  cases kind <;> cases other <;> decide

/-- Two runs share a directory exactly when one script takes their times for the same. -/
theorem dirName_eq_iff : kind.dirName t = other.dirName u ↔ kind = other ∧ kind.SameStamp t u := by
  constructor
  · intro h
    have hlist := congrArg String.toList h
    rw [SnapshotKind.dirName, SnapshotKind.dirName, String.toList_append, String.toList_append] at hlist
    have hkind : kind = other := by
      have hleft := List.prefix_append kind.stem.toList (kind.stampOf t.toISOString).toList
      have hright := List.prefix_append other.stem.toList (other.stampOf u.toISOString).toList
      rw [← hlist] at hright
      rcases List.prefix_or_prefix_of_prefix hleft hright with hprefix | hprefix
      · exact eq_of_isPrefix_stem _ _ hprefix
      · exact (eq_of_isPrefix_stem _ _ hprefix).symm
    subst hkind
    have hstamp := List.append_cancel_left hlist
    rw [stampOf_eq, stampOf_eq, String.toList_ofList, String.toList_ofList] at hstamp
    exact ⟨rfl, stampChars_eq_iff.mp hstamp⟩
  · intro h
    obtain ⟨rfl, hstamp⟩ := h
    rw [SnapshotKind.dirName, SnapshotKind.dirName, stampOf_eq, stampOf_eq,
      stampChars_eq_iff.mpr hstamp]

/-- What stamps are written with. -/
def IsStampChar (c : Char) : Prop := c.isDigit = true ∨ c = '-' ∨ c = 'T' ∨ c = 'Z' ∨ c = '.'

theorem isStampChar_of_mem {c : Char} (h : c ∈ kind.stampChars t) : IsStampChar c := by
  have hspelled : ∀ point, point = '-' ∨ point = '.' → c ∈ t.spelled '-' point → IsStampChar c := by
    intro point hpoint hc
    have hmem := Instant.mem_spelled hc
    unfold IsStampChar
    grind
  cases kind with
  | webhookSignature =>
      rcases List.mem_append.mp h with hc | hc
      · have hmem := Instant.mem_digitsToSecond hc
        unfold IsStampChar
        grind
      · exact Or.inr (Or.inr (Or.inr (Or.inl (List.mem_singleton.mp hc))))
  | schemaValidation => exact hspelled '-' (Or.inl rfl) h
  | classifierComparator => exact hspelled '-' (Or.inl rfl) h
  | hostileFixtures => exact hspelled '.' (Or.inr rfl) h
  | reportBundle => exact hspelled '-' (Or.inl rfl) h
  | readiness => exact hspelled '-' (Or.inl rfl) h

/-- A text over some characters that begins with a long stem is a name. -/
theorem isName_append {stem rest : String} (hlong : 2 < stem.toList.length)
    (hslash : '/' ∉ (stem ++ rest).toList) : IsName (stem ++ rest) := by
  have hlength : 2 < (stem ++ rest).toList.length := by
    rw [String.toList_append, List.length_append]
    omega
  have hshort : ∀ short : String, short.toList.length ≤ 2 → stem ++ rest ≠ short := by
    intro short hle he
    rw [he] at hlength
    omega
  exact ⟨hshort _ (by decide), hshort _ (by decide), hshort _ (by decide), hslash⟩

theorem not_mem_dirName {c : Char} (hstem : ∀ kind : SnapshotKind, c ∉ kind.stem.toList)
    (hstamp : ¬ IsStampChar c) : c ∉ (kind.dirName t).toList := by
  rw [SnapshotKind.dirName, stampOf_eq, String.toList_append, String.toList_ofList, List.mem_append,
    not_or]
  exact ⟨hstem kind, fun hmem => hstamp (isStampChar_of_mem hmem)⟩

theorem isName_dirName (kind : SnapshotKind) (t : Instant) : IsName (kind.dirName t) := by
  have hslash : '/' ∉ (kind.dirName t).toList := by
    apply not_mem_dirName
    · intro kind
      cases kind <;> decide
    · unfold IsStampChar
      decide
  refine isName_append ?_ hslash
  cases kind <;> decide

theorem hasNul_dirName (kind : SnapshotKind) (t : Instant) : hasNul (kind.dirName t) = false := by
  have hnul : '\x00' ∉ (kind.dirName t).toList := by
    apply not_mem_dirName
    · intro kind
      cases kind <;> decide
    · unfold IsStampChar
      decide
  rw [hasNul_eq_false_iff]
  intro c hc he
  exact hnul (he ▸ hc)

end Names

/-! ## Places -/

/-- The directory of a run, as a path. -/
def snapshotDir (kind : SnapshotKind) (t : Instant) : String := "reports/history/" ++ kind.dirName t

def snapshotPlace (cwd : Place) (kind : SnapshotKind) (t : Instant) : Place :=
  kind.dirName t :: historyDir cwd

section Places
variable {cwd : Place} {kind : SnapshotKind} {t : Instant} {name : String}

theorem resolve_snapshotDir : resolve cwd (snapshotDir kind t) = snapshotPlace cwd kind t := by
  have hpath : snapshotDir kind t = "reports/history" ++ "/" ++ kind.dirName t := rfl
  have hdir : follow cwd "reports/history" = historyDir cwd := rfl
  rw [hpath, resolve_under hdir (by decide) (by decide) (isName_dirName kind t)]
  rfl

theorem snapshotDir_ne_empty : snapshotDir kind t ≠ "" := by
  intro he
  exact absurd (String.append_eq_empty_iff.mp he).1 (by decide)

theorem hasNul_append {a b : String} (ha : hasNul a = false) (hb : hasNul b = false) :
    hasNul (a ++ b) = false := by
  rw [hasNul_eq_false_iff] at ha hb ⊢
  exact over_append.mpr ⟨ha, hb⟩

theorem hasNul_snapshotDir : hasNul (snapshotDir kind t) = false :=
  hasNul_append (by decide) (hasNul_dirName kind t)

theorem isAbsolute_snapshotDir : isAbsolute (snapshotDir kind t) = false := by
  have hpath : snapshotDir kind t = "reports" ++ ("/history/" ++ kind.dirName t) := by
    rw [← String.append_assoc]
    rfl
  rw [hpath, isAbsolute_append (by decide)]
  decide

theorem follow_snapshotDir : follow cwd (snapshotDir kind t) = snapshotPlace cwd kind t := by
  rw [← resolve_snapshotDir, resolve, isAbsolute_snapshotDir, if_neg Bool.false_ne_true]

/-- A file in the directory of a run. -/
theorem resolve_inSnapshot (h : IsName name) :
    resolve cwd (snapshotDir kind t ++ "/" ++ name) = name :: snapshotPlace cwd kind t :=
  resolve_under follow_snapshotDir snapshotDir_ne_empty isAbsolute_snapshotDir h

/-- No current report is above the directory of a run. -/
theorem currentPlace_not_above : ¬ currentPlace cwd name <:+ snapshotPlace cwd kind t := by
  intro h
  have hlength : (currentPlace cwd name).length = (snapshotPlace cwd kind t).length := by
    simp [currentPlace, currentDir, snapshotPlace, historyDir]
  have heq := h.eq_of_length hlength
  rw [currentPlace, snapshotPlace, currentDir, historyDir] at heq
  exact absurd (List.cons.inj (List.cons.inj heq).2).1 (by decide)

end Places

/-! ## Storing a run -/

/-- There is room for the current report and the files of a run. -/
structure RoomFor (fs : FileSystem) (name : String) (kind : SnapshotKind) (stamp : Instant)
    (files : List String) : Prop where
  current : fs.CanMake (currentDir fs.cwd)
  snapshot : fs.CanMake (snapshotPlace fs.cwd kind stamp)
  report : fs.node (currentPlace fs.cwd name) ≠ some .dir
  kept : ∀ file ∈ files, fs.node (file :: snapshotPlace fs.cwd kind stamp) ≠ some .dir

/-- There is room where no reports are yet. -/
theorem roomFor_of_none {fs : FileSystem} (name : String) (kind : SnapshotKind) (stamp : Instant)
    (files : List String) (hcwd : fs.CanMake fs.cwd) (h : fs.node ("reports" :: fs.cwd) = none) :
    RoomFor fs name kind stamp files := by
  have hnone : ∀ {place}, fs.node place = none → fs.text place = none := by
    intro place hplace
    rw [FileSystem.text, hplace]
  have hreports : fs.CanMake ("reports" :: fs.cwd) := List.forall_mem_cons.mpr ⟨hnone h, hcwd⟩
  have hbelow := fun dir => fs.node_child_eq_none h dir
  have hrun := fs.node_child_eq_none (hbelow "history") (kind.dirName stamp)
  have hcurrent : fs.CanMake (currentDir fs.cwd) :=
    List.forall_mem_cons.mpr ⟨hnone (hbelow "current"), hreports⟩
  have hhistory : fs.CanMake (historyDir fs.cwd) :=
    List.forall_mem_cons.mpr ⟨hnone (hbelow "history"), hreports⟩
  have hnotDir : ∀ {place}, fs.node place = none → fs.node place ≠ some .dir := by
    intro place hplace hdir
    rw [hplace] at hdir
    cases hdir
  exact ⟨hcurrent, List.forall_mem_cons.mpr ⟨hnone hrun, hhistory⟩,
    hnotDir (fs.node_child_eq_none (hbelow "current") _),
    fun file _ => hnotDir (fs.node_child_eq_none hrun file)⟩

/-- The tasks write the current report and the files of the run, each into its directory. -/
structure Stores (cwd : Place) (name : String) (kind : SnapshotKind) (stamp : Instant)
    (files : List String) (tasks : List FileTask) : Prop where
  prepared : Prepared cwd [] tasks
  made : ∀ dir ∈ madeBy cwd tasks,
    dir = currentDir cwd ∨ dir = historyDir cwd ∨ dir = snapshotPlace cwd kind stamp
  current : currentDir cwd ∈ madeBy cwd tasks
  snapshot : snapshotPlace cwd kind stamp ∈ madeBy cwd tasks
  written : (writtenBy cwd tasks).map Prod.fst =
    currentPlace cwd name :: files.map (· :: snapshotPlace cwd kind stamp)

section Stores
variable {cwd : Place} {name : String} {kind : SnapshotKind} {stamp : Instant}
  {files : List String} {tasks : List FileTask} {fs after : FileSystem}

theorem Stores.tidy (h : Stores cwd name kind stamp files tasks) : Tidy cwd tasks where
  prepared := h.prepared
  apart := by
    intro write hwrite dir hdir hsuffix
    have hshort : dir.length ≤ cwd.length + 3 := by
      rcases h.made dir hdir with rfl | rfl | rfl <;>
        simp [currentDir, historyDir, snapshotPlace]
    have hplace := List.mem_map_of_mem (f := Prod.fst) hwrite
    rw [h.written, List.mem_cons, List.mem_map] at hplace
    rcases hplace with hplace | ⟨file, _, hplace⟩
    · rw [hplace] at hsuffix
      have hlength := hsuffix.length_le
      rcases h.made dir hdir with rfl | rfl | rfl
      · simp only [currentPlace, currentDir, List.length_cons] at hlength
        omega
      · simp only [currentPlace, currentDir, historyDir, List.length_cons] at hlength
        omega
      · exact currentPlace_not_above hsuffix
    · rw [← hplace] at hsuffix
      have hlength := hsuffix.length_le
      simp only [snapshotPlace, historyDir, List.length_cons] at hlength
      omega

theorem Stores.roomy_iff (h : Stores fs.cwd name kind stamp files tasks) :
    Roomy fs tasks ↔ RoomFor fs name kind stamp files := by
  have hfree : (∀ write ∈ writtenBy fs.cwd tasks, fs.node write.1 ≠ some .dir) ↔
      ∀ place ∈ (writtenBy fs.cwd tasks).map Prod.fst, fs.node place ≠ some .dir := by
    rw [List.forall_mem_map]
  rw [h.written, List.forall_mem_cons, List.forall_mem_map] at hfree
  constructor
  · intro hroomy
    obtain ⟨hreport, hkept⟩ := hfree.mp hroomy.free
    exact ⟨hroomy.make _ h.current, hroomy.make _ h.snapshot, hreport, hkept⟩
  · intro hroom
    refine ⟨fun dir hdir => ?_, hfree.mpr ⟨hroom.report, hroom.kept⟩⟩
    rcases h.made dir hdir with rfl | rfl | rfl
    · exact hroom.current
    · intro above habove
      have hsuffix := ((List.mem_tails _ _).mp habove).trans
        (List.suffix_cons (kind.dirName stamp) (historyDir fs.cwd))
      exact hroom.snapshot above ((List.mem_tails _ _).mpr hsuffix)
    · exact hroom.snapshot

/-- A run is stored where there is room for it, and nothing else is written. -/
theorem Stores.run_iff (h : Stores fs.cwd name kind stamp files tasks) :
    ((∃ after, runTasks tasks fs = .ok () after) ↔ RoomFor fs name kind stamp files) ∧
      ∀ after, runTasks tasks fs = .ok () after →
        Laid fs (madeBy fs.cwd tasks) (writtenBy fs.cwd tasks) after := by
  refine ⟨?_, fun after hrun => (roomy_of_runTasks h.tidy hrun).2⟩
  rw [← h.roomy_iff, exists_runTasks_iff (Laid.refl fs) h.tidy.prepared h.tidy.apart]

theorem currentPlace_not_mem : currentPlace cwd name ∉ files.map (· :: snapshotPlace cwd kind stamp) := by
  intro hmem
  obtain ⟨file, _, hplace⟩ := List.mem_map.mp hmem
  have hlength := congrArg List.length hplace
  simp only [snapshotPlace, historyDir, currentPlace, currentDir, List.length_cons] at hlength
  omega

/-- Each file of a run has the text that was written for it. -/
theorem Stores.text_of_mem (h : Stores fs.cwd name kind stamp files tasks) (hnodup : files.Nodup)
    (hrun : runTasks tasks fs = .ok () after) {place : Place} {text : String}
    (hmem : (place, text) ∈ writtenBy fs.cwd tasks) : after.text place = some text := by
  refine (h.run_iff.2 after hrun).wrote.text_of_mem ?_ hmem
  rw [h.written]
  exact List.nodup_cons.mpr ⟨currentPlace_not_mem,
    hnodup.map (fun _ _ heq => (List.cons.inj heq).1)⟩

/-- What the script of a kind can write at a time. -/
def runPlaces (cwd : Place) (name : String) (kind : SnapshotKind) (stamp : Instant) : Set Place :=
  {place | place = currentPlace cwd name ∨ ∃ file, place = file :: snapshotPlace cwd kind stamp}

theorem Stores.within (h : Stores cwd name kind stamp files tasks) :
    Within cwd (runPlaces cwd name kind stamp) (runTasks tasks) := by
  refine within_runTasks tasks (fun write hwrite => ?_)
  have hplace := List.mem_map_of_mem (f := Prod.fst) hwrite
  rw [h.written, List.mem_cons, List.mem_map] at hplace
  rcases hplace with hplace | ⟨file, _, hplace⟩
  · exact Or.inl hplace
  · exact Or.inr ⟨file, hplace.symm⟩

end Stores
end Admissorium.Scripts
