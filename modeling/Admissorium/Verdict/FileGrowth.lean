import Admissorium.Classify.TextChecks
import Admissorium.Verdict.Admission

/-!
# More files

A candidate that gains files keeps its red classes, and stays blocked when it was: paths are
only added, and a check of the text finds in the longer text what it found in the shorter.
-/
namespace Admissorium.Verdict.FileGrowth
set_option autoImplicit false

open JavaScript Classify LanguageBoundary TextChecks Signing Admission

/-- An object with a text as its path. -/
def FileObject (v : Value) : Prop := ∃ path, v.get "path" = .str path

/-- The candidate has these files, or no member `files` and none. -/
def FilesOf (fields : Fields) (files : List Value) : Prop :=
  (fields.lookup "files" = none ∧ files = []) ∨ fields.lookup "files" = some (.arr files)

def extended : Value → List Value → Value
  | .arr files, more => .arr (files ++ more)
  | v, _ => v

/-- The candidate with further files, in a new last member if it had none. -/
def appendFiles : Fields → List Value → Fields
  | [], more => [("files", .arr more)]
  | (key, v) :: rest, more =>
      if key = "files" then (key, extended v more) :: rest
      else (key, v) :: appendFiles rest more

section Growth
variable {rt : Runtime} {fields : Fields} {files more : List Value}

/-! ## The paths of the longer candidate -/

theorem filesOf_appendFiles (h : FilesOf fields files) :
    FilesOf (appendFiles fields more) (files ++ more) := by
  induction fields with
  | nil =>
      rcases h with ⟨_, rfl⟩ | h
      · exact Or.inr rfl
      · cases h
  | cons field rest ih =>
      obtain ⟨key, v⟩ := field
      rw [FilesOf, lookup_cons_ite] at h
      unfold appendFiles
      by_cases hkey : key = "files"
      · subst hkey
        rw [if_pos rfl] at h
        rcases h with ⟨h, _⟩ | h
        · cases h
        · obtain rfl := Option.some.inj h
          rw [if_pos rfl]
          exact Or.inr rfl
      · rw [if_neg (Ne.symm hkey)] at h
        rw [if_neg hkey, FilesOf, lookup_cons_ite, if_neg (Ne.symm hkey)]
        exact ih h

/-- The paths are those of the file objects. -/
theorem candidatePaths_eq (h : FilesOf fields files) (hobjects : ∀ file ∈ files, FileObject file) :
    candidatePaths (.obj fields) = .ok (files.map (fun file => file.get "path")) ∧
      ∀ v ∈ files.map (fun file => file.get "path"), ∃ path, v = .str path := by
  have hmap : files.mapM (fun file => file.prop "path") =
      .ok (files.map (fun file => file.get "path")) := by
    refine mapM_eq_ok_map (fun file hfile => ?_)
    obtain ⟨path, hpath⟩ := hobjects file hfile
    cases file with
    | undefined => cases hpath
    | null => cases hpath
    | _ => rfl
  constructor
  · rcases h with ⟨hnone, rfl⟩ | hsome
    · have hprop : Value.prop (.obj fields) "files" = .ok .undefined :=
        congrArg (fun v : Option Value => Except.ok (v.getD .undefined)) hnone
      rw [candidatePaths, hprop]
      rfl
    · have hprop : Value.prop (.obj fields) "files" = .ok (.arr files) :=
        congrArg (fun v : Option Value => Except.ok (v.getD .undefined)) hsome
      rw [candidatePaths, hprop]
      exact hmap
  · intro v hv
    obtain ⟨file, hfile, rfl⟩ := List.mem_map.mp hv
    exact hobjects file hfile

/-! ## The text of the longer candidate -/

theorem elements_append (items others : List Value) :
    Json.elements rt (items ++ others) = Json.elements rt items ++ Json.elements rt others := by
  induction items with
  | nil => rfl
  | cons v rest ih => rw [List.cons_append, Json.elements, ih, Json.elements, List.cons_append]

/-- What a check sees in the members it still sees when files are added. -/
theorem members_mono {check : String → Bool} (h : Local check)
    (hseen : (Json.members rt fields).any check = true) :
    (Json.members rt (appendFiles fields more)).any check = true := by
  induction fields with
  | nil => cases hseen
  | cons field rest ih =>
      obtain ⟨key, v⟩ := field
      unfold appendFiles
      by_cases hkey : key = "files"
      · rw [if_pos hkey]
        cases v with
        | arr files =>
            rw [extended, Json.members, Json.stringify, elements_append]
            rw [Json.members, Json.stringify] at hseen
            simp only [List.any_cons, h.array, List.any_append, Bool.or_eq_true] at hseen ⊢
            rcases hseen with (hhead | hfiles) | hrest
            · exact Or.inl (Or.inl hhead)
            · exact Or.inl (Or.inr (Or.inl hfiles))
            · exact Or.inr hrest
        | _ => exact hseen
      · rw [if_neg hkey]
        rw [Json.members] at hseen ⊢
        cases hv : Json.stringify rt v with
        | none =>
            rw [hv] at hseen
            exact ih hseen
        | some text =>
            rw [hv] at hseen
            simp only [List.any_cons, Bool.or_eq_true] at hseen ⊢
            exact hseen.imp_right ih

theorem check_mono (hlower : LowersApart rt) {check : String → Bool} (h : Local check)
    {text text' : String} (ht : dangerText rt (.obj fields) = .ok text)
    (ht' : dangerText rt (.obj (appendFiles fields more)) = .ok text') (hseen : check text = true) :
    check text' = true := by
  rw [check_dangerText hlower h ht] at hseen
  rw [check_dangerText hlower h ht']
  exact members_mono (local_sees hlower h) hseen

/-! ## Monotony -/

/-- Both candidates are classified and judged; the longer one has every red class of the
shorter one, and is blocked if that one is. -/
structure BlocksAsMuch (rt : Runtime) (candidate longer : Value) : Prop where
  red_classes : ∃ surface mutation surface' mutation',
    classifySurface rt candidate = .ok surface ∧
    classifyMutation rt candidate surface = .ok mutation ∧
    classifySurface rt longer = .ok surface' ∧
    classifyMutation rt longer surface' = .ok mutation' ∧
    ∀ c ∈ mutation.red_classes, c ∈ mutation'.red_classes
  state : ∃ verdict verdict', compileActuatorVerdict rt candidate {} = .ok verdict ∧
    compileActuatorVerdict rt longer {} = .ok verdict' ∧
    (verdict.get "state" = .str "INADMISSIBLE_OR_QUARANTINE" →
      verdict'.get "state" = .str "INADMISSIBLE_OR_QUARANTINE")

theorem reads_of_files (rt : Runtime) (h : FilesOf fields files)
    (hobjects : ∀ file ∈ files, FileObject file) :
    ∃ text, Reads rt (.obj fields) (files.map (fun file => file.get "path")) text := by
  obtain ⟨hpaths, htexts⟩ := candidatePaths_eq h hobjects
  obtain ⟨text, htext⟩ := exists_dangerText rt fields
  exact ⟨text, hpaths, htext, allReadable_of_texts htexts⟩

theorem touchesTruth_mono (h : TouchesTruth (files.map (fun file => file.get "path"))) :
    TouchesTruth ((files ++ more).map (fun file => file.get "path")) := by
  obtain ⟨path, hpath, htruth⟩ := h
  rw [List.map_append]
  exact ⟨path, List.mem_append_left _ hpath, htruth⟩

theorem calm_of_longer (hlower : LowersApart rt) {text text' : String}
    (hread : Reads rt (.obj fields) (files.map (fun file => file.get "path")) text)
    (hread' : Reads rt (.obj (appendFiles fields more))
      ((files ++ more).map (fun file => file.get "path")) text')
    (hcalm : Calm ((files ++ more).map (fun file => file.get "path")) text') :
    Calm (files.map (fun file => file.get "path")) text := by
  refine ⟨fun htruth => hcalm.truth (touchesTruth_mono htruth), fun hred => hcalm.text ?_⟩
  obtain ⟨check, hcheck, hseen⟩ := (redText_iff text).mp hred
  exact (redText_iff text').mpr ⟨check, hcheck,
    check_mono hlower (local_reasonChecks check hcheck) hread.text_eq hread'.text_eq hseen⟩

theorem red_classes_mono (hlower : LowersApart rt) {text text' : String} {surface surface' : Surface}
    {mutation mutation' : Mutation}
    (hread : Reads rt (.obj fields) (files.map (fun file => file.get "path")) text)
    (hread' : Reads rt (.obj (appendFiles fields more))
      ((files ++ more).map (fun file => file.get "path")) text')
    (hs : classifySurface rt (.obj fields) = .ok surface)
    (hm : classifyMutation rt (.obj fields) surface = .ok mutation)
    (hs' : classifySurface rt (.obj (appendFiles fields more)) = .ok surface')
    (hm' : classifyMutation rt (.obj (appendFiles fields more)) surface' = .ok mutation') :
    ∀ c ∈ mutation.red_classes, c ∈ mutation'.red_classes := by
  have hmono : ∀ check, Local check → check text = true → check text' = true :=
    fun _ h hseen => check_mono hlower h hread.text_eq hread'.text_eq hseen
  obtain ⟨_, _, hr, htouch, _⟩ := reads_of_surface hs
  obtain ⟨rfl, _⟩ := hread.unique hr
  obtain ⟨_, _, hr', htouch', _⟩ := reads_of_surface hs'
  obtain ⟨rfl, _⟩ := hread'.unique hr'
  have htruth : surface.truth_path_touched = true → surface'.truth_path_touched = true :=
    fun h => htouch'.mpr (touchesTruth_mono (htouch.mp h))
  intro c hc
  rw [mem_red_classes hm hread.text_eq] at hc
  rw [mem_red_classes hm' hread'.text_eq]
  rcases hc with ⟨h, rfl⟩ | ⟨h, rfl⟩ | ⟨h, rfl⟩ | ⟨h, rfl⟩ | ⟨h, rfl⟩
  · exact Or.inl ⟨htruth h, rfl⟩
  · exact Or.inr (Or.inl ⟨hmono _ local_contentsWrite h, rfl⟩)
  · exact Or.inr (Or.inr (Or.inl ⟨hmono _ local_packagePublish h, rfl⟩))
  · exact Or.inr (Or.inr (Or.inr (Or.inl ⟨hmono _ local_secret h, rfl⟩)))
  · exact Or.inr (Or.inr (Or.inr (Or.inr ⟨hmono _ local_roleCollapse h, rfl⟩)))

/-- More files never unblock a candidate. -/
theorem appendFiles_blocksAsMuch (hlower : LowersApart rt) (h : FilesOf fields files)
    (hfiles : ∀ file ∈ files, FileObject file) (hmore : ∀ file ∈ more, FileObject file) :
    BlocksAsMuch rt (.obj fields) (.obj (appendFiles fields more)) := by
  have hall : ∀ file ∈ files ++ more, FileObject file := by
    intro file hfile
    exact (List.mem_append.mp hfile).elim (hfiles file) (hmore file)
  obtain ⟨text, hread⟩ := reads_of_files rt h hfiles
  obtain ⟨text', hread'⟩ := reads_of_files rt (filesOf_appendFiles h) hall
  obtain ⟨surface, mutation, risk, hclass⟩ := exists_classified_of_reads hread
  obtain ⟨surface', mutation', risk', hclass'⟩ := exists_classified_of_reads hread'
  obtain ⟨verdict, _, hv, _⟩ := exists_admission hclass
  obtain ⟨verdict', _, hv', _⟩ := exists_admission hclass'
  constructor
  · exact ⟨surface, mutation, surface', mutation', hclass.surface_eq, hclass.mutation_eq,
      hclass'.surface_eq, hclass'.mutation_eq, red_classes_mono hlower hread hread'
        hclass.surface_eq hclass.mutation_eq hclass'.surface_eq hclass'.mutation_eq⟩
  · refine ⟨verdict, verdict', hv, hv', fun hblocked => ?_⟩
    rw [inadmissible_iff hv hread] at hblocked
    rw [inadmissible_iff hv' hread']
    exact fun hcalm => hblocked (calm_of_longer hlower hread hread' hcalm)

end Growth

theorem appendFiles_blocksAsMuch_readme : BlocksAsMuch .ascii
    (.obj [("summary", .str "npm publish")])
    (.obj (appendFiles [("summary", .str "npm publish")] [.obj [("path", .str "README.md")]])) :=
  appendFiles_blocksAsMuch (lowersApart_of_asciiLower rfl) (Or.inl ⟨rfl, rfl⟩) nofun
    (List.forall_mem_singleton.mpr ⟨"README.md", rfl⟩)

end Admissorium.Verdict.FileGrowth
