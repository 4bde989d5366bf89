import Admissorium.Scripts.ReportBundle

/-!
# Trees that reports are filed in

Every script that comes to its end makes report directories and writes report files, and nothing
else; what starts it may change files of its own elsewhere. What another script reads, and whether
there is room for what it stores, is the same before and after.
-/
namespace Admissorium.Scripts
set_option autoImplicit false

open JavaScript Json Files Signing Hostile

/-! ## Paths away from the reports -/

theorem foldl_descend_append {segments : List String} (h : ".." ∉ segments) (place start : Place) :
    segments.foldl descend (place ++ start) = segments.foldl descend place ++ start := by
  induction segments generalizing place with
  | nil => rfl
  | cons segment rest ih =>
      rw [List.mem_cons, not_or] at h
      have hstep : descend (place ++ start) segment = descend place segment ++ start := by
        rw [descend, descend]
        split
        · rfl
        · rw [if_neg (fun he => h.1 he.symm), if_neg (fun he => h.1 he.symm), List.cons_append]
      rw [List.foldl_cons, List.foldl_cons, hstep, ih h.2]

/-- A path from the working directory that leads down, but not into the reports. -/
structure Away (path : String) : Prop where
  relative : isAbsolute path = false
  down : ".." ∉ Text.split path '/'
  away : (follow [] path).getLast? ≠ some "reports"
  some : follow [] path ≠ []

instance (path : String) : Decidable (Away path) :=
  decidable_of_iff (isAbsolute path = false ∧ ".." ∉ Text.split path '/' ∧
    (follow [] path).getLast? ≠ Option.some "reports" ∧ follow [] path ≠ [])
    ⟨fun h => ⟨h.1, h.2.1, h.2.2.1, h.2.2.2⟩,
      fun h => ⟨h.relative, h.down, h.away, h.some⟩⟩

theorem Away.resolve_eq {path : String} (h : Away path) (cwd : Place) :
    resolve cwd path = follow [] path ++ cwd := by
  rw [resolve, h.relative, if_neg Bool.false_ne_true]
  exact foldl_descend_append h.down [] cwd

/-- In the working directory, neither below the reports nor above them. -/
structure Beside (cwd place : Place) : Prop where
  inside : cwd <:+ place
  below : ¬ ("reports" :: cwd) <:+ place
  above : ¬ place <:+ "reports" :: cwd

/-- Names below the working directory are beside the reports if the first of them is. -/
theorem beside_append (cwd : Place) {names : Place} (hne : names ≠ [])
    (haway : names.getLast? ≠ some "reports") : Beside cwd (names ++ cwd) := by
  obtain ⟨front, last, rfl⟩ : ∃ front last, names = front ++ [last] :=
    ⟨_, _, (List.dropLast_append_getLast hne).symm⟩
  rw [List.getLast?_append, List.getLast?_singleton, Option.some_or, Ne, Option.some.injEq] at haway
  have happly : front ++ [last] ++ cwd = front ++ last :: cwd := by
    rw [List.append_assoc, List.singleton_append]
  have hlast : (last :: cwd) <:+ front ++ last :: cwd := List.suffix_append _ _
  rw [happly]
  constructor
  · exact (List.suffix_cons last cwd).trans hlast
  · intro h
    have hsame := (List.suffix_of_suffix_length_le h hlast (by simp)).eq_of_length (by simp)
    exact haway (List.cons.inj hsame).1.symm
  · intro h
    have hsame := (hlast.trans h).eq_of_length (by simp)
    exact haway (List.cons.inj hsame).1

theorem Away.beside {path : String} (h : Away path) (cwd : Place) :
    Beside cwd (resolve cwd path) := by
  rw [h.resolve_eq]
  exact beside_append cwd h.some h.away

/-! ## Filing -/

def IsReportDir (cwd dir : Place) : Prop :=
  dir = currentDir cwd ∨ dir = historyDir cwd ∨ ∃ kind stamp, dir = snapshotPlace cwd kind stamp

/-- In the working directory, nothing was done but to make report directories and to write report
files. A report directory can be made where it could be before. -/
structure Filed (reach : Reach) (fs after : FileSystem) : Prop where
  cwd : after.cwd = fs.cwd
  text : ∀ place, fs.cwd <:+ place → place ∉ reach.places fs.cwd → after.text place = fs.text place
  dir_iff : ∀ place, fs.cwd <:+ place → (∀ dir, IsReportDir fs.cwd dir → ¬ place <:+ dir) →
    (after.node place = some .dir ↔ fs.node place = some .dir)
  canMake_iff : ∀ dir, IsReportDir fs.cwd dir → (after.CanMake dir ↔ fs.CanMake dir)

section Places
variable {cwd place dir : Place} {reach : Reach} {kind : SnapshotKind} {stamp : Instant}
  {name : String}

theorem reports_suffix_of_places (h : place ∈ reach.places cwd) : ("reports" :: cwd) <:+ place := by
  rcases h with ⟨name, _, rfl | rfl⟩ | ⟨snapshot, _, file, rfl⟩
  · exact (List.suffix_cons _ _).trans (List.suffix_cons _ _)
  · exact (List.suffix_cons _ _).trans (List.suffix_cons _ _)
  · exact ((List.suffix_cons _ _).trans (List.suffix_cons _ _)).trans (List.suffix_cons _ _)

theorem reports_suffix_of_isReportDir (h : IsReportDir cwd dir) : ("reports" :: cwd) <:+ dir := by
  rcases h with rfl | rfl | ⟨kind, stamp, rfl⟩
  · exact List.suffix_cons _ _
  · exact List.suffix_cons _ _
  · exact (List.suffix_cons _ _).trans (List.suffix_cons _ _)

theorem length_of_isReportDir (h : IsReportDir cwd dir) : dir.length ≤ cwd.length + 3 := by
  rcases h with rfl | rfl | ⟨kind, stamp, rfl⟩ <;> simp [currentDir, historyDir, snapshotPlace]

theorem getLast?_stampChars : (kind.stampChars stamp).getLast? = some 'Z' := by
  cases kind <;> simp [SnapshotKind.stampChars, Instant.spelled, List.getLast?_cons]

theorem latestPlace_ne_snapshotPlace : latestPlace cwd name ≠ snapshotPlace cwd kind stamp := by
  intro h
  have hname := congrArg (fun s => s.toList.getLast?) (List.cons.inj h).1
  have hjson : ".latest.json".toList.getLast? = some 'n' := by decide
  simp only [SnapshotKind.dirName, stampOf_eq, String.toList_append, String.toList_ofList,
    List.getLast?_append, getLast?_stampChars, hjson, Option.some_or] at hname
  exact absurd hname (by decide)

/-- Nothing in the current reports leads to a report directory. -/
theorem current_not_above (hdir : IsReportDir cwd dir) : ¬ name :: currentDir cwd <:+ dir := by
  intro hsuffix
  have hlength := hsuffix.length_le
  rcases hdir with rfl | rfl | ⟨kind, stamp, rfl⟩
  · simp only [List.length_cons] at hlength
    omega
  · simp only [currentDir, historyDir, List.length_cons] at hlength
    omega
  · have hsame := hsuffix.eq_of_length
      (by simp only [currentDir, snapshotPlace, historyDir, List.length_cons])
    rw [currentDir, snapshotPlace, historyDir] at hsame
    exact absurd (List.cons.inj (List.cons.inj hsame).2).1 (by decide)

/-- No report file is where a report directory is or leads. -/
theorem not_suffix_of_places (h : place ∈ reach.places cwd) (hdir : IsReportDir cwd dir) :
    ¬ place <:+ dir := by
  intro hsuffix
  have hlength := hsuffix.length_le.trans (length_of_isReportDir hdir)
  rcases h with ⟨name, _, rfl | rfl⟩ | ⟨snapshot, _, file, rfl⟩
  · exact current_not_above hdir hsuffix
  · rcases hdir with rfl | rfl | ⟨kind, stamp, rfl⟩
    · have hle := hsuffix.length_le
      simp only [latestPlace, currentDir, historyDir, List.length_cons] at hle
      omega
    · have hle := hsuffix.length_le
      simp only [latestPlace, historyDir, List.length_cons] at hle
      omega
    · exact latestPlace_ne_snapshotPlace (hsuffix.eq_of_length
        (by simp only [latestPlace, snapshotPlace, historyDir, List.length_cons]))
  · simp only [snapshotPlace, historyDir, List.length_cons] at hlength
    omega

end Places

section Filed
variable {reach : Reach} {fs between after : FileSystem} {place dir : Place}

/-- What lays nothing but reports files them. -/
theorem filed_of_laid {dirs : List Place} {writes : List (Place × String)}
    (hlaid : Laid fs dirs writes after) (hdirs : ∀ dir ∈ dirs, IsReportDir fs.cwd dir)
    (hwrites : ∀ write ∈ writes, write.1 ∈ reach.places fs.cwd) : Filed reach fs after where
  cwd := hlaid.wrote.cwd
  text := by
    intro place _ hplace
    refine hlaid.wrote.text_of_not_mem (fun hmem => ?_)
    obtain ⟨write, hwrite, rfl⟩ := List.mem_map.mp hmem
    exact hplace (hwrites write hwrite)
  dir_iff := by
    intro place _ hapart
    rw [hlaid.dir_iff]
    refine or_iff_left (fun hmade => ?_)
    obtain ⟨dir, hdir, hsuffix⟩ := hmade
    exact hapart dir (hdirs dir hdir) hsuffix
  canMake_iff := fun _ hdir =>
    hlaid.canMake_iff (fun write hwrite => not_suffix_of_places (hwrites write hwrite) hdir)

/-- Files elsewhere, and not on the way to the working directory, are none of its reports. -/
theorem filed_of_spares {own : Set Place}
    (houtside : ∀ place ∈ own, ¬ fs.cwd <:+ place ∧ ¬ place <:+ fs.cwd) (h : Spares own fs after) :
    Filed reach fs after where
  cwd := h.cwd
  text := by
    intro place hinside _
    exact h.framed.text place (fun hown => (houtside place hown).1 hinside)
  dir_iff := by
    intro place hinside _
    rw [h.node place (fun hown => (houtside place hown).1 hinside)]
  canMake_iff := by
    intro dir hdir
    have hinside : fs.cwd <:+ dir := (List.suffix_cons _ _).trans (reports_suffix_of_isReportDir hdir)
    refine forall₂_congr (fun above habove => ?_)
    have hspared : above ∉ own := by
      intro hown
      obtain ⟨hbelow, hleads⟩ := houtside above hown
      exact (List.suffix_or_suffix_of_suffix ((List.mem_tails _ _).mp habove) hinside).elim hleads
        hbelow
    rw [h.framed.text above hspared]

theorem Filed.refl (fs : FileSystem) : Filed reach fs fs :=
  ⟨rfl, fun _ _ _ => rfl, fun _ _ _ => Iff.rfl, fun _ _ => Iff.rfl⟩

theorem Filed.trans (h : Filed reach fs between) (h' : Filed reach between after) :
    Filed reach fs after where
  cwd := h'.cwd.trans h.cwd
  text := by
    intro place hinside hplace
    rw [← h.text place hinside hplace]
    exact h'.text place (h.cwd ▸ hinside) (h.cwd ▸ hplace)
  dir_iff := by
    intro place hinside hapart
    rw [← h.dir_iff place hinside hapart]
    exact h'.dir_iff place (h.cwd ▸ hinside) (h.cwd ▸ hapart)
  canMake_iff := by
    intro dir hdir
    rw [← h.canMake_iff dir hdir]
    exact h'.canMake_iff dir (h.cwd ▸ hdir)

theorem Filed.mono {more : Reach} (h : Filed reach fs after) (hnames : reach.names ⊆ more.names)
    (hsnapshots : reach.snapshots ⊆ more.snapshots) : Filed more fs after where
  cwd := h.cwd
  text := fun place hinside hplace =>
    h.text place hinside (fun hmem => hplace (Reach.mono hnames hsnapshots hmem))
  dir_iff := h.dir_iff
  canMake_iff := h.canMake_iff

theorem Filed.text_of_beside (h : Filed reach fs after) (hbeside : Beside fs.cwd place) :
    after.text place = fs.text place :=
  h.text place hbeside.inside (fun hplace => hbeside.below (reports_suffix_of_places hplace))

theorem Filed.dir_iff_of_beside (h : Filed reach fs after) (hbeside : Beside fs.cwd place) :
    after.node place = some .dir ↔ fs.node place = some .dir := by
  refine h.dir_iff place hbeside.inside (fun dir hdir hsuffix => ?_)
  rcases List.suffix_or_suffix_of_suffix hsuffix (reports_suffix_of_isReportDir hdir) with hs | hs
  · exact hbeside.above hs
  · exact hbeside.below hs

theorem Filed.node_iff_of_beside (h : Filed reach fs after) (hbeside : Beside fs.cwd place) :
    after.node place ≠ none ↔ fs.node place ≠ none := by
  rw [node_ne_none_iff, node_ne_none_iff, h.dir_iff_of_beside hbeside, h.text_of_beside hbeside]

/-- A report file can be written where it could be before. -/
theorem Filed.free_iff (h : Filed reach fs after) {more : Reach} (hplace : place ∈ more.places fs.cwd) :
    after.node place ≠ some .dir ↔ fs.node place ≠ some .dir :=
  not_congr (h.dir_iff place ((List.suffix_cons _ _).trans (reports_suffix_of_places hplace))
    (fun _ hdir => not_suffix_of_places hplace hdir))

end Filed

end Admissorium.Scripts
