import Admissorium.Files.FileSystem
import Mathlib.Data.Set.Lattice
import Mathlib.Data.Set.Finite.Basic

/-!
# Programs over files

The calls that read, and what a program can reach. A program is within a set of places when it
gives no other place another text, whether it returns or throws; the rules follow the program.
Runs of programs one after another keep what none of them reaches.
-/
namespace Admissorium.Files
set_option autoImplicit false

open JavaScript

/-! ## Calls that read -/

def readError (fs : FileSystem) (path : String) : String :=
  if fs.node (resolve fs.cwd path) = some .dir then "EISDIR: illegal operation on a directory, read"
  else if (resolve fs.cwd path).tails.any (fun above => (fs.text above).isSome) then
    "ENOTDIR: not a directory, open '" ++ path ++ "'"
  else "ENOENT: no such file or directory, open '" ++ path ++ "'"

/-- `readFileSync(path, "utf8")`, for a path that does not end in a slash. -/
def readFileSync (path : String) : Fs String := fun fs =>
  if hasNul path then .error .typeError fs
  else match fs.text (resolve fs.cwd path) with
    | some text => .ok text fs
    | none => .error (.error (readError fs path)) fs

/-- The names a host lists for a directory, in whichever order it has them. -/
structure Listing where
  names : FileSystem → Place → List String
  nodup : ∀ fs place, (names fs place).Nodup
  mem_names : ∀ fs place, {name | fs.node (name :: place) ≠ none}.Finite →
    ∀ name, name ∈ names fs place ↔ fs.node (name :: place) ≠ none

/-- A host can list directories. -/
theorem exists_listing : Nonempty Listing := by
  classical
  refine ⟨fun fs place => if h : {name | fs.node (name :: place) ≠ none}.Finite then
    h.toFinset.toList else [], fun fs place => ?_, fun fs place h name => ?_⟩
  · split
    · exact Finset.nodup_toList _
    · exact List.nodup_nil
  · rw [dif_pos h, Finset.mem_toList, Set.Finite.mem_toFinset]
    exact Iff.rfl

theorem node_ofList_ne_none {entries : List (Place × Node)}
    {h : ∀ entry ∈ entries, FileSystem.nodeOf entries entry.1.tail = some .dir} {name : String}
    {place : Place} : (FileSystem.ofList entries h).node (name :: place) ≠ none ↔
      name :: place ∈ entries.map Prod.fst := by
  change FileSystem.nodeOf entries (name :: place) ≠ none ↔ _
  rw [FileSystem.nodeOf, if_neg (List.cons_ne_nil _ _), Ne, List.lookup_eq_none_iff]
  simp only [not_forall, bne_iff_ne, not_not, List.mem_map]
  constructor
  · intro hfound
    obtain ⟨entry, hentry, heq⟩ := hfound
    exact ⟨entry, hentry, heq.symm⟩
  · intro hfound
    obtain ⟨entry, hentry, heq⟩ := hfound
    exact ⟨entry, hentry, heq.symm⟩

def scanError (fs : FileSystem) (path : String) : String :=
  if (resolve fs.cwd path).tails.any (fun above => (fs.text above).isSome) then
    "ENOTDIR: not a directory, scandir '" ++ path ++ "'"
  else "ENOENT: no such file or directory, scandir '" ++ path ++ "'"

def readdirSync (listing : Listing) (path : String) : Fs (List String) := fun fs =>
  if hasNul path then .error .typeError fs
  else if fs.node (resolve fs.cwd path) = some .dir then
    .ok (listing.names fs (resolve fs.cwd path)) fs
  else .error (.error (scanError fs path)) fs

/-! ## Programs that return

What a call needs to return, and the tree it returns in; `run_bind_eq_ok` puts these together. -/

section Returns
variable {α β γ : Type} {fs after : FileSystem} {path text : String} {a : α}

theorem pure_eq_ok {b : α} : (pure a : Fs α) fs = .ok b after ↔ b = a ∧ after = fs := by
  change EStateM.Result.ok a fs = .ok b after ↔ _
  rw [EStateM.Result.ok.injEq, eq_comm (a := a), eq_comm (a := fs)]

theorem orThrow_eq_ok {result : Except JsError α} :
    orThrow result fs = .ok a after ↔ result = .ok a ∧ after = fs := by
  cases result with
  | ok b =>
      change EStateM.Result.ok b fs = .ok a after ↔ _
      rw [EStateM.Result.ok.injEq, Except.ok.injEq, eq_comm (a := fs)]
  | error e =>
      constructor
      · intro h
        cases h
      · intro h
        cases h.1

/-- A directory is there. -/
theorem existsSync_of_dir (hnul : hasNul path = false)
    (h : fs.node (resolve fs.cwd path) = some .dir) : existsSync path fs = .ok true fs := by
  rw [existsSync, hnul, h]
  rfl

theorem existsSync_eq_ok {there : Bool} (h : existsSync path fs = .ok there after) : after = fs := by
  cases h
  rfl

theorem mkdirSync_eq_ok : mkdirSync path fs = .ok () after ↔ hasNul path = false ∧
    ∃ h : fs.CanMake (resolve fs.cwd path), after = fs.makeDirs _ h := by
  rw [mkdirSync]
  split
  case isTrue hnul =>
    rw [hnul]
    exact ⟨fun h => (by cases h), fun h => by cases h.1⟩
  case isFalse hnul =>
    rw [Bool.not_eq_true] at hnul
    split
    case isTrue hcan =>
      rw [EStateM.Result.ok.injEq]
      exact ⟨fun h => ⟨hnul, hcan, h.2.symm⟩, fun h => ⟨rfl, h.2.2.symm⟩⟩
    case isFalse hcan => exact ⟨fun h => (by cases h), fun h => absurd h.2.1 hcan⟩

theorem writeFileSync_eq_ok : writeFileSync path text fs = .ok () after ↔ hasNul path = false ∧
    ∃ h : fs.CanWrite (resolve fs.cwd path), after = fs.putFile _ text h := by
  rw [writeFileSync]
  split
  case isTrue hnul =>
    rw [hnul]
    exact ⟨fun h => (by cases h), fun h => by cases h.1⟩
  case isFalse hnul =>
    rw [Bool.not_eq_true] at hnul
    split
    case isTrue hcan =>
      rw [EStateM.Result.ok.injEq]
      exact ⟨fun h => ⟨hnul, hcan, h.2.symm⟩, fun h => ⟨rfl, h.2.2.symm⟩⟩
    case isFalse hcan => exact ⟨fun h => (by cases h), fun h => absurd h.2.1 hcan⟩

/-- A write to a path that leads to a place. -/
theorem writeFileSync_at {place : Place} (hplace : resolve fs.cwd path = place)
    (hnul : hasNul path = false) : writeFileSync path text fs = .ok () after ↔
      ∃ h : fs.CanWrite place, after = fs.putFile _ text h := by
  subst hplace
  rw [writeFileSync_eq_ok]
  exact and_iff_right hnul

theorem readFileSync_eq_ok : readFileSync path fs = .ok text after ↔
    (hasNul path = false ∧ fs.text (resolve fs.cwd path) = some text) ∧ after = fs := by
  rw [readFileSync]
  split
  case isTrue hnul =>
    rw [hnul]
    exact ⟨fun h => (by cases h), fun h => by cases h.1.1⟩
  case isFalse hnul =>
    rw [Bool.not_eq_true] at hnul
    cases htext : fs.text (resolve fs.cwd path) with
    | none => exact ⟨fun h => (by cases h), fun h => by cases h.1.2⟩
    | some found =>
        rw [EStateM.Result.ok.injEq, Option.some.injEq]
        exact ⟨fun h => ⟨⟨hnul, h.1⟩, h.2.symm⟩, fun h => ⟨h.1.2, h.2.symm⟩⟩

theorem readdirSync_eq_ok {listing : Listing} {names : List String} :
    readdirSync listing path fs = .ok names after ↔
      (hasNul path = false ∧ fs.node (resolve fs.cwd path) = some .dir ∧
        names = listing.names fs (resolve fs.cwd path)) ∧ after = fs := by
  rw [readdirSync]
  split
  case isTrue hnul =>
    rw [hnul]
    exact ⟨fun h => (by cases h), fun h => by cases h.1.1⟩
  case isFalse hnul =>
    rw [Bool.not_eq_true] at hnul
    split
    case isTrue hdir =>
      rw [EStateM.Result.ok.injEq]
      exact ⟨fun h => ⟨⟨hnul, hdir, h.1.symm⟩, h.2.symm⟩, fun h => ⟨h.1.2.2.symm, h.2.symm⟩⟩
    case isFalse hdir => exact ⟨fun h => (by cases h), fun h => absurd h.1.2.1 hdir⟩

/-- A program that only looks returns in the tree it is run in. -/
def Looks (program : Fs α) : Prop := ∀ fs a after, program fs = .ok a after → after = fs

theorem looks_readFileSync (path : String) : Looks (readFileSync path) :=
  fun _ _ _ h => (readFileSync_eq_ok.mp h).2

theorem looks_orThrow (result : Except JsError α) : Looks (orThrow result) :=
  fun _ _ _ h => (orThrow_eq_ok.mp h).2

theorem looks_bind {program : Fs α} {next : α → Fs β} (h : Looks program)
    (hnext : ∀ a, Looks (next a)) : Looks (program >>= next) := by
  intro fs b after hrun
  obtain ⟨a, between, hfirst, hrest⟩ := run_bind_eq_ok.mp hrun
  exact (hnext a _ _ _ hrest).trans (h _ _ _ hfirst)

/-- A loop that only looks takes each of its steps in the one tree. -/
theorem mapM_looks_eq_ok {step : β → Fs γ} (hstep : ∀ b, Looks (step b)) {items : List β}
    {results : List γ} : items.mapM step fs = .ok results after ↔
      List.Forall₂ (fun b c => step b fs = .ok c fs) items results ∧ after = fs := by
  induction items generalizing results after with
  | nil =>
      rw [List.mapM_nil, pure_eq_ok, List.forall₂_nil_left_iff]
  | cons b rest ih =>
      rw [List.mapM_cons, run_bind_eq_ok, List.forall₂_cons_left_iff]
      constructor
      · intro h
        obtain ⟨c, between, hb, hloop⟩ := h
        obtain rfl := hstep b _ _ _ hb
        obtain ⟨cs, last, hrest, hpure⟩ := run_bind_eq_ok.mp hloop
        obtain ⟨rfl, rfl⟩ := pure_eq_ok.mp hpure
        obtain ⟨hall, rfl⟩ := ih.mp hrest
        exact ⟨⟨c, cs, hb, hall, rfl⟩, rfl⟩
      · intro h
        obtain ⟨⟨c, cs, hb, hall, rfl⟩, rfl⟩ := h
        exact ⟨c, _, hb, run_bind_eq_ok.mpr ⟨cs, _, ih.mpr ⟨hall, rfl⟩, rfl⟩⟩

/-- Items that each have a result have a list of results. -/
theorem exists_forall₂ {R : β → γ → Prop} {items : List β} (h : ∀ b ∈ items, ∃ c, R b c) :
    ∃ results, List.Forall₂ R items results := by
  induction items with
  | nil => exact ⟨[], List.Forall₂.nil⟩
  | cons b rest ih =>
      obtain ⟨⟨c, hc⟩, hrest⟩ := List.forall_mem_cons.mp h
      obtain ⟨cs, hcs⟩ := ih hrest
      exact ⟨c :: cs, List.Forall₂.cons hc hcs⟩

end Returns

/-! ## Directories and files -/

/-- A tree with some directories made and some files written, and nothing else done to it. -/
structure Laid (fs : FileSystem) (dirs : List Place) (writes : List (Place × String))
    (after : FileSystem) : Prop where
  wrote : Wrote fs writes after
  dir_iff : ∀ place, after.node place = some .dir ↔
    fs.node place = some .dir ∨ ∃ dir ∈ dirs, place <:+ dir

section Laid
variable {fs between : FileSystem} {dirs : List Place} {writes : List (Place × String)}
  {place : Place}

theorem Laid.refl (fs : FileSystem) : Laid fs [] [] fs :=
  ⟨Wrote.refl fs, fun _ => ⟨Or.inl, fun h => h.elim id (fun hd => absurd hd.choose_spec.1
    List.not_mem_nil)⟩⟩

theorem Laid.trans {after : FileSystem} {more : List Place} {others : List (Place × String)}
    (h : Laid fs dirs writes between) (h' : Laid between more others after) :
    Laid fs (dirs ++ more) (writes ++ others) after where
  wrote := h.wrote.trans h'.wrote
  dir_iff := by
    intro q
    rw [h'.dir_iff, h.dir_iff, or_assoc]
    simp only [List.mem_append, or_and_right, exists_or]

theorem Laid.makeDirs (h : Laid fs dirs writes between) (hcan : between.CanMake place) :
    Laid fs (dirs ++ [place]) writes (between.makeDirs place hcan) where
  wrote := by
    have hwrote := h.wrote.trans (wrote_makeDirs between hcan)
    rwa [List.append_nil] at hwrote
  dir_iff := by
    intro q
    rw [dir_makeDirs_iff, h.dir_iff, or_assoc]
    simp only [List.mem_append, List.mem_singleton, or_and_right, exists_or, exists_eq_left]

theorem Laid.putFile (h : Laid fs dirs writes between) (text : String)
    (hcan : between.CanWrite place) :
    Laid fs dirs (writes ++ [(place, text)]) (between.putFile place text hcan) where
  wrote := h.wrote.trans (wrote_putFile between text hcan)
  dir_iff := fun q => (dir_putFile_iff between text hcan q).trans (h.dir_iff q)

end Laid

/-! ## Paths from parts -/

theorem isAbsolute_intercalate {dir : String} (hdir : dir ≠ "") (parts : List String) :
    isAbsolute ("/".intercalate (dir :: parts)) = isAbsolute dir := by
  cases parts with
  | nil => rw [String.intercalate_singleton]
  | cons part rest => rw [String.intercalate_cons_cons, String.append_assoc, isAbsolute_append hdir]

theorem foldl_follow (start : Place) (parts : List String) :
    (parts.flatMap (fun part => Text.split part '/')).foldl descend start =
      parts.foldl follow start := by
  induction parts generalizing start with
  | nil => rfl
  | cons part rest ih => rw [List.flatMap_cons, List.foldl_append, ih, List.foldl_cons, follow]

/-- Empty parts lead nowhere. -/
theorem foldl_follow_filter (start : Place) (parts : List String) :
    (parts.filter (fun part => part ≠ "")).foldl follow start = parts.foldl follow start := by
  induction parts generalizing start with
  | nil => rfl
  | cons part rest ih =>
      by_cases hpart : part = ""
      · subst hpart
        exact ih start
      · have hkept : (part :: rest).filter (fun part => part ≠ "") =
            part :: rest.filter (fun part => part ≠ "") := List.filter_cons_of_pos (by simpa using hpart)
        rw [hkept, List.foldl_cons, List.foldl_cons, ih]

/-- The parts of a path that is put together are followed one after another. -/
theorem resolve_join_cons (cwd : Place) {dir : String} (hdir : dir ≠ "") (parts : List String) :
    resolve cwd (join (dir :: parts)) = parts.foldl follow (resolve cwd dir) := by
  have hparts : (dir :: parts).filter (fun part => part ≠ "") =
      dir :: parts.filter (fun part => part ≠ "") :=
    List.filter_cons_of_pos (by simpa using hdir)
  rw [join, hparts, if_neg (List.cons_ne_nil _ _), resolve_normalize, resolve, resolve,
    isAbsolute_intercalate hdir, follow, split_intercalate (List.cons_ne_nil _ _), foldl_follow,
    List.foldl_cons, foldl_follow_filter]

theorem join_two {dir file : String} (hdir : dir ≠ "") (hfile : file ≠ "") :
    join [dir, file] = normalize (dir ++ "/" ++ file) := by
  have hparts : [dir, file].filter (fun part => part ≠ "") = [dir, file] := by simp [hdir, hfile]
  rw [join, hparts, if_neg (List.cons_ne_nil _ _)]
  rfl

theorem endsWith_slash_append {name : String} (h : IsName name) (front : String) :
    Text.endsWith (front ++ name) "/" = false := by
  rw [Bool.eq_false_iff]
  intro hends
  have hsuffix : ['/'] <:+ front.toList ++ name.toList := by
    rw [← String.toList_append]
    exact List.isSuffixOf_iff_suffix.mp hends
  have hne : name.toList ≠ [] := fun he => h.nonempty (String.toList_eq_nil_iff.mp he)
  have hlast := hsuffix.getLast (by simp)
  rw [List.getLast_singleton, List.getLast_append_of_ne_nil _ hne] at hlast
  exact h.no_slash (hlast ▸ List.getLast_mem hne)

theorem intercalate_append_singleton (segments : List String) (name : String) :
    ∃ front, "/".intercalate (segments ++ [name]) = front ++ name := by
  induction segments with
  | nil => exact ⟨"", by rw [List.nil_append, String.intercalate_singleton, String.empty_append]⟩
  | cons segment rest ih =>
      obtain ⟨front, hfront⟩ := ih
      cases rest with
      | nil => exact ⟨segment ++ "/", rfl⟩
      | cons next more =>
          refine ⟨segment ++ "/" ++ front, ?_⟩
          rw [List.cons_append, List.cons_append, String.intercalate_cons_cons,
            ← List.cons_append, hfront, ← String.append_assoc]

/-- A normal form ends in the name its path ends in. -/
theorem endsWith_normalize {name : String} (h : IsName name) (front : String) :
    Text.endsWith (normalize (front ++ "/" ++ name)) "/" = false := by
  have hsegments : ∀ above, ∃ segments,
      normalSegments above (front ++ "/" ++ name) = segments ++ [name] := by
    intro above
    refine ⟨((Text.split front '/').foldl (push above) []).reverse, ?_⟩
    rw [normalSegments, split_append, Text.split_eq_singleton h.no_slash, List.foldl_append,
      List.foldl_cons, List.foldl_nil, push, if_neg (not_or.mpr ⟨h.nonempty, h.not_dot⟩),
      if_neg h.not_dots, List.reverse_cons]
  have hne : front ++ "/" ++ name ≠ "" :=
    fun he => h.nonempty (String.append_eq_empty_iff.mp he).2
  obtain ⟨segments, hnormal⟩ := hsegments (!isAbsolute (front ++ "/" ++ name))
  obtain ⟨body, hbody⟩ := intercalate_append_singleton segments name
  have hbodyNe : body ++ name ≠ "" := fun he => h.nonempty (String.append_eq_empty_iff.mp he).2
  rw [normalize, if_neg hne, hnormal, hbody, layOut, if_neg hbodyNe, endsWith_slash_append h,
    if_neg Bool.false_ne_true, String.append_empty, ← String.append_assoc]
  exact endsWith_slash_append h _

/-! ## The working directory -/

/-- The path of a place from the root. -/
def cwdPath (place : Place) : String := "/" ++ "/".intercalate place.reverse

/-- `process.cwd()`. -/
def processCwd : Fs String := fun fs => .ok (cwdPath fs.cwd) fs

theorem processCwd_eq_ok {fs after : FileSystem} {root : String} :
    processCwd fs = .ok root after ↔ root = cwdPath fs.cwd ∧ after = fs := by
  rw [processCwd, EStateM.Result.ok.injEq, eq_comm, eq_comm (a := fs)]

/-- Every directory on the way to a place has a name of its own. -/
def Named (place : Place) : Prop := ∀ name ∈ place, IsName name ∧ hasNul name = false

theorem resolve_cwdPath (cwd : Place) {place : Place} (h : Named place) :
    resolve cwd (cwdPath place) = place := by
  have habsolute : isAbsolute (cwdPath place) = true := isAbsolute_slash_append _
  rw [resolve, habsolute, if_pos rfl, cwdPath, follow_slash_append]
  by_cases hroot : place = []
  · subst hroot
    rfl
  have hnames : ∀ (names : List String) (start : Place), (∀ name ∈ names, IsName name) →
      names.foldl descend start = names.reverse ++ start := by
    intro names
    induction names with
    | nil => exact fun _ _ => rfl
    | cons name rest ih =>
        intro start hall
        obtain ⟨hname, hrest⟩ := List.forall_mem_cons.mp hall
        rw [List.foldl_cons, descend_name hname, ih _ hrest, List.reverse_cons, List.append_assoc]
        rfl
  have hall : ∀ name ∈ place.reverse, IsName name :=
    fun name hname => (h name (List.mem_reverse.mp hname)).1
  rw [follow_intercalate (fun hnil => hroot (List.reverse_eq_nil_iff.mp hnil))
    (fun name hname => (hall name hname).no_slash), hnames _ _ hall, List.reverse_reverse,
    List.append_nil]

theorem cwdPath_ne_empty (place : Place) : cwdPath place ≠ "" := by
  intro he
  exact absurd (String.append_eq_empty_iff.mp he).1 (by decide)

theorem hasNul_cwdPath {place : Place} (h : Named place) : hasNul (cwdPath place) = false := by
  rw [hasNul_eq_false_iff]
  refine over_append.mpr ⟨hasNul_eq_false_iff.mp (by decide), over_intercalate (by decide) (fun name hname => ?_)⟩
  exact hasNul_eq_false_iff.mp (h name (List.mem_reverse.mp hname)).2

theorem hasNul_join_of_forall {parts : List String} (h : ∀ part ∈ parts, hasNul part = false) :
    hasNul (join parts) = false := by
  rw [hasNul_eq_false_iff]
  exact over_join (by decide) (by decide) (fun part hpart => hasNul_eq_false_iff.mp (h part hpart))

/-! ## What a program reaches -/

/-- Outside of `touched` every place has the text it had, and the directories are there still. -/
structure Framed (touched : Set Place) (fs after : FileSystem) : Prop where
  cwd : after.cwd = fs.cwd
  text : ∀ place, place ∉ touched → after.text place = fs.text place
  dir : ∀ place, fs.node place = some .dir → after.node place = some .dir

/-- A program that runs in `cwd` changes nothing outside of `touched`. -/
def Within {α : Type} (cwd : Place) (touched : Set Place) (program : Fs α) : Prop :=
  ∀ fs, fs.cwd = cwd → Framed touched fs (left (program fs))

section Framed
variable {touched more : Set Place} {fs between after : FileSystem}

theorem Framed.refl (touched : Set Place) (fs : FileSystem) : Framed touched fs fs :=
  ⟨rfl, fun _ _ => rfl, fun _ h => h⟩

theorem Framed.trans (h : Framed touched fs between) (h' : Framed touched between after) :
    Framed touched fs after where
  cwd := h'.cwd.trans h.cwd
  text := fun place hp => (h'.text place hp).trans (h.text place hp)
  dir := fun place hdir => h'.dir place (h.dir place hdir)

theorem Framed.mono (h : Framed touched fs after) (hsub : touched ⊆ more) : Framed more fs after where
  cwd := h.cwd
  text := fun place hp => h.text place (fun hmem => hp (hsub hmem))
  dir := h.dir

/-- Nothing goes away. -/
theorem Wrote.node_ne_none {writes : List (Place × String)} (h : Wrote fs writes after) {place : Place}
    (hnode : fs.node place ≠ none) : after.node place ≠ none := by
  cases hold : fs.node place with
  | none => exact absurd hold hnode
  | some node =>
      cases node with
      | dir =>
          rw [h.dir place hold]
          exact Option.some_ne_none _
      | file text =>
          intro hnone
          have htext : after.text place = none := by rw [FileSystem.text, hnone]
          have hbefore : fs.text place = some text := FileSystem.text_eq_some_iff.mpr hold
          rw [h.text, hbefore] at htext
          cases hlookup : writes.reverse.lookup place <;> rw [hlookup] at htext <;> cases htext

theorem Wrote.framed {writes : List (Place × String)} (h : Wrote fs writes after) :
    Framed {place | place ∈ writes.map Prod.fst} fs after where
  cwd := h.cwd
  text := fun _ hp => h.text_of_not_mem hp
  dir := h.dir

/-- Outside of `own` every place is as it was, and the directories are there still. -/
structure Spares (own : Set Place) (fs after : FileSystem) : Prop where
  cwd : after.cwd = fs.cwd
  node : ∀ place, place ∉ own → after.node place = fs.node place
  dir : ∀ place, fs.node place = some .dir → after.node place = some .dir

theorem Spares.refl (own : Set Place) (fs : FileSystem) : Spares own fs fs :=
  ⟨rfl, fun _ _ => rfl, fun _ h => h⟩

theorem Spares.framed (h : Spares touched fs after) : Framed touched fs after where
  cwd := h.cwd
  text := fun place hplace => by rw [FileSystem.text, FileSystem.text, h.node place hplace]
  dir := h.dir

end Framed

section Within
variable {α β : Type} {cwd : Place} {touched more : Set Place} {program : Fs α} {next : α → Fs β}

theorem Within.mono (h : Within cwd touched program) (hsub : touched ⊆ more) :
    Within cwd more program :=
  fun fs hcwd => (h fs hcwd).mono hsub

theorem Within.framed_of_ok (h : Within cwd touched program) {fs after : FileSystem} {a : α}
    (hcwd : fs.cwd = cwd) (hrun : program fs = .ok a after) : Framed touched fs after := by
  have hframed := h fs hcwd
  rw [hrun] at hframed
  exact hframed

/-- A program that leaves every tree as it is. -/
theorem within_of_left_eq (h : ∀ fs, left (program fs) = fs) : Within cwd touched program := by
  intro fs _
  rw [h]
  exact Framed.refl touched fs

theorem within_pure (a : α) : Within cwd touched (pure a : Fs α) := within_of_left_eq (fun _ => rfl)

theorem within_orThrow (result : Except JsError α) : Within cwd touched (orThrow result) := by
  apply within_of_left_eq
  intro fs
  cases result <;> rfl

theorem within_existsSync (path : String) : Within cwd touched (existsSync path) :=
  within_of_left_eq (fun _ => rfl)

theorem within_readFileSync (path : String) : Within cwd touched (readFileSync path) := by
  apply within_of_left_eq
  intro fs
  rw [readFileSync]
  split
  · rfl
  · split <;> rfl

theorem within_readdirSync (listing : Listing) (path : String) :
    Within cwd touched (readdirSync listing path) := by
  apply within_of_left_eq
  intro fs
  rw [readdirSync]
  split
  · rfl
  · split <;> rfl

theorem within_mkdirSync (path : String) : Within cwd touched (mkdirSync path) := by
  intro fs _
  rcases mkdirSync_cases path fs with ⟨e, he⟩ | ⟨_, after, hok, hwrote⟩
  · rw [he]
    exact Framed.refl touched fs
  · rw [hok]
    exact hwrote.framed.mono (fun _ h => absurd h List.not_mem_nil)

theorem within_writeFileSync {path text : String} (h : resolve cwd path ∈ touched) :
    Within cwd touched (writeFileSync path text) := by
  intro fs hcwd
  rcases writeFileSync_cases path text fs with ⟨e, he⟩ | ⟨_, after, hok, hwrote⟩
  · rw [he]
    exact Framed.refl touched fs
  · rw [hok]
    refine hwrote.framed.mono (fun place hmem => ?_)
    obtain rfl := List.mem_singleton.mp hmem
    rw [hcwd]
    exact h

theorem within_bind (h : Within cwd touched program) (hnext : ∀ a, Within cwd touched (next a)) :
    Within cwd touched (program >>= next) := by
  intro fs hcwd
  have hfirst := h fs hcwd
  cases hrun : program fs with
  | error e between =>
      rw [run_bind_of_error hrun]
      rw [hrun] at hfirst
      exact hfirst
  | ok a between =>
      rw [run_bind_of_ok hrun]
      rw [hrun] at hfirst
      exact hfirst.trans (hnext a between (hfirst.cwd.trans hcwd))

/-- The rest of a program that asks for its directory is run with the path of it. -/
theorem within_processCwd_bind {next : String → Fs β} (h : Within cwd touched (next (cwdPath cwd))) :
    Within cwd touched (processCwd >>= next) := by
  intro fs hcwd
  have hrun : (processCwd >>= next) fs = next (cwdPath fs.cwd) fs := run_bind_of_ok rfl
  rw [hrun, hcwd]
  exact h fs hcwd

theorem within_ite {condition : Prop} [Decidable condition] {other : Fs α}
    (h : Within cwd touched program) (hother : Within cwd touched other) :
    Within cwd touched (if condition then program else other) := by
  split
  · exact h
  · exact hother

theorem within_mapM {items : List β} {step : β → Fs α}
    (h : ∀ b ∈ items, Within cwd touched (step b)) : Within cwd touched (items.mapM step) := by
  induction items with
  | nil =>
      rw [List.mapM_nil]
      exact within_pure []
  | cons b rest ih =>
      obtain ⟨hb, hrest⟩ := List.forall_mem_cons.mp h
      rw [List.mapM_cons]
      exact within_bind hb (fun _ => within_bind (ih hrest) (fun _ => within_pure _))

/-- The last step of a loop runs in the tree that the others leave. -/
theorem run_mapM_concat_eq_ok {items : List β} {last : β} {step : β → Fs α} {fs after : FileSystem}
    {as : List α} : (items ++ [last]).mapM step fs = .ok as after ↔
      ∃ firsts between a, items.mapM step fs = .ok firsts between ∧ step last between = .ok a after ∧
        as = firsts ++ [a] := by
  rw [List.mapM_append, run_bind_eq_ok]
  constructor
  · intro h
    obtain ⟨firsts, between, hfirsts, hrest⟩ := h
    obtain ⟨single, ended, hsingle, hpure⟩ := run_bind_eq_ok.mp hrest
    obtain ⟨rfl, rfl⟩ := pure_eq_ok.mp hpure
    rw [List.mapM_cons, List.mapM_nil] at hsingle
    obtain ⟨a, same, ha, hcons⟩ := run_bind_eq_ok.mp hsingle
    obtain ⟨rfl, rfl⟩ := pure_eq_ok.mp hcons
    exact ⟨firsts, between, a, hfirsts, ha, rfl⟩
  · intro h
    obtain ⟨firsts, between, a, hfirsts, ha, rfl⟩ := h
    refine ⟨firsts, between, hfirsts, run_bind_eq_ok.mpr ⟨[a], after, ?_, rfl⟩⟩
    rw [List.mapM_cons, List.mapM_nil]
    exact run_bind_eq_ok.mpr ⟨a, after, ha, rfl⟩

/-- A loop has results of which every step tells, in one directory. -/
theorem forall₂_of_mapM {items : List β} {step : β → Fs α} {R : β → α → Prop}
    (hwithin : ∀ b ∈ items, Within cwd touched (step b))
    (hstep : ∀ b ∈ items, ∀ (fs : FileSystem) a after, fs.cwd = cwd → step b fs = .ok a after → R b a)
    {fs after : FileSystem} {as : List α} (hcwd : fs.cwd = cwd)
    (h : items.mapM step fs = .ok as after) : List.Forall₂ R items as := by
  induction items generalizing fs as with
  | nil =>
      rw [List.mapM_nil] at h
      obtain ⟨rfl, _⟩ := pure_eq_ok.mp h
      exact List.Forall₂.nil
  | cons b rest ih =>
      obtain ⟨hb, hrest⟩ := List.forall_mem_cons.mp hwithin
      obtain ⟨hfirst, hothers⟩ := List.forall_mem_cons.mp hstep
      rw [List.mapM_cons] at h
      obtain ⟨first, between, hrun, hmore⟩ := run_bind_eq_ok.mp h
      obtain ⟨others, last, hloop, hpure⟩ := run_bind_eq_ok.mp hmore
      obtain ⟨rfl, rfl⟩ := pure_eq_ok.mp hpure
      have hbetween := (hb.framed_of_ok hcwd hrun).cwd.trans hcwd
      exact List.Forall₂.cons (hfirst fs first between hcwd hrun)
        (ih hrest hothers hbetween hloop)

end Within

/-! ## Runs of programs -/

section RunAll
variable {ι α : Type} {program : ι → Fs α} {touched : ι → Set Place} {cwd : Place}

/-- The tree that programs leave one after another, each whether it returns or throws. -/
def runAll (program : ι → Fs α) (commands : List ι) (fs : FileSystem) : FileSystem :=
  commands.foldl (fun fs c => left (program c fs)) fs

theorem runAll_append (first second : List ι) (fs : FileSystem) :
    runAll program (first ++ second) fs = runAll program second (runAll program first fs) :=
  List.foldl_append

/-- A run reaches what its programs reach. -/
theorem framed_runAll {commands : List ι}
    (h : ∀ c ∈ commands, Within cwd (touched c) (program c)) {fs : FileSystem} (hcwd : fs.cwd = cwd) :
    Framed (⋃ c ∈ commands, touched c) fs (runAll program commands fs) := by
  induction commands generalizing fs with
  | nil => exact Framed.refl _ fs
  | cons c rest ih =>
      obtain ⟨hc, hrest⟩ := List.forall_mem_cons.mp h
      have hfirst := hc fs hcwd
      have hmore := ih hrest (hfirst.cwd.trans hcwd)
      apply Framed.trans (hfirst.mono _) (hmore.mono _)
      · exact Set.subset_biUnion_of_mem (u := touched) List.mem_cons_self
      · exact Set.biUnion_subset_biUnion_left (fun _ hmem => List.mem_cons_of_mem c hmem)

/-- What no later program reaches stays as a run has left it. -/
theorem text_runAll_append {first second : List ι}
    (h : ∀ c ∈ first ++ second, Within cwd (touched c) (program c)) {fs : FileSystem}
    (hcwd : fs.cwd = cwd) {place : Place} (hplace : ∀ c ∈ second, place ∉ touched c) :
    (runAll program (first ++ second) fs).text place = (runAll program first fs).text place := by
  rw [List.forall_mem_append] at h
  have hfirst := framed_runAll h.1 hcwd
  have hsecond := framed_runAll h.2 (hfirst.cwd.trans hcwd)
  rw [runAll_append]
  apply hsecond.text
  intro hmem
  obtain ⟨c, hc, hreach⟩ := Set.mem_iUnion₂.mp hmem
  exact hplace c hc hreach

end RunAll

end Admissorium.Files
