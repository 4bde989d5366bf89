import Admissorium.Firewall.ProtectedTruth

/-!
# Two glob guards

The firewall and `app/permissions` each ask with a glob compiler of its own whether a
change touches a protected path. On patterns without `?` and without a placeholder they
are exact and agree on every list of paths, unless a pattern has a start of a placeholder
before `**` (`interchangeable_iff`).
-/
namespace Admissorium.Firewall.GlobGuards
set_option autoImplicit false

open JavaScript RegExp Glob GlobEngines Policies App.Permissions Firewall.ProtectedTruth

/-- The path belongs to the glob's language. -/
def Matches (glob path : String) : Prop := Denotes (pieces glob.toList) path.toList

/-- Both compilers accept, of the paths on one line, those of the glob's language. -/
structure Exact (glob : String) : Prop where
  firewall : ∃ r, Firewall.globToRegExp glob = .ok r ∧
    ∀ path : String, OneLine path.toList → (r.test path = true ↔ Matches glob path)
  permissions : ∃ r, Permissions.globToRegExp glob = .ok r ∧
    ∀ path : String, OneLine path.toList → (r.test path = true ↔ Matches glob path)

/-- The firewall with these patterns, and `app/permissions` with any classes that list them,
both come to an answer on the paths, and to the same one. -/
def GuardsAgree (patterns paths : List String) : Prop :=
  ∀ (rt : Runtime) (ifTouched : IfTouched) (policy : ProtectedPathsPolicy),
    (withProtectedPathDefaults policy).protected_classes.flatMap (·.paths) = patterns →
    ∃ e d, evaluateProtectedTruthPaths rt (paths.map .str) ⟨some patterns, some ifTouched⟩ = .ok e ∧
      protectedPathDecision paths policy = .ok d ∧
      e.protected_truth_touched = d.protectedPathTouched

/-- The compilers are exact on the patterns, and the guards agree on every list of them. -/
structure Interchangeable (patterns : List String) : Prop where
  exact : ∀ glob ∈ patterns, Exact glob
  agree : ∀ listed : List String, (∀ glob ∈ listed, glob ∈ patterns) →
    ∀ paths, GuardsAgree listed paths

/-- No start of a placeholder stands before `**`. -/
def Undisturbed (glob : String) : Prop :=
  Text.includes glob "§DOUBLESTAR**" = false ∧
  Text.includes glob "__DOUBLE_STAR**" = false ∧
  Text.includes glob "__DOUBLE_STAR_**" = false

/-! ## What the guards answer -/

section Answers

variable {patterns : List String} {f : String → SourceRegExp}

/-- Some path is accepted by what some pattern is compiled to. -/
def Touched (f : String → SourceRegExp) (patterns paths : List String) : Prop :=
  ∃ path ∈ paths, ∃ glob ∈ patterns, (f glob).test path = true

theorem patternMatches_eq (rt : Runtime) {glob path : String} {r : SourceRegExp}
    (h : Firewall.globToRegExp glob = .ok r) :
    patternMatches rt (.str path) glob = .ok (r.test path) := by
  rw [patternMatches, h]
  rfl

/-- Where every pattern compiles, the firewall answers whether a path is touched. -/
theorem exists_evaluate (rt : Runtime) (ifTouched : IfTouched) (paths : List String)
    (hf : ∀ glob ∈ patterns, Firewall.globToRegExp glob = .ok (f glob)) :
    ∃ e, evaluateProtectedTruthPaths rt (paths.map .str) ⟨some patterns, some ifTouched⟩ = .ok e ∧
      (e.protected_truth_touched = true ↔ Touched f patterns paths) := by
  have hreads : ∀ path ∈ paths.map Value.str, ∀ glob ∈ patterns,
      ∃ b, patternMatches rt path glob = .ok b := by
    intro path hpath glob hglob
    obtain ⟨text, _, rfl⟩ := List.mem_map.mp hpath
    exact ⟨_, patternMatches_eq rt (hf glob hglob)⟩
  obtain ⟨matched, hm⟩ := exists_collectMatches hreads
  have hnone : matched = [] ↔ ¬ Touched f patterns paths := by
    rw [collectMatches_ok hm, List.forall_mem_map]
    simp only [Touched, not_exists, not_and, Bool.not_eq_true]
    refine forall₂_congr fun path _ => forall₂_congr fun glob hglob => ?_
    rw [patternMatches_eq rt (hf glob hglob), Except.ok.injEq]
  have hrun : evaluateProtectedTruthPaths rt (paths.map .str) ⟨some patterns, some ifTouched⟩ =
      (collectMatches rt patterns (paths.map .str) >>= _) := rfl
  rw [hrun, hm]
  cases matched with
  | nil => exact ⟨_, rfl, by simpa using hnone⟩
  | cons m ms => exact ⟨_, rfl, by simpa using hnone⟩

/-- So does `app/permissions`. -/
theorem exists_decision (policy : ProtectedPathsPolicy) (paths : List String)
    (hf : ∀ glob ∈ (withProtectedPathDefaults policy).protected_classes.flatMap (·.paths),
      Permissions.globToRegExp glob = .ok (f glob)) :
    ∃ d, protectedPathDecision paths policy = .ok d ∧
      (d.protectedPathTouched = true ↔ Touched f
        ((withProtectedPathDefaults policy).protected_classes.flatMap (·.paths)) paths) := by
  have hglob : ∀ path, ∀ entry ∈ (withProtectedPathDefaults policy).protected_classes,
      someGlobMatches entry.paths path = .ok (entry.paths.any fun glob => (f glob).test path) := by
    intro path entry hentry
    apply anyM_eq_ok
    intro glob hglob
    rw [hf glob (List.mem_flatMap.mpr ⟨entry, hentry, hglob⟩)]
    rfl
  have hclass : ∀ path ∈ paths, protectedPathClassFor path policy =
      .ok ((withProtectedPathDefaults policy).protected_classes.find? fun entry =>
        entry.paths.any fun glob => (f glob).test path) :=
    fun path _ => findM?_eq_ok (hglob path)
  rw [protectedPathDecision, findSomeM?_eq_ok hclass]
  have htouched : (paths.findSome? fun path =>
      (withProtectedPathDefaults policy).protected_classes.find? fun entry =>
        entry.paths.any fun glob => (f glob).test path).isSome = true ↔ Touched f
        ((withProtectedPathDefaults policy).protected_classes.flatMap (·.paths)) paths := by
    simp only [List.findSome?_isSome_iff, List.find?_isSome, List.any_eq_true, Touched,
      List.mem_flatMap]
    refine exists_congr fun path => and_congr_right fun _ => ?_
    constructor
    · intro h
      obtain ⟨entry, hentry, glob, hglob, ht⟩ := h
      exact ⟨glob, ⟨entry, hentry, hglob⟩, ht⟩
    · intro h
      obtain ⟨glob, ⟨entry, hentry, hglob⟩, ht⟩ := h
      exact ⟨entry, hentry, glob, hglob, ht⟩
  rw [← htouched]
  cases paths.findSome? fun path =>
      (withProtectedPathDefaults policy).protected_classes.find? fun entry =>
        entry.paths.any fun glob => (f glob).test path with
  | none => exact ⟨untouched, rfl, by simp [untouched]⟩
  | some matched => exact ⟨touched matched, rfl, by simp [touched]⟩

end Answers

/-! ## When the two are the same -/

/-- The placeholders of the two compilers do not stand in the glob. -/
def Tokenless (glob : String) : Prop :=
  Text.includes glob "§DOUBLESTAR§" = false ∧ Text.includes glob "__DOUBLE_STAR__" = false

section Same

variable {glob : String}

theorem exact_of_undisturbed (hq : '?' ∉ glob.toList) (htoken : Tokenless glob)
    (h : Undisturbed glob) : Exact glob := by
  have hmeans : ∀ path : String, OneLine path.toList →
      ((compiled (matcher glob)).test path = true ↔ Matches glob path) := by
    intro path hpath
    rw [matcher, test_compiled_pieces, test_anchored (plain_terms _), mem_lang_iff _ hpath]
    exact Iff.rfl
  exact ⟨⟨_, firewall_eq hq htoken.1 h.1, hmeans⟩,
    ⟨_, permissions_eq hq htoken.2 h.2.1 h.2.2, hmeans⟩⟩

/-- Guards that agree on one glob and each path have read the same characters. -/
theorem chars_eq_of_agree (hq : '?' ∉ glob.toList) (h : ∀ paths, GuardsAgree [glob] paths) :
    chars (reading Firewall.token glob) = chars (reading Permissions.token glob) := by
  apply chars_eq_of_test
  intro path
  have hfirewall : ∀ g ∈ [glob], Firewall.globToRegExp g =
      .ok (compiled ((reading Firewall.token g).map Piece.term)) := by
    intro g hg
    obtain rfl := List.mem_singleton.mp hg
    exact firewall_reading hq
  have hpermissions : ∀ g ∈ [glob], Permissions.globToRegExp g =
      .ok (compiled ((reading Permissions.token g).map Piece.term)) := by
    intro g hg
    obtain rfl := List.mem_singleton.mp hg
    exact permissions_reading hq
  let policy : ProtectedPathsPolicy := { protected_classes := some [{ paths := some [glob] }] }
  obtain ⟨e, d, he, hd, hsame⟩ := h [path] .ascii {} policy rfl
  obtain ⟨e', he', htouched⟩ := exists_evaluate .ascii {} [path] hfirewall
  obtain ⟨d', hd', htouched'⟩ := exists_decision policy [path] hpermissions
  rw [he] at he'
  rw [hd] at hd'
  cases he'
  cases hd'
  rw [hsame, htouched'] at htouched
  rw [← test_compiled_pieces, ← test_compiled_pieces]
  simpa [Touched, policy, withProtectedPathDefaults, normalizeProtectedClass] using htouched.symm

/-- A start of the one placeholder before `**` changes what the one compiler reads, and a
start of the other changes it at another character. -/
theorem undisturbed_of_chars_eq (htoken : Tokenless glob)
    (h : chars (reading Firewall.token glob) = chars (reading Permissions.token glob)) :
    Undisturbed glob := by
  have hfirewall : ∀ start ∈ starts Firewall.token.toList,
      Text.includes glob (String.ofList start ++ "**") = true →
      FirstDifference '§' 'D' (chars (pieces glob.toList)) (chars (reading Firewall.token glob)) :=
    fun start hstart => firstDifference_reading diverges_firewall (by decide) (by decide) htoken.1
      hstart
  have hpermissions : ∀ start ∈ starts Permissions.token.toList,
      Text.includes glob (String.ofList start ++ "**") = true →
      FirstDifference '_' 'D' (chars (pieces glob.toList)) (chars (reading Permissions.token glob)) :=
    fun start hstart => firstDifference_reading diverges_permissions (by decide) (by decide)
      htoken.2 hstart
  -- What disturbs only one of the chains leaves the other with the characters of the glob.
  have hfirewallFree : ∀ start ∈ starts Firewall.token.toList,
      Text.includes glob (String.ofList start ++ "**") = false := by
    intro start hstart
    by_contra hin
    have hdiffers := hfirewall start hstart (Bool.eq_true_of_not_eq_false hin)
    by_cases hother : ∀ other ∈ starts Permissions.token.toList,
        Text.includes glob (String.ofList other ++ "**") = false
    · rw [h, reading_eq Permissions.token (by decide) (by decide) htoken.2 hother] at hdiffers
      exact hdiffers.ne (by decide) rfl
    · simp only [not_forall, Bool.not_eq_false] at hother
      obtain ⟨other, hmem, hother⟩ := hother
      have hdiffers' := hpermissions other hmem hother
      exact hdiffers.ne_of_ne (by decide) (by decide) (by decide) hdiffers' h
  have hpermissionsFree : ∀ start ∈ starts Permissions.token.toList,
      Text.includes glob (String.ofList start ++ "**") = false := by
    intro start hstart
    by_contra hin
    have hdiffers := hpermissions start hstart (Bool.eq_true_of_not_eq_false hin)
    rw [← h, reading_eq Firewall.token (by decide) (by decide) htoken.1 hfirewallFree] at hdiffers
    exact hdiffers.ne (by decide) rfl
  rw [starts_firewall, List.forall_mem_singleton] at hfirewallFree
  rw [starts_permissions, List.forall_mem_cons, List.forall_mem_singleton] at hpermissionsFree
  exact ⟨hfirewallFree, hpermissionsFree.1, hpermissionsFree.2⟩

end Same

/-- On patterns without `?` and without a placeholder, the compilers are exact and the guards
interchangeable exactly when no pattern has a start of a placeholder before `**`. -/
theorem interchangeable_iff (patterns : List String)
    (hq : ∀ glob ∈ patterns, '?' ∉ glob.toList) (htoken : ∀ glob ∈ patterns, Tokenless glob) :
    Interchangeable patterns ↔ ∀ glob ∈ patterns, Undisturbed glob := by
  constructor
  · intro h glob hglob
    apply undisturbed_of_chars_eq (htoken glob hglob)
    apply chars_eq_of_agree (hq glob hglob)
    apply h.agree [glob]
    intro g hg
    obtain rfl := List.mem_singleton.mp hg
    exact hglob
  · intro h
    refine ⟨fun glob hglob => exact_of_undisturbed (hq glob hglob) (htoken glob hglob)
      (h glob hglob), ?_⟩
    intro listed hlisted paths rt ifTouched policy hpolicy
    have hfirewall : ∀ glob ∈ listed, Firewall.globToRegExp glob = .ok (compiled (matcher glob)) := by
      intro glob hglob
      have hmem := hlisted glob hglob
      exact firewall_eq (hq glob hmem) (htoken glob hmem).1 (h glob hmem).1
    have hpermissions : ∀ glob ∈ listed,
        Permissions.globToRegExp glob = .ok (compiled (matcher glob)) := by
      intro glob hglob
      have hmem := hlisted glob hglob
      exact permissions_eq (hq glob hmem) (htoken glob hmem).2 (h glob hmem).2.1 (h glob hmem).2.2
    rw [← hpolicy] at hpermissions
    obtain ⟨e, he, htouched⟩ := exists_evaluate rt ifTouched paths hfirewall
    obtain ⟨d, hd, htouched'⟩ := exists_decision policy paths hpermissions
    refine ⟨e, d, he, hd, ?_⟩
    rw [Bool.eq_iff_iff, htouched, htouched', hpolicy]

theorem interchangeable_iff_truthFamilies :
    Interchangeable ["law/**", ".github/workflows/*release*"] ↔
      ∀ glob ∈ ["law/**", ".github/workflows/*release*"], Undisturbed glob :=
  interchangeable_iff _ (by decide +kernel) (by unfold Tokenless; decide +kernel)

/-- The firewall compiles `§DOUBLESTAR**` to `^.*DOUBLESTAR§$`. -/
theorem doublestar_not_interchangeable : ¬ Interchangeable ["§DOUBLESTAR**"] := by
  intro h
  obtain ⟨r, hr, hexact⟩ := (h.exact "§DOUBLESTAR**" List.mem_cons_self).firewall
  rw [firewall_reading (by decide +kernel)] at hr
  cases hr
  have haccepts := (hexact "DOUBLESTAR§" (by unfold OneLine; decide +kernel)).mp (by decide +kernel)
  have hpieces : pieces "§DOUBLESTAR**".toList =
      .char '§' :: ("DOUBLESTAR".toList.map .char ++ [.globstar]) := by decide +kernel
  have hpath : "DOUBLESTAR§".toList = 'D' :: "OUBLESTAR§".toList := by decide
  rw [Matches, hpieces, hpath] at haccepts
  cases haccepts

end Admissorium.Firewall.GlobGuards
