import Admissorium.Files.Programs

/-!
# Programs that come to their end

A program that is started in a tree of some kind comes to its end exactly if something holds that
does not depend on the tree, and then leaves a tree of that kind. What a program needs can so be
told of one tree, the first; the rules follow the program.
-/
namespace Admissorium.Files
set_option autoImplicit false

open JavaScript

structure Ends {α : Type} (kept : FileSystem → Prop) (program : Fs α) (needs : Prop) : Prop where
  iff : ∀ fs, kept fs → ((∃ a after, program fs = .ok a after) ↔ needs)
  keeps : ∀ fs a after, kept fs → program fs = .ok a after → kept after

section Ends
variable {α β : Type} {kept : FileSystem → Prop} {program : Fs α} {next : α → Fs β}
  {needs more : Prop}

theorem Ends.congr (h : Ends kept program needs) (hiff : needs ↔ more) : Ends kept program more where
  iff := fun fs hfs => (h.iff fs hfs).trans hiff
  keeps := h.keeps

theorem ends_pure (a : α) : Ends kept (pure a : Fs α) True where
  iff := fun fs _ => iff_true_intro ⟨a, fs, rfl⟩
  keeps := by
    intro fs b after hfs hrun
    obtain ⟨_, rfl⟩ := pure_eq_ok.mp hrun
    exact hfs

/-- The rest of a program may rely on what the first part has needed. -/
theorem Ends.bind_of_needs (h : Ends kept program needs)
    (hnext : needs → ∀ a, Ends kept (next a) more) :
    Ends kept (program >>= next) (needs ∧ more) where
  iff := by
    intro fs hfs
    constructor
    · intro hends
      obtain ⟨b, after, hrun⟩ := hends
      obtain ⟨a, between, hfirst, hrest⟩ := run_bind_eq_ok.mp hrun
      have hneeds := (h.iff fs hfs).mp ⟨a, between, hfirst⟩
      have hbetween := h.keeps fs a between hfs hfirst
      exact ⟨hneeds, ((hnext hneeds a).iff between hbetween).mp ⟨b, after, hrest⟩⟩
    · intro hboth
      obtain ⟨hneeds, hmore⟩ := hboth
      obtain ⟨a, between, hfirst⟩ := (h.iff fs hfs).mpr hneeds
      have hbetween := h.keeps fs a between hfs hfirst
      obtain ⟨b, after, hrest⟩ := ((hnext hneeds a).iff between hbetween).mpr hmore
      exact ⟨b, after, run_bind_eq_ok.mpr ⟨a, between, hfirst, hrest⟩⟩
  keeps := by
    intro fs b after hfs hrun
    obtain ⟨a, between, hfirst, hrest⟩ := run_bind_eq_ok.mp hrun
    have hneeds := (h.iff fs hfs).mp ⟨a, between, hfirst⟩
    exact (hnext hneeds a).keeps between b after (h.keeps fs a between hfs hfirst) hrest

/-- Two programs one after another need what each of them needs. -/
theorem Ends.bind (h : Ends kept program needs) (hnext : ∀ a, Ends kept (next a) more) :
    Ends kept (program >>= next) (needs ∧ more) :=
  h.bind_of_needs (fun _ => hnext)

theorem Ends.bind_pure (h : Ends kept program needs) (f : α → β) :
    Ends kept (program >>= fun a => pure (f a)) needs :=
  (h.bind (fun a => ends_pure (f a))).congr (and_iff_left trivial)

/-- A loop needs what each of its steps needs. -/
theorem ends_mapM {items : List β} {step : β → Fs α} {need : β → Prop}
    (h : ∀ b ∈ items, Ends kept (step b) (need b)) :
    Ends kept (items.mapM step) (∀ b ∈ items, need b) := by
  induction items with
  | nil =>
      rw [List.mapM_nil]
      exact (ends_pure []).congr (iff_of_true trivial (List.forall_mem_nil _))
  | cons b rest ih =>
      obtain ⟨hb, hrest⟩ := List.forall_mem_cons.mp h
      rw [List.mapM_cons, List.forall_mem_cons]
      exact hb.bind (fun _ => (ih hrest).bind_pure _)

/-- A program that only looks needs what it needs in every tree of the kind. -/
theorem ends_of_looks (hlooks : Looks program)
    (h : ∀ fs, kept fs → ((∃ a, program fs = .ok a fs) ↔ needs)) : Ends kept program needs where
  iff := by
    intro fs hfs
    refine ⟨fun hends => ?_, fun hneeds => ?_⟩
    · obtain ⟨a, after, hrun⟩ := hends
      obtain rfl := hlooks _ _ _ hrun
      exact (h after hfs).mp ⟨a, hrun⟩
    · obtain ⟨a, hrun⟩ := (h fs hfs).mpr hneeds
      exact ⟨a, fs, hrun⟩
  keeps := by
    intro fs a after hfs hrun
    obtain rfl := hlooks _ _ _ hrun
    exact hfs

/-- The rest of a program that asks for its directory, in trees with one directory. -/
theorem ends_processCwd_bind {cwd : Place} {next : String → Fs β}
    (hcwd : ∀ fs, kept fs → fs.cwd = cwd) (h : Ends kept (next (cwdPath cwd)) needs) :
    Ends kept (processCwd >>= next) needs := by
  have hrun : ∀ fs, kept fs → (processCwd >>= next) fs = next (cwdPath cwd) fs := by
    intro fs hfs
    rw [← hcwd fs hfs]
    exact run_bind_of_ok rfl
  constructor
  · intro fs hfs
    rw [hrun fs hfs]
    exact h.iff fs hfs
  · intro fs b after hfs
    rw [hrun fs hfs]
    exact h.keeps fs b after hfs

end Ends

end Admissorium.Files
