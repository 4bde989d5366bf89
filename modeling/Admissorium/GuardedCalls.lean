import Mathlib.Data.List.Basic

/-!
# Guarded calls

A call that reaches outside is put behind gates. The request is prepared first,
which may fail; the first closed gate ends the run with its own outcome, and only
if every gate is open is the client asked. A run records the requests sent. So a
request is sent exactly when it was prepared and every gate was open, and it is
sent once (`calls_eq_iff`); closing one gate silences the client whatever the
others do (`calls_eq_nil_iff`).
-/
namespace Admissorium.Guarded
set_option autoImplicit false

/-- A condition under which the call is not made, and what the caller gets instead. -/
structure Gate (α : Type) where
  closed : Bool
  outcome : α

/-- The requests sent, in order, and how the run ended. -/
structure Run (ε ρ α : Type) where
  calls : List ρ
  outcome : Except ε α

section

variable {ε ρ σ α : Type}

def guardedCall (prepared : Except ε ρ) (gates : ρ → List (Gate α)) (client : ρ → Except ε σ)
    (finish : ρ → σ → α) : Run ε ρ α :=
  match prepared with
  | .error e => ⟨[], .error e⟩
  | .ok request =>
      match (gates request).find? Gate.closed with
      | some gate => ⟨[], .ok gate.outcome⟩
      | none =>
          match client request with
          | .error e => ⟨[request], .error e⟩
          | .ok result => ⟨[request], .ok (finish request result)⟩

variable (prepared : Except ε ρ) (gates : ρ → List (Gate α)) (client : ρ → Except ε σ)
  (finish : ρ → σ → α)

/-- Every gate stands open for the request. -/
def Open (request : ρ) : Prop := ∀ gate ∈ gates request, gate.closed = false

theorem find?_closed_eq_none_iff (request : ρ) :
    (gates request).find? Gate.closed = none ↔ Open gates request := by
  rw [List.find?_eq_none]
  simp only [Bool.not_eq_true]
  exact Iff.rfl

theorem calls_eq_iff (request : ρ) :
    request ∈ (guardedCall prepared gates client finish).calls ↔
      prepared = .ok request ∧ Open gates request := by
  cases prepared with
  | error e => simp [guardedCall]
  | ok prepared =>
      rw [← find?_closed_eq_none_iff, Except.ok.injEq]
      cases hg : (gates prepared).find? Gate.closed with
      | some gate =>
          have hcalls : (guardedCall (.ok prepared) gates client finish).calls = [] := by
            simp only [guardedCall, hg]
          rw [hcalls]
          simp only [List.not_mem_nil, false_iff, not_and]
          rintro rfl
          simp [hg]
      | none =>
          have hcalls : (guardedCall (.ok prepared) gates client finish).calls = [prepared] := by
            simp only [guardedCall, hg]
            cases client prepared <;> rfl
          rw [hcalls, List.mem_singleton]
          constructor
          · rintro rfl
            exact ⟨rfl, hg⟩
          · exact fun h => h.1.symm

/-- The client is silent exactly when no request was prepared or some gate is closed. -/
theorem calls_eq_nil_iff :
    (guardedCall prepared gates client finish).calls = [] ↔
      ∀ request, prepared = .ok request → ¬ Open gates request := by
  rw [List.eq_nil_iff_forall_not_mem]
  simp only [calls_eq_iff, not_and]

end

end Admissorium.Guarded
