import Mathlib.Tactic.Common

/-!
# Runs without what an observer does not see

A deterministic machine that takes one event after the other and gives an output for each. An
observer sees some of the events, with their outputs. A relation between states is an unwinding
(`Unwinds`) when the events that are seen have the same outputs in related states, and lead to related
states, and the others do not lead out of it.

`Unwinds.purge`: the observer sees the same in a run and in the run without the other events.
-/

namespace Purge

variable {σ ε ω : Type} (step : σ → ε → σ × ω)

/-- The events of a run with their outputs. -/
def trace : σ → List ε → List (ε × ω)
  | _, [] => []
  | s, e :: events => (e, (step s e).2) :: trace (step s e).1 events

/-- The state after a run. -/
def final (s : σ) (events : List ε) : σ := events.foldl (fun s e => (step s e).1) s

variable {step}

/-- An output is what the machine gave for its event in some state. -/
lemma exists_of_mem_trace {s : σ} {events : List ε} {x : ε × ω} (mem : x ∈ trace step s events) :
    ∃ s', (step s' x.1).2 = x.2 := by
  induction events generalizing s with
  | nil => cases mem
  | cons e events ih =>
    rcases List.mem_cons.mp mem with rfl | mem
    · exact ⟨s, rfl⟩
    · exact ih mem

/-- States that are related look the same to an observer, now and later. -/
structure Unwinds (step : σ → ε → σ × ω) (sees : ε → Bool) (R : σ → σ → Prop) : Prop where
  seen : ∀ s t e, sees e = true → R s t →
    (step s e).2 = (step t e).2 ∧ R (step s e).1 (step t e).1
  unseen : ∀ s t e, sees e = false → R s t → R (step s e).1 t

namespace Unwinds

variable {sees : ε → Bool} {R : σ → σ → Prop} {s t : σ}

/-- The observer sees the same without the events that it does not see. -/
theorem purge (U : Unwinds step sees R) (related : R s t) (events : List ε) :
    (trace step s events).filter (fun x => sees x.1) = trace step t (events.filter sees) ∧
    R (final step s events) (final step t (events.filter sees)) := by
  induction events generalizing s t with
  | nil => exact ⟨rfl, related⟩
  | cons e events ih =>
    cases see : sees e with
    | true =>
      obtain ⟨same, next⟩ := U.seen s t e see related
      obtain ⟨trace_eq, rel⟩ := ih next
      have kept : (e :: events).filter sees = e :: events.filter sees := List.filter_cons_of_pos see
      refine ⟨?_, kept ▸ rel⟩
      rw [kept, trace, trace, ← trace_eq, ← same]
      exact List.filter_cons_of_pos (p := fun x : ε × ω => sees x.1) see
    | false =>
      obtain ⟨trace_eq, rel⟩ := ih (U.unseen s t e see related)
      have unseen : ¬ sees e = true := see ▸ Bool.false_ne_true
      have dropped : (e :: events).filter sees = events.filter sees := List.filter_cons_of_neg unseen
      refine ⟨?_, dropped ▸ rel⟩
      rw [dropped, trace, ← trace_eq]
      exact List.filter_cons_of_neg (p := fun x : ε × ω => sees x.1) unseen

end Unwinds

end Purge
