import Mathlib.Algebra.BigOperators.Group.List.Basic
import Mathlib.Algebra.Ring.Nat

/-!
# Runs of a machine

A deterministic machine that takes one event after the other.

* `invariant_iff`: when a property of the states fails only at events of one kind, a run has it in
  every state if and only if no event of the run is of that kind.
* `total_le`: what the events of a run cost is at most what they allow, when a potential of the states
  makes up for the difference at every event.
* `exists_end`: a run of events that lower a measure comes to an end.
-/

namespace Runs

variable {σ ε : Type} (step : σ → ε → σ)

/-- `Q` holds of every event of a run, in the state where it happens. -/
def Throughout (Q : σ → ε → Prop) : σ → List ε → Prop
  | _, [] => True
  | s, e :: events => Q s e ∧ Throughout Q (step s e) events

instance Throughout.decidable (Q : σ → ε → Prop) [∀ s e, Decidable (Q s e)] (s : σ)
    (events : List ε) : Decidable (Throughout step Q s events) :=
  match events with
  | [] => .isTrue trivial
  | e :: rest =>
    haveI := Throughout.decidable Q (step s e) rest
    inferInstanceAs (Decidable (_ ∧ _))

variable {step}

lemma Throughout.of_forall {Q : σ → ε → Prop} {s : σ} (events : List ε) (all : ∀ s e, Q s e) :
    Throughout step Q s events := by
  induction events generalizing s with
  | nil => trivial
  | cons e events ih => exact ⟨all s e, ih⟩

/-- `P` holds in every state of a run if and only if `Q` holds of every event, given an invariant `I`
    that implies `P`, and that the events with `Q` keep, and that `P` on both sides of an event
    implies `Q`. All of this under a condition `R` on every event. -/
theorem invariant_iff {I P : σ → Prop} {Q R : σ → ε → Prop} (holds : ∀ s, I s → P s)
    (keeps : ∀ s e, I s → R s e → Q s e → I (step s e))
    (only : ∀ s e, P s → P (step s e) → Q s e) {s : σ} (initial : I s) {events : List ε}
    (through : Throughout step R s events) :
    (∀ earlier, earlier <+: events → P (earlier.foldl step s)) ↔ Throughout step Q s events := by
  induction events generalizing s with
  | nil =>
    refine ⟨fun _ => trivial, fun _ earlier pre => ?_⟩
    rw [List.prefix_nil.mp pre]
    exact holds s initial
  | cons e events ih =>
    constructor
    · intro always
      have now : P s := always [] List.nil_prefix
      have next : P (step s e) := always [e] ⟨events, rfl⟩
      have q : Q s e := only s e now next
      refine ⟨q, (ih (keeps s e initial through.1 q) through.2).mp fun earlier pre => ?_⟩
      exact always (e :: earlier) (List.cons_prefix_cons.mpr ⟨rfl, pre⟩)
    · intro q earlier pre
      cases earlier with
      | nil => exact holds s initial
      | cons e' earlier =>
        obtain ⟨rfl, rest⟩ := List.cons_prefix_cons.mp pre
        exact (ih (keeps s e' initial through.1 q.1) through.2).mpr q.2 earlier rest

lemma Throughout.append {Q : σ → ε → Prop} {s : σ} {events more : List ε}
    (through : Throughout step Q s events) (further : Throughout step Q (events.foldl step s) more) :
    Throughout step Q s (events ++ more) := by
  induction events generalizing s with
  | nil => exact further
  | cons e events ih => exact ⟨through.1, ih through.2 further⟩

/-! ## Potentials -/

variable (step) in
/-- The sum of what the events of a run cost, each in the state where it happens. -/
def total (cost : σ → ε → Nat) : σ → List ε → Nat
  | _, [] => 0
  | s, e :: events => cost s e + total cost (step s e) events

variable {I : σ → Prop} {Q : σ → ε → Prop} {cost : σ → ε → Nat} {allowance : ε → Nat}
  {potential : σ → Nat} {s : σ}

lemma total_mul (n : Nat) (events : List ε) :
    total step (fun s e => n * cost s e) s events = n * total step cost s events := by
  induction events generalizing s with
  | nil => rfl
  | cons e events ih => rw [total, total, ih, Nat.mul_add]

/-- The cost of a run whose events have `Q`, which keep the invariant `I` and whose cost is within what
    they allow and what they take from the potential. -/
theorem total_le (keeps : ∀ s e, I s → Q s e → I (step s e))
    (within : ∀ s e, I s → Q s e →
      cost s e + potential (step s e) ≤ potential s + allowance e)
    (initial : I s) {events : List ε} (through : Throughout step Q s events) :
    total step cost s events + potential (events.foldl step s) ≤
      potential s + (events.map allowance).sum := by
  induction events generalizing s with
  | nil => simp [total]
  | cons e events ih =>
    have now := within s e initial through.1
    have later := ih (keeps s e initial through.1) through.2
    rw [total, List.foldl_cons, List.map_cons, List.sum_cons]
    omega

lemma Throughout.keeps (keeps : ∀ s e, I s → Q s e → I (step s e)) (initial : I s)
    {events : List ε} (through : Throughout step Q s events) : I (events.foldl step s) := by
  induction events generalizing s with
  | nil => exact initial
  | cons e events ih => exact ih (keeps s e initial through.1) through.2

/-- A run of events that lower a measure is no longer than the measure. -/
lemma length_le (keeps : ∀ s e, I s → Q s e → I (step s e))
    (lower : ∀ s e, I s → Q s e → potential (step s e) < potential s) (initial : I s)
    {events : List ε} (through : Throughout step Q s events) :
    events.length + potential (events.foldl step s) ≤ potential s := by
  induction events generalizing s with
  | nil => simp
  | cons e events ih =>
    have now := lower s e initial through.1
    have later := ih (keeps s e initial through.1) through.2
    rw [List.length_cons, List.foldl_cons]
    omega

/-- It comes to an end, where there is no such event. -/
theorem exists_end (keeps : ∀ s e, I s → Q s e → I (step s e))
    (lower : ∀ s e, I s → Q s e → potential (step s e) < potential s) (initial : I s) :
    ∃ events, Throughout step Q s events ∧ ∀ e, ¬ Q (events.foldl step s) e := by
  induction h : potential s using Nat.strongRecOn generalizing s with
  | ind n ih =>
    by_cases more : ∃ e, Q s e
    · obtain ⟨e, q⟩ := more
      obtain ⟨events, through, stuck⟩ :=
        ih _ (h ▸ lower s e initial q) (keeps s e initial q) rfl
      exact ⟨e :: events, ⟨q, through⟩, stuck⟩
    · exact ⟨[], trivial, fun e q => more ⟨e, q⟩⟩

end Runs
