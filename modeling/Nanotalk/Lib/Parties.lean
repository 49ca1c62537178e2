import Mathlib.Logic.Function.Basic

/-!
# Interleaved runs of parties

Any number of parties, each with its own state and its own deterministic steps, and a schedule that
says which party takes which event next. Parties do not share state: what one of them sends reaches
another only as an event of the schedule, so that the schedule is also the network and whoever
controls it.

* `run_apply`: the state of a party is that of its own run over its own events.
* `run_translate`: two descriptions of the same events have the same runs.
* `run_related`: what every step of a party respects, its whole run respects.
* `run_project`: parties that are made of others lead these through a run of their own.
* `run_induct`: an invariant of the parties together, under a condition on every event that is met in
  the state where it happens.
-/

namespace Parties

variable {ι ε σ : Type} [DecidableEq ι] (step : ι → σ → ε → σ)

/-- One party takes an event. -/
def act (parties : ι → σ) (e : ι × ε) : ι → σ :=
  Function.update parties e.1 (step e.1 (parties e.1) e.2)

/-- The parties after a schedule. -/
def run (parties : ι → σ) (schedule : List (ι × ε)) : ι → σ := schedule.foldl (act step) parties

/-- `Q` holds of every event of a schedule, in the state where it happens. -/
def Throughout (Q : (ι → σ) → ι → ε → Prop) : (ι → σ) → List (ι × ε) → Prop
  | _, [] => True
  | parties, e :: schedule => Q parties e.1 e.2 ∧ Throughout Q (act step parties e) schedule

instance Throughout.decidable (Q : (ι → σ) → ι → ε → Prop) [∀ p i e, Decidable (Q p i e)]
    (parties : ι → σ) (schedule : List (ι × ε)) : Decidable (Throughout step Q parties schedule) :=
  match schedule with
  | [] => .isTrue trivial
  | e :: rest =>
    haveI := Throughout.decidable Q (act step parties e) rest
    inferInstanceAs (Decidable (_ ∧ _))

variable {step} {parties : ι → σ}

lemma Throughout.of_mem {Q : ε → Prop} {schedule : List (ι × ε)} (all : ∀ e ∈ schedule, Q e.2) :
    Throughout step (fun _ _ e => Q e) parties schedule := by
  induction schedule generalizing parties with
  | nil => trivial
  | cons e schedule ih =>
    rw [List.forall_mem_cons] at all
    exact ⟨all.1, ih all.2⟩

lemma Throughout.mono {Q R : (ι → σ) → ι → ε → Prop} (imp : ∀ p i e, Q p i e → R p i e)
    {schedule : List (ι × ε)} (through : Throughout step Q parties schedule) :
    Throughout step R parties schedule := by
  induction schedule generalizing parties with
  | nil => trivial
  | cons e schedule ih => exact ⟨imp _ _ _ through.1, ih through.2⟩

lemma Throughout.and {Q R : (ι → σ) → ι → ε → Prop} {schedule : List (ι × ε)}
    (q : Throughout step Q parties schedule) (r : Throughout step R parties schedule) :
    Throughout step (fun p i e => Q p i e ∧ R p i e) parties schedule := by
  induction schedule generalizing parties with
  | nil => trivial
  | cons e schedule ih => exact ⟨⟨q.1, r.1⟩, ih q.2 r.2⟩

/-- What every step of a party keeps holds wherever an event happens. -/
lemma throughout_invariant {I : ι → σ → Prop} (keeps : ∀ i s e, I i s → I i (step i s e))
    (initial : ∀ i, I i (parties i)) (schedule : List (ι × ε)) :
    Throughout step (fun p _ _ => ∀ i, I i (p i)) parties schedule := by
  induction schedule generalizing parties with
  | nil => trivial
  | cons e schedule ih =>
    refine ⟨initial, ih fun i => ?_⟩
    rw [act, Function.update_apply]
    split
    · rename_i own
      subst own
      exact keeps _ _ _ (initial _)
    · exact initial i

/-- The state of a party is that of its own run over its own events. -/
theorem run_apply (schedule : List (ι × ε)) (i : ι) :
    run step parties schedule i =
      ((schedule.filter fun e => e.1 = i).map Prod.snd).foldl (step i) (parties i) := by
  induction schedule generalizing parties with
  | nil => rfl
  | cons e schedule ih =>
    rw [run, List.foldl_cons, ← run, ih]
    by_cases own : e.1 = i
    · subst own
      simp [act]
    · simp [act, own, Function.update_of_ne (Ne.symm own)]

section Translation

variable {ε' : Type} {step' : ι → σ → ε' → σ} (f : ε' → ε)

lemma act_translate {e : ι × ε'} (same : ∀ i s, step i s (f e.2) = step' i s e.2) :
    act step parties (e.1, f e.2) = act step' parties e := by
  rw [act, act, same]

/-- Two descriptions of the same events have the same runs. -/
theorem run_translate (schedule : List (ι × ε'))
    (same : ∀ e ∈ schedule, ∀ i s, step i s (f e.2) = step' i s e.2) :
    run step parties (schedule.map fun e => (e.1, f e.2)) = run step' parties schedule := by
  induction schedule generalizing parties with
  | nil => rfl
  | cons e schedule ih =>
    rw [List.forall_mem_cons] at same
    rw [List.map_cons, run, run, List.foldl_cons, List.foldl_cons, act_translate f same.1]
    exact ih same.2

/-- Two descriptions of the same events meet the same conditions. -/
theorem throughout_translate {Q : (ι → σ) → ι → ε → Prop} {Q' : (ι → σ) → ι → ε' → Prop}
    (schedule : List (ι × ε')) (same : ∀ e ∈ schedule, ∀ i s, step i s (f e.2) = step' i s e.2)
    (agree : ∀ e ∈ schedule, ∀ p i, Q p i (f e.2) ↔ Q' p i e.2) :
    Throughout step Q parties (schedule.map fun e => (e.1, f e.2)) ↔
      Throughout step' Q' parties schedule := by
  induction schedule generalizing parties with
  | nil => rfl
  | cons e schedule ih =>
    rw [List.forall_mem_cons] at same agree
    rw [List.map_cons, Throughout, Throughout, act_translate f same.1, ih same.2 agree.2, agree.1]

end Translation

/-- What every step of a party respects, its whole run respects. -/
theorem run_related {R : σ → σ → Prop} (refl : ∀ s, R s s)
    (trans : ∀ s t u, R s t → R t u → R s u) (respects : ∀ i s e, R s (step i s e))
    (schedule : List (ι × ε)) (i : ι) : R (parties i) (run step parties schedule i) := by
  induction schedule generalizing parties with
  | nil => exact refl _
  | cons e schedule ih =>
    refine trans _ _ _ ?_ ih
    by_cases own : i = e.1
    · subst own
      rw [act, Function.update_self]
      exact respects _ _ _
    · rw [act, Function.update_of_ne own]
      exact refl _

/-- An invariant holds in the last state of a run when every event keeps it that meets a condition in
    the state where it happens. The step may use that the last state is still to be reached. -/
theorem run_induct {P : (ι → σ) → Prop} {Q : (ι → σ) → ι → ε → Prop} {last : ι → σ}
    (keeps : ∀ p i e rest, Q p i e → run step (act step p (i, e)) rest = last → P p →
      P (act step p (i, e)))
    {schedule : List (ι × ε)} (through : Throughout step Q parties schedule)
    (reached : run step parties schedule = last) (initial : P parties) : P last := by
  induction schedule generalizing parties with
  | nil => exact reached ▸ initial
  | cons e schedule ih =>
    exact ih through.2 reached (keeps _ _ _ schedule through.1 reached initial)

/-! ## Parties within parties -/

section Projection

variable {τ δ : Type} {step' : ι → τ → δ → τ} {Q : (ι → σ) → ι → ε → Prop} {Q' : (ι → τ) → ι → δ → Prop}

variable (step) in
/-- The schedule of the inner parties, when each event is a list of events for the inner party. -/
def project (inner : ι → σ → ε → List δ) : (ι → σ) → List (ι × ε) → List (ι × δ)
  | _, [] => []
  | parties, e :: schedule =>
    (inner e.1 (parties e.1) e.2).map (e.1, ·) ++ project inner (act step parties e) schedule

lemma run_own (parties : ι → τ) (i : ι) (events : List δ) :
    run step' parties (events.map (i, ·)) =
      Function.update parties i (events.foldl (step' i) (parties i)) := by
  induction events generalizing parties with
  | nil => exact (Function.update_eq_self i parties).symm
  | cons e events ih =>
    rw [List.map_cons, run, List.foldl_cons, ← run, ih, act, Function.update_self, Function.update_idem]
    rfl

lemma Throughout.append {schedule more : List (ι × ε)} (first : Throughout step Q parties schedule)
    (second : Throughout step Q (run step parties schedule) more) :
    Throughout step Q parties (schedule ++ more) := by
  induction schedule generalizing parties with
  | nil => exact second
  | cons e schedule ih => exact ⟨first.1, ih first.2 second⟩

variable {f : σ → τ} {inner : ι → σ → ε → List δ}
  (simulates : ∀ i s e, f (step i s e) = (inner i s e).foldl (step' i) (f s))

include simulates in
/-- An event that is several events of the parties inside. -/
lemma run_inner (e : ι × ε) : run step' (fun i => f (parties i))
    ((inner e.1 (parties e.1) e.2).map (e.1, ·)) = fun i => f (act step parties e i) := by
  rw [run_own]
  funext i
  rw [act, Function.update_apply, Function.update_apply]
  split
  · exact (simulates _ _ _).symm
  · rfl

include simulates in
/-- The inner parties after the schedule are those of the outer ones. -/
theorem run_project (schedule : List (ι × ε)) :
    run step' (fun i => f (parties i)) (project step inner parties schedule) =
      fun i => f (run step parties schedule i) := by
  induction schedule generalizing parties with
  | nil => rfl
  | cons e schedule ih =>
    have first : run step' (fun i => f (parties i)) ((inner e.1 (parties e.1) e.2).map (e.1, ·)) =
        fun i => f (act step parties e i) := run_inner simulates e
    rw [run] at first
    rw [project, run, List.foldl_append, first]
    exact ih

include simulates in
/-- What holds of every event of the inner parties, when it does where an outer event leads to them. -/
theorem throughout_project (leads : ∀ p i e, Q p i e →
      Throughout step' Q' (fun j => f (p j)) ((inner i (p i) e).map (i, ·)))
    {schedule : List (ι × ε)} (through : Throughout step Q parties schedule) :
    Throughout step' Q' (fun i => f (parties i)) (project step inner parties schedule) := by
  induction schedule generalizing parties with
  | nil => trivial
  | cons e schedule ih =>
    refine (leads parties e.1 e.2 through.1).append ?_
    rw [run_inner simulates]
    exact ih through.2

end Projection

end Parties
