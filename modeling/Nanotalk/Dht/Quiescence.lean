import Nanotalk.Dht.Results
import Nanotalk.Dht.Traffic

/-!
# Quiescence

When nothing arrives any more, the timeouts of a client come to an end (`rests_run`). By then every
lookup and every connection is gone, and each call of `dht_client_lookup_async` has been completed
once: as before, or else with one of the two errors that the timeouts lead to.
-/

namespace Nanotalk
open Glib
open DhtClient (Env)

/-- The errors that timeouts lead to. -/
def lapses : List GError :=
  [⟨.hostNotFound, "Lookup failed"⟩, ⟨.timedOut, "Operation timed out"⟩]

/-- What timeouts do to callbacks. -/
def Action.lapsing : Action → Bool
  | completeInIdle _ error => error ∈ lapses
  | complete .. => false
  | _ => true

namespace DhtClient

variable {c c' : DhtClient} {l : DhtLookup} {k : DhtConnection}

/-! ## What timeouts do -/

/-- Callbacks are completed with the errors of timeouts only. -/
abbrev Lapses (c c' : DhtClient) : Prop := Frame (fun _ => ()) Action.lapsing c c'

lemma dispatchLoop_lapses (todo : List DhtQuery) (numAlive : Nat) :
    Lapses c (dispatchLoop todo c l numAlive).1 := by
  induction todo generalizing c l numAlive with
  | nil => exact .quiet rfl rfl
  | cons query rest ih =>
    unfold dispatchLoop
    split
    · dsimp only
      split
      · refine Frame.trans ?_ (ih _)
        exact .done [.sendTo 0 (some query.addr.deserialize) (.lookupReq c.id l.id),
          .request l.id query l.querySequence] rfl rfl rfl
      · exact ih _
    · exact .quiet rfl rfl

/-- A lookup without results is removed in silence. -/
lemma lookupRemove_lapses (here : c.lookupTable l.id = some l) (none : l.results = []) :
    Lapses c (c.lookupRemove l.id) := by
  rw [lookupRemove, here]
  dsimp only
  rw [lookupDestroy, none, queryDestroy_foldl]
  exact .quiet rfl rfl

lemma lookupDispatch_lapses : Lapses c (c.lookupDispatch l) := by
  have loop := dispatchLoop_lapses (c := c) (l := l) l.querySequence 0
  unfold lookupDispatch
  generalize dispatchLoop l.querySequence c l 0 = x at loop
  obtain ⟨c', l'⟩ := x
  dsimp only at loop ⊢
  split
  · have failed : Lapses c' (c'.act (.lookupFailed l'.id l'.querySequence)) := .done [_] rfl rfl rfl
    have report : ∀ (c : DhtClient) (result : Nat),
        Lapses c (c.act (.completeInIdle result ⟨.hostNotFound, "Lookup failed"⟩)) :=
      fun c result => .done [_] rfl rfl rfl
    have reported := (loop.trans failed).trans (Frame.foldl report l'.results)
    refine reported.trans (Frame.trans ?_ (lookupRemove_lapses (l := { l' with results := [] })
      (Function.update_self _ _ _) rfl))
    exact .quiet rfl rfl
  · exact loop

/-- A connection without a result is removed in silence. -/
lemma connectionRemove_lapses (here : c.connectionTable k.nonce = some k) (none : k.result = none) :
    Lapses c (c.connectionRemove k.nonce) := by
  rw [connectionRemove, here]
  dsimp only
  unfold connectionDestroy
  rw [none]
  dsimp only
  split
  · exact .quiet rfl rfl
  · exact .quiet rfl rfl

lemma fire_lapses (env : Env) (source : Nat) : Lapses c (c.fire env source) := by
  unfold fire
  split
  · rename_i id iter _
    unfold queryTimeout
    split
    · exact .quiet rfl rfl
    · split
      · exact .quiet rfl rfl
      · rename_i query _
        refine Frame.trans ?_ lookupDispatch_lapses
        exact .done [.timedOut id query] rfl rfl rfl
  · rename_i nonce _
    unfold connectionTimeout
    split
    · exact .quiet rfl rfl
    · rename_i k _
      refine Frame.trans ?_ (connectionRemove_lapses (k := { k with result := none, timeoutSource := 0 })
        (Function.update_self _ _ _) rfl)
      split
      · rename_i result _
        exact .done [.completeInIdle result ⟨.timedOut, "Operation timed out"⟩] rfl rfl rfl
      · exact .quiet rfl rfl
  · exact .quiet rfl rfl

/-! ## Callbacks -/

/-- An action completes a callback with one outcome. -/
lemma outcome_length (action : Action) (x : Nat) :
    (Action.outcome x action).toList.length = action.completed.count x := by
  have one : ∀ (result : Nat) (outcome : Except GError DhtConnection),
      (if result = x then some outcome else none).toList.length = [result].count x := by
    intro result outcome
    rw [List.count_singleton]
    by_cases same : result = x
    · simp [same]
    · simp [same]
  cases action with
  | completeInIdle result error => exact one result (.error error)
  | complete result connection => exact one result (.ok connection)
  | _ => rfl

/-- Every completion has an outcome. -/
lemma outcomes_length (x : Nat) : (c.outcomes x).length = c.completions.count x := by
  unfold outcomes completions
  induction c.log with
  | nil => rfl
  | cons action log ih =>
    rw [List.flatMap_cons, List.count_append, ← ih, ← outcome_length, List.filterMap_cons]
    split
    · rename_i none
      rw [none]
      simp
    · rename_i outcome some
      rw [some]
      simp [Nat.add_comm]

/-- Timeouts add the errors that they lead to. -/
lemma Frame.outcomes (L : Lapses c c') (x : Nat) : ∃ added, c'.outcomes x = added ++ c.outcomes x ∧
    ∀ outcome ∈ added, ∃ error ∈ lapses, outcome = .error error := by
  obtain ⟨added, log, lapsing⟩ := L.log
  refine ⟨added.filterMap (Action.outcome x), ?_, fun outcome mem => ?_⟩
  · rw [DhtClient.outcomes, log, List.filterMap_append]
    rfl
  · obtain ⟨action, here, e⟩ := List.mem_filterMap.mp mem
    have kind := lapsing action here
    unfold Action.outcome at e
    split at e
    · rename_i result error
      split at e
      · exact ⟨error, of_decide_eq_true kind, (Option.some.inj e).symm⟩
      · cases e
    · cases kind
    · cases e

/-! ## The end -/

/-- No source is left that would fire. -/
def Still (c : DhtClient) : Prop := ∀ source, c.sources source = none

/-- Without sources there are neither lookups nor connections. -/
lemma Still.empty (C : c.books.Consistent none) (still : c.Still) :
    (∀ id, c.lookupTable id = none) ∧ ∀ nonce, c.connectionTable nonce = none := by
  have idle : ∀ t, c.books.timerOf t = 0 := by
    intro t
    by_contra ne
    exact absurd ((still _).symm.trans (C.timers.source ne)) nofun
  constructor
  · intro id
    cases here : c.lookupTable id with
    | none => rfl
    | some l =>
      obtain ⟨rfl, S⟩ := C.lookup _ _ here
      -- a lookup has an armed query
      have armed : 0 < DhtLookup.countArmed l.querySequence := by
        rw [← S.numSources]
        exact Nat.pos_of_ne_zero (C.busy _ _ here nofun)
      obtain ⟨q, mem, ne⟩ := List.countP_pos_iff.mp armed
      have timer : c.books.timerOf (.query l.id q.iter) = q.timeoutSource :=
        (Books.Consistent.timerOf_query here _).trans (DhtLookup.timer_of_mem S.iters mem)
      exact absurd (timer.symm.trans (idle _)) (of_decide_eq_true ne)
  · intro nonce
    cases here : c.connectionTable nonce with
    | none => rfl
    | some k =>
      have timer : c.books.timerOf (.connection nonce) = k.timeoutSource := by
        simp [Books.timerOf, books, here]
      exact absurd (timer.symm.trans (idle _)) (C.connection _ _ here).2.1

section Runs

variable (S : Sodium) (w : WordSize) (random : Nat → DhtKey) (key : DhtKey)

/-- Every event is a timeout of a source in the main context. -/
def Expires (c : DhtClient) (events : List (Env × Event)) : Prop :=
  Runs.Throughout (fun c (e : Env × Event) => c.step S w random e.1 e.2)
    (fun c e => c.fires e.2 = true) c events

lemma fires_iff {e : Event} : c.fires e = true ↔
    ∃ source timer, e = .timeout source ∧ c.sources source = some timer := by
  unfold fires
  split
  · rename_i source
    rw [Option.isSome_iff_exists]
    constructor
    · rintro ⟨timer, live⟩
      exact ⟨source, timer, rfl, live⟩
    · rintro ⟨source, timer, e, live⟩
      cases e
      exact ⟨timer, live⟩
  · rename_i other
    constructor
    · nofun
    · rintro ⟨source, timer, rfl, -⟩
      exact absurd rfl (other source)

variable {S w random} in
lemma Expires.lapses {events : List (Env × Event)} (expires : Expires S w random c events) :
    Lapses c (events.foldl (fun c e => c.step S w random e.1 e.2) c) := by
  induction events generalizing c with
  | nil => exact .quiet rfl rfl
  | cons e events ih =>
    obtain ⟨source, timer, eq, -⟩ := fires_iff.mp expires.1
    have first : Lapses c (c.step S w random e.1 e.2) := by
      rw [eq]
      exact fire_lapses e.1 source
    exact first.trans (ih expires.2)

/-- A timeout leaves less work. -/
lemma work_fires {e : Env × Event} (C : c.books.Consistent none) (fires : c.fires e.2 = true) :
    (c.step S w random e.1 e.2).work ⟨0, 1⟩ < c.work ⟨0, 1⟩ := by
  obtain ⟨source, timer, eq, live⟩ := fires_iff.mp fires
  have fire := spent_fire (r := ⟨0, 1⟩) C e.1 live
  simp only [spent, Nat.zero_mul, Nat.zero_add] at fire
  rw [eq, step]
  omega

/-- Timeouts come to an end. -/
lemma expires_end (C : c.books.Consistent none) {rest : List (Env × Event)}
    (expires : Expires S w random c rest) : rest.length ≤ c.work ⟨0, 1⟩ ∧
      ∃ more, Expires S w random c (rest ++ more) ∧
        ((rest ++ more).foldl (fun c e => c.step S w random e.1 e.2) c).Still := by
  have keeps := fun (c : DhtClient) (e : Env × Event) (C : c.books.Consistent none)
    (_ : c.fires e.2 = true) => step_consistent S w random e.1 e.2 C
  have lower := fun (c : DhtClient) (e : Env × Event) (C : c.books.Consistent none)
    (fires : c.fires e.2 = true) => work_fires S w random C fires
  have length := Runs.length_le keeps lower C expires
  obtain ⟨more, further, stuck⟩ := Runs.exists_end keeps lower (expires.keeps keeps C)
  refine ⟨Nat.le_of_add_right_le length, more, expires.append further, fun source => ?_⟩
  rw [List.foldl_append]
  cases live : (more.foldl (fun c e => c.step S w random e.1 e.2)
    (rest.foldl (fun c e => c.step S w random e.1 e.2) c)).sources source with
  | none => rfl
  | some timer =>
    exact absurd (fires_iff.mpr ⟨source, timer, rfl, live⟩) (stuck (⟨0, 0, false⟩, .timeout source))

/-- At the end every call has one outcome. -/
lemma still_outcomes (events : List (Env × Event)) (still : (run S w random key events).Still)
    {x : Nat} (call : x < events.countP (·.2.isCall)) :
    ((run S w random key events).outcomes x).length = 1 := by
  obtain ⟨lookups, connections⟩ := still.empty (run_consistent S w random key events)
  obtain ⟨calls, places⟩ := places_run S w random key events
  have place := (places x).trans (if_pos (calls ▸ call))
  rw [DhtClient.places, funext lookups, funext connections, tally_none, tally_none] at place
  rw [outcomes_length]
  exact place

/-- One outcome is an old one, or it is added. -/
lemma Lapses.outcome {c' : DhtClient} (lapses' : Lapses c c') {x : Nat}
    (one : (c'.outcomes x).length = 1) : ∃ outcome, c'.outcomes x = [outcome] ∧
      (c.outcomes x = [outcome] ∨
        c.outcomes x = [] ∧ ∃ error ∈ lapses, outcome = .error error) := by
  obtain ⟨added, e, errors⟩ := lapses'.outcomes x
  rw [e] at one ⊢
  cases added with
  | nil =>
    obtain ⟨outcome, same⟩ := List.length_eq_one_iff.mp one
    exact ⟨outcome, same, .inl same⟩
  | cons outcome added =>
    rw [List.cons_append, List.length_cons] at one
    have none := List.append_eq_nil_iff.mp (List.length_eq_zero_iff.mp (Nat.succ.inj one))
    rw [none.1, none.2]
    exact ⟨outcome, rfl, .inr ⟨rfl, errors outcome List.mem_cons_self⟩⟩

/-- From every state of a run, timeouts alone lead to an end: there are at most as many as queries,
    callbacks and connections are left; where no source is left, there are neither lookups nor
    connections, and every callback has been completed once, as it was or with one of two errors. -/
theorem rests_run (events : List (Env × Event)) :
    let c := run S w random key events
    (∀ rest, Expires S w random c rest → rest.length ≤ c.work ⟨0, 1⟩ ∧
      ∃ more, Expires S w random c (rest ++ more) ∧
        (run S w random key (events ++ (rest ++ more))).Still) ∧
    ∀ rest, Expires S w random c rest → (run S w random key (events ++ rest)).Still →
      (∀ id, (run S w random key (events ++ rest)).lookupTable id = none) ∧
      (∀ nonce, (run S w random key (events ++ rest)).connectionTable nonce = none) ∧
      ∀ x < events.countP (·.2.isCall), ∃ outcome,
        (run S w random key (events ++ rest)).outcomes x = [outcome] ∧
        (c.outcomes x = [outcome] ∨
          c.outcomes x = [] ∧ ∃ error ∈ lapses, outcome = .error error) := by
  intro c
  have C : c.books.Consistent none := run_consistent S w random key events
  have after : ∀ rest, run S w random key (events ++ rest) =
      rest.foldl (fun c e => c.step S w random e.1 e.2) c := fun rest => List.foldl_append
  constructor
  · intro rest expires
    obtain ⟨length, more, further, still⟩ := expires_end S w random C expires
    exact ⟨length, more, further, after _ ▸ still⟩
  · intro rest expires still
    obtain ⟨lookups, connections⟩ := still.empty (run_consistent S w random key (events ++ rest))
    refine ⟨lookups, connections, fun x call => ?_⟩
    have lapse := expires.lapses
    rw [← after] at lapse
    refine lapse.outcome (still_outcomes S w random key (events ++ rest) still ?_)
    rw [List.countP_append]
    exact Nat.lt_add_right _ call

end Runs

end DhtClient

end Nanotalk
