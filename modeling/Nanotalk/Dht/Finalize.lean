import Nanotalk.Dht.Handover

/-!
# The end of a client

C `dht_client_finalize` destroys the tables of the client, in an order that GLib does not tell
(`HashOrder`), runs the destroy callbacks of what they hold, and removes the sources that the client has
had from the start. Whatever the order, no source is left that would find the client gone, and every
callback has been completed (`finalize_run`).

A result of GIO has a reference to the client for as long as it waits, so that the last reference is gone
after the last result. Callbacks that wait (`Waits`) are nevertheless looked at here: they are cancelled.
-/

namespace Nanotalk
open Glib
open DhtClient (Env)

/-- The order in which `g_hash_table_destroy` takes the entries out of a table. -/
structure HashOrder {κ α : Type} (table : κ → Option α) where
  keys : List κ
  all : ∀ k a, table k = some a → k ∈ keys

noncomputable instance {κ α : Type} [Fintype κ] (table : κ → Option α) : Inhabited (HashOrder table) :=
  ⟨Finset.univ.toList, fun k _ _ => Finset.mem_toList.mpr (Finset.mem_univ k)⟩

/-- A callback is told that it is cancelled. -/
def Action.cancel (result : Nat) : Action := completeInIdle result ⟨.cancelled, "Operation cancelled"⟩

namespace DhtClient

/-- `g_source_remove` of a source that C `dht_client_init` has attached. -/
def detach (c : DhtClient) (source : Nat) : DhtClient :=
  { c with attached := { c.attached with sources := c.attached.sources.erase source } }

/-- `g_hash_table_destroy` of the lookups and of the connections. -/
def destroyTables (c : DhtClient) (lookups : List DhtId) (connections : List DhtKey) : DhtClient :=
  connections.foldl connectionRemove (lookups.foldl lookupRemove c)

/-- C `dht_client_finalize`, for a client with a socket. -/
def finalize (c : DhtClient) (lookups : HashOrder c.lookupTable)
    (connections : HashOrder c.connectionTable) : DhtClient :=
  let c := c.destroyTables lookups.keys connections.keys
  let c := c.detach c.attached.socketSource
  c.detach c.attached.timeoutSource

/-- A callback waits for a lookup or a connection. -/
def Waits (c : DhtClient) (result : Nat) : Prop :=
  (∃ id l, c.lookupTable id = some l ∧ result ∈ l.results) ∨
    ∃ nonce k, c.connectionTable nonce = some k ∧ k.result = some result

variable {c c' c'' : DhtClient}

/-! ## Taking out one entry -/

/-- The lookup is gone. -/
lemma lookupRemove_lookupTable (id : DhtId) :
    (c.lookupRemove id).lookupTable = Function.update c.lookupTable id none := by
  unfold lookupRemove
  split
  · exact congrArg Books.lookupTable (lookupDestroy_books ..)
  · rename_i free
    exact (Function.update_eq_self_iff.mpr free.symm).symm

/-- The connections stay. -/
lemma lookupRemove_connectionTable (id : DhtId) :
    (c.lookupRemove id).connectionTable = c.connectionTable := by
  unfold lookupRemove
  split
  · exact congrArg Books.connectionTable (lookupDestroy_books ..)
  · rfl

/-- The connection is gone. -/
lemma connectionRemove_connectionTable (nonce : DhtKey) :
    (c.connectionRemove nonce).connectionTable = Function.update c.connectionTable nonce none := by
  unfold connectionRemove
  split
  · exact congrArg Books.connectionTable (connectionDestroy_books ..)
  · rename_i free
    exact (Function.update_eq_self_iff.mpr free.symm).symm

/-- The lookups stay. -/
lemma connectionRemove_lookupTable (nonce : DhtKey) :
    (c.connectionRemove nonce).lookupTable = c.lookupTable := by
  unfold connectionRemove
  split
  · exact congrArg Books.lookupTable (connectionDestroy_books ..)
  · rfl

/-- From `c` to `c'` nothing happens but that callbacks which wait are cancelled. -/
structure Cancels (c c' : DhtClient) : Prop where
  accounts : Accounts c c' []
  log : ∃ results : List Nat, c'.log = results.map Action.cancel ++ c.log

/-- Nothing is cancelled. -/
lemma Cancels.refl (c : DhtClient) : Cancels c c := ⟨⟨rfl, fun _ => rfl⟩, [], rfl⟩

/-- One after the other. -/
lemma Cancels.trans (A : Cancels c c') (B : Cancels c' c'') : Cancels c c'' := by
  obtain ⟨rs, e⟩ := A.log
  obtain ⟨rs', e'⟩ := B.log
  exact ⟨A.accounts.trans B.accounts, rs' ++ rs, by rw [e', e, List.map_append, List.append_assoc]⟩

/-- The callbacks of a lookup are cancelled. -/
lemma lookupRemove_cancels (id : DhtId) : Cancels c (c.lookupRemove id) := by
  refine ⟨accounts_lookupRemove id, ?_⟩
  unfold lookupRemove
  split
  · rename_i l here
    rw [lookupDestroy, resultDestroy_foldl, queryDestroy_foldl]
    exact ⟨l.results.reverse, rfl⟩
  · exact ⟨[], rfl⟩

/-- The callback of a connection is cancelled. -/
lemma connectionRemove_cancels (C : c.books.Consistent none) (nonce : DhtKey) :
    Cancels c (c.connectionRemove nonce) := by
  cases here : c.connectionTable nonce with
  | none =>
    rw [connectionRemove, here]
    exact .refl c
  | some k =>
    obtain ⟨rfl, -⟩ := C.connection _ _ here
    refine ⟨accounts_connectionRemove here, k.result.toList, ?_⟩
    rw [connectionRemove, here]
    unfold connectionDestroy
    dsimp only
    split
    · rename_i r e
      rw [e]
      split <;> rfl
    · rename_i e
      rw [e]
      split <;> rfl

/-- The books stay consistent without a lookup. -/
lemma lookupRemove_books (C : c.books.Consistent none) (id : DhtId) :
    (c.lookupRemove id).books.Consistent none := by
  cases here : c.lookupTable id with
  | none =>
    rw [lookupRemove, here]
    exact C
  | some l =>
    obtain ⟨rfl, -⟩ := C.lookup _ _ here
    exact lookupRemove_consistent (C.weaken _) here

/-- They stay consistent without a connection. -/
lemma connectionRemove_consistent (C : c.books.Consistent none) (nonce : DhtKey) :
    (c.connectionRemove nonce).books.Consistent none := by
  cases here : c.connectionTable nonce with
  | none =>
    rw [connectionRemove, here]
    exact C
  | some k =>
    obtain ⟨rfl, -⟩ := C.connection _ _ here
    rw [connectionRemove_books here]
    exact C.dropConnection here

/-! ## Taking out all -/

/-- What is left in a table when some keys were taken out. -/
lemma foldl_view {κ α : Type} [DecidableEq κ] {f : DhtClient → κ → DhtClient}
    (view : DhtClient → κ → Option α)
    (one : ∀ c k, view (f c k) = Function.update (view c) k none) (keys : List κ) (k : κ) :
    view (keys.foldl f c) k = if k ∈ keys then none else view c k := by
  induction keys generalizing c with
  | nil => rfl
  | cons key keys ih =>
    rw [List.foldl_cons, ih, one, Function.update_apply]
    by_cases mem : k ∈ keys
    · rw [if_pos mem, if_pos (List.mem_cons_of_mem _ mem)]
    · rw [if_neg mem]
      by_cases same : k = key
      · rw [if_pos same, if_pos (same ▸ List.mem_cons_self)]
      · rw [if_neg same, if_neg (by simp [same, mem])]

/-- Lookups are removed one by one. -/
lemma foldl_lookupRemove (ids : List DhtId) (C : c.books.Consistent none) :
    (ids.foldl lookupRemove c).books.Consistent none ∧ Cancels c (ids.foldl lookupRemove c) ∧
    (ids.foldl lookupRemove c).connectionTable = c.connectionTable := by
  induction ids generalizing c with
  | nil => exact ⟨C, .refl c, rfl⟩
  | cons id ids ih =>
    obtain ⟨C', K, same⟩ := ih (lookupRemove_books C id)
    exact ⟨C', (lookupRemove_cancels id).trans K, same.trans (lookupRemove_connectionTable id)⟩

/-- Connections are removed one by one. -/
lemma foldl_connectionRemove (nonces : List DhtKey) (C : c.books.Consistent none) :
    (nonces.foldl connectionRemove c).books.Consistent none ∧
    Cancels c (nonces.foldl connectionRemove c) ∧
    (nonces.foldl connectionRemove c).lookupTable = c.lookupTable := by
  induction nonces generalizing c with
  | nil => exact ⟨C, .refl c, rfl⟩
  | cons nonce nonces ih =>
    obtain ⟨C', K, same⟩ := ih (connectionRemove_consistent C nonce)
    exact ⟨C', (connectionRemove_cancels C nonce).trans K,
      same.trans (connectionRemove_lookupTable nonce)⟩

/-- All entries of a table are taken out. -/
lemma HashOrder.empty {κ α : Type} [DecidableEq κ] {f : DhtClient → κ → DhtClient}
    (view : DhtClient → κ → Option α)
    (one : ∀ c k, view (f c k) = Function.update (view c) k none) (order : HashOrder (view c)) :
    view (order.keys.foldl f c) = fun _ => none := by
  funext k
  rw [foldl_view view one, ite_eq_left_iff]
  intro out
  cases here : view c k with
  | none => rfl
  | some a => exact absurd (order.all k a here) out

/-- Without lookups and connections there are no sources. -/
lemma no_sources (C : c.books.Consistent none) (lookups : c.lookupTable = fun _ => none)
    (connections : c.connectionTable = fun _ => none) (s : Nat) : c.sources s = none := by
  cases armed : c.sources s with
  | none => rfl
  | some t =>
    obtain ⟨ne, recorded⟩ := (C.timers s t).mp armed
    cases t with
    | query id iter => simp [Books.timerOf, books, lookups, ne.symm] at recorded
    | connection nonce => simp [Books.timerOf, books, connections, ne.symm] at recorded

/-! ## Sources -/

/-- The sources that a client has from the start stay. -/
lemma run_attached (S : Sodium) (w : WordSize) (random : Nat → DhtKey) (key : DhtKey)
    (events : List (Env × Event)) : (run S w random key events).attached = ⟨1, 2, [1, 2]⟩ := by
  induction events using List.reverseRecOn with
  | nil => rfl
  | append_singleton events e ih =>
    rw [run_concat, (step_frame S w random e.1 e.2).same, ih]

/-- Emptying the tables leaves them. -/
lemma destroyTables_attached (ids : List DhtId) (nonces : List DhtKey) :
    (c.destroyTables ids nonces).attached = c.attached := by
  have lookups : Mute c (ids.foldl lookupRemove c) :=
    Frame.foldl (fun _ id => (lookupRemove_seeks id).mute) ids
  have connections : Mute (ids.foldl lookupRemove c) (c.destroyTables ids nonces) :=
    Frame.foldl (fun _ _ => connectionRemove_mute) nonces
  exact congrArg Prod.snd (lookups.trans connections).same

/-! ## Callbacks -/

/-- What is cancelled is completed. -/
lemma cancel_completed (results : List Nat) :
    (results.map Action.cancel).flatMap Action.completed = results := by
  induction results with
  | nil => rfl
  | cons result results ih =>
    rw [List.map_cons, List.flatMap_cons, ih]
    rfl

/-- A callback that waits has a place in one of the tables. -/
lemma waits_iff (x : Nat) : c.Waits x ↔ 0 < tally c.lookupTable (fun l => l.results.count x) +
    tally c.connectionTable (fun k => k.result.toList.count x) := by
  constructor
  · rintro (⟨id, l, here, mem⟩ | ⟨nonce, k, here, waits⟩)
    · have le := le_tally (fun l : DhtLookup => l.results.count x) here
      have pos := List.count_pos_iff.mpr mem
      omega
    · have le := le_tally (fun k : DhtConnection => k.result.toList.count x) here
      have pos : 0 < k.result.toList.count x := by simp [waits]
      omega
  · intro pos
    rcases Nat.add_pos_iff_pos_or_pos.mp pos with pos | pos
    · obtain ⟨id, l, here, pos⟩ := exists_of_tally pos
      exact .inl ⟨id, l, here, List.count_pos_iff.mp pos⟩
    · obtain ⟨nonce, k, here, pos⟩ := exists_of_tally pos
      have mem := List.count_pos_iff.mp pos
      exact .inr ⟨nonce, k, here, Option.mem_toList.mp mem⟩

/-- What is cancelled when the tables are emptied is what waits. -/
lemma Cancels.waits {results : List Nat} (K : Cancels c c')
    (log : c'.log = results.map Action.cancel ++ c.log)
    (lookups : c'.lookupTable = fun _ => none) (connections : c'.connectionTable = fun _ => none)
    (x : Nat) : x ∈ results ↔ c.Waits x := by
  have places := K.accounts.places x
  have completed : c'.completions = results ++ c.completions := by
    rw [completions, log, List.flatMap_append, cancel_completed]
    rfl
  rw [DhtClient.places, DhtClient.places, lookups, connections, tally_none, tally_none, completed,
    List.count_append, List.count_nil] at places
  rw [waits_iff, ← List.count_pos_iff]
  omega

/-- A client without lookups and connections, in which only callbacks were cancelled. -/
lemma destroyTables_empties (C : c.books.Consistent none) (lookups : HashOrder c.lookupTable)
    (connections : HashOrder c.connectionTable) :
    let c' := c.destroyTables lookups.keys connections.keys
    c'.books.Consistent none ∧ Cancels c c' ∧ (c'.lookupTable = fun _ => none) ∧
      c'.connectionTable = fun _ => none := by
  obtain ⟨C₁, K₁, same⟩ := foldl_lookupRemove lookups.keys C
  obtain ⟨C₂, K₂, same'⟩ := foldl_connectionRemove connections.keys C₁
  refine ⟨C₂, K₁.trans K₂, ?_, ?_⟩
  · exact same'.trans
      (HashOrder.empty DhtClient.lookupTable (fun _ => lookupRemove_lookupTable) lookups)
  · refine HashOrder.empty DhtClient.connectionTable (fun _ => connectionRemove_connectionTable)
      ⟨connections.keys, ?_⟩
    rw [same]
    exact connections.all

/-- A client that is destroyed has no source left. It cancels the callbacks that wait and does nothing
    else, and then every call has been completed once. -/
theorem finalize_run (S : Sodium) (w : WordSize) (random : Nat → DhtKey) (key : DhtKey)
    (events : List (Env × Event)) (lookups : HashOrder (run S w random key events).lookupTable)
    (connections : HashOrder (run S w random key events).connectionTable) :
    let c := run S w random key events
    let c' := c.finalize lookups connections
    c'.attached.sources = [] ∧ (∀ s, c'.sources s = none) ∧
    (∃ results : List Nat, c'.log = results.map Action.cancel ++ c.log ∧
      ∀ x, x ∈ results ↔ c.Waits x) ∧
    ∀ x, c'.completions.count x = if x < events.countP (·.2.isCall) then 1 else 0 := by
  intro c c'
  have C : c.books.Consistent none := run_consistent S w random key events
  obtain ⟨C', K, noLookups, noConnections⟩ := destroyTables_empties C lookups connections
  have attached : (c.destroyTables lookups.keys connections.keys).attached = ⟨1, 2, [1, 2]⟩ :=
    (destroyTables_attached lookups.keys connections.keys).trans (run_attached S w random key events)
  have left : c'.attached.sources = [] := by
    show (detach _ _).attached.sources = []
    unfold detach
    rw [attached]
    rfl
  obtain ⟨results, log⟩ := K.log
  refine ⟨left, no_sources C' noLookups noConnections,
    ⟨results, log, K.waits log noLookups noConnections⟩, fun x => ?_⟩
  obtain ⟨calls, places⟩ := places_run S w random key events
  have one := K.accounts.places x
  rw [places, calls, DhtClient.places, noLookups, noConnections, tally_none, tally_none] at one
  exact one

end DhtClient

end Nanotalk
