import Nanotalk.Dht.Client
import Nanotalk.Dht.Bounds

/-!
# The routing table of a client

Only C `dht_client_update` and C `dht_client_search` work on the routing table. So the table of a
client is one that `TableEvent`s lead to (`Routed`), whatever happens to the client, and what holds
after every run of calls holds of it.

* `DhtClient.routed_run`: the table of a client, as a run of the table.
* `DhtClient.invariant_run`: it has its invariant after every run of the client.
-/

namespace Nanotalk
open Glib

namespace DhtClient

/-! ## What leaves the table alone -/

/-- The routing table, and the own id that it is sorted by. -/
def routing (c : DhtClient) : DhtId × DhtTable := (c.id, c.table)

section Frame

variable {α : Type} (c : DhtClient) (l : DhtLookup) (k : DhtConnection)

/-- A loop whose rounds leave the table alone. -/
lemma foldl_routing {f : DhtClient → α → DhtClient} (one : ∀ c x, (f c x).routing = c.routing)
    (xs : List α) : (xs.foldl f c).routing = c.routing := by
  induction xs generalizing c with
  | nil => rfl
  | cons x xs ih => exact (ih (f c x)).trans (one c x)

/-- A search finds the same in the same table. -/
lemma search_routing {c c' : DhtClient} (same : c'.routing = c.routing) (now : Int) (id : DhtId) :
    (c'.search now id).1 = (c.search now id).1 := by
  obtain ⟨self, table⟩ := Prod.mk.inj same
  rw [search, search, self, table]

/-- An action that is logged leaves the table alone. -/
@[simp] lemma act_routing (action : Action) : (c.act action).routing = c.routing := rfl

/-- A timeout that is removed leaves the table alone. -/
@[simp] lemma sourceRemove_routing (source : Nat) : (c.sourceRemove source).routing = c.routing := rfl

/-- A lookup that is put back leaves the table alone. -/
@[simp] lemma putLookup_routing : (c.putLookup l).routing = c.routing := rfl

/-- A connection that is put back leaves the table alone. -/
@[simp] lemma putConnection_routing : (c.putConnection k).routing = c.routing := rfl

/-- A connection that is taken out leaves the table alone. -/
@[simp] lemma connectionSteal_routing (nonce : DhtKey) :
    (c.connectionSteal nonce).routing = c.routing := rfl

/-- The destroy callback of a query leaves the table alone. -/
lemma queryDestroy_routing (query : DhtQuery) : (c.queryDestroy query).routing = c.routing := by
  unfold queryDestroy
  split <;> rfl

/-- The destroy callback of a lookup leaves the table alone. -/
@[simp] lemma lookupDestroy_routing : (c.lookupDestroy l).routing = c.routing := by
  unfold lookupDestroy
  exact (foldl_routing _ (fun c _ => act_routing c _) _).trans (foldl_routing _ queryDestroy_routing _)

/-- The destroy callback of a connection leaves the table alone. -/
@[simp] lemma connectionDestroy_routing : (c.connectionDestroy k).routing = c.routing := by
  unfold connectionDestroy resultDestroy
  dsimp only
  split <;> split <;> rfl

/-- A lookup that is removed leaves the table alone. -/
@[simp] lemma lookupRemove_routing (id : DhtId) : (c.lookupRemove id).routing = c.routing := by
  unfold lookupRemove
  split
  · exact lookupDestroy_routing ..
  · rfl

/-- A lookup that replaces another one leaves the table alone. -/
@[simp] lemma lookupReplace_routing : (c.lookupReplace l).routing = c.routing := by
  unfold lookupReplace
  split
  · exact lookupDestroy_routing ..
  · rfl

/-- A connection that replaces another one leaves the table alone. -/
@[simp] lemma connectionReplace_routing : (c.connectionReplace k).routing = c.routing := by
  unfold connectionReplace
  split
  · exact connectionDestroy_routing ..
  · rfl

/-- A connection that is removed leaves the table alone. -/
@[simp] lemma connectionRemove_routing (nonce : DhtKey) :
    (c.connectionRemove nonce).routing = c.routing := by
  unfold connectionRemove
  split
  · exact connectionDestroy_routing ..
  · rfl

/-- Queries that are sent leave the table alone. -/
lemma dispatchLoop_routing (todo : List DhtQuery) (numAlive : Nat) :
    (dispatchLoop todo c l numAlive).1.routing = c.routing := by
  induction todo generalizing c l numAlive with
  | nil => rfl
  | cons query rest ih =>
    unfold dispatchLoop
    split
    · dsimp only
      split
      · exact (ih ..).trans rfl
      · exact ih ..
    · rfl

/-- A lookup that goes on or fails leaves the table alone. -/
@[simp] lemma lookupDispatch_routing : (c.lookupDispatch l).routing = c.routing := by
  have loop := dispatchLoop_routing c l l.querySequence 0
  unfold lookupDispatch
  generalize dispatchLoop l.querySequence c l 0 = r at loop
  obtain ⟨c', l'⟩ := r
  dsimp only at loop ⊢
  split
  · rw [lookupRemove_routing, putLookup_routing]
    exact (foldl_routing _ (fun c _ => act_routing c _) _).trans loop
  · exact loop

section Random

variable (random : Nat → DhtKey)

/-- A connection that is requested leaves the table alone. -/
lemma requestConnection_routing (id : DhtId) (addr : DhtAddress) (result : Nat) :
    (c.requestConnection random id addr result).routing = c.routing := by
  unfold requestConnection
  exact connectionReplace_routing ..

/-- A lookup that takes the nodes one by one leaves the table alone. -/
lemma updateLoop_routing (nodes : List MsgNode) :
    (c.updateLoop random l nodes).routing = c.routing := by
  induction nodes generalizing c l with
  | nil => exact lookupDispatch_routing ..
  | cons node nodes ih =>
    unfold updateLoop
    split
    · exact ih ..
    · split
      · dsimp only
        rw [lookupRemove_routing, putLookup_routing]
        exact foldl_routing _ (fun c result => requestConnection_routing c random _ _ result) _
      · exact (ih ..).trans rfl

/-- A lookup that takes nodes leaves the table alone. -/
@[simp] lemma lookupUpdate_routing (nodes : List MsgNode) :
    (c.lookupUpdate random l nodes).routing = c.routing := updateLoop_routing ..

variable (S : Sodium) (env : Env) (sockaddr : GSocketAddress)

/-- A connection request leaves the table alone. -/
lemma connectionReq_routing (pubkey nonce : DhtKey) :
    (c.connectionReq S random env sockaddr pubkey nonce).routing = c.routing := by
  unfold connectionReq
  dsimp only
  split
  · rfl
  · split
    · split
      · rfl
      · split
        · rfl
        · exact connectionReplace_routing ..
    · rfl

/-- A connection response leaves the table alone. -/
lemma connectionRes1_routing (pubkey nonce peerNonce authTag : DhtKey) :
    (c.connectionRes1 S env sockaddr pubkey nonce peerNonce authTag).routing = c.routing := by
  unfold connectionRes1
  dsimp only
  split
  · rfl
  · split
    · rfl
    · split
      · rfl
      · generalize e : (c.act (.derive _)).putConnection _ = c'
        have derived : c'.routing = c.routing := by
          rw [← e]
          rfl
        split
        · exact derived
        · split
          · exact derived
          · refine Eq.trans ?_ derived
            split
            · exact act_routing ..
            · exact connectionSteal_routing ..

/-- A confirmation leaves the table alone. -/
lemma connectionRes2_routing (peerNonce authTag : DhtKey) :
    (c.connectionRes2 sockaddr peerNonce authTag).routing = c.routing := by
  unfold connectionRes2
  dsimp only
  split
  · rfl
  · split
    · rfl
    · rw [connectionDestroy_routing]
      split <;> rfl

end Random

/-- A connection that times out leaves the table alone. -/
lemma connectionTimeout_routing (nonce : DhtKey) :
    (c.connectionTimeout nonce).routing = c.routing := by
  unfold connectionTimeout
  split
  · rfl
  · rw [connectionRemove_routing, putConnection_routing]
    split <;> rfl

end Frame

/-! ## What works on the table -/

/-- From `c` to `c'` the events reach the routing table. -/
structure Routed (c c' : DhtClient) (events : List TableEvent) : Prop where
  id : c'.id = c.id
  table : c'.table = (events.flatMap (TableEvent.calls c.id)).foldl (DhtTable.step c.id) c.table

namespace Routed

variable {c c' c'' : DhtClient} {events events' : List TableEvent}

/-- Nothing reaches the table. -/
lemma quiet (same : c'.routing = c.routing) : Routed c c' [] :=
  ⟨congrArg Prod.fst same, congrArg Prod.snd same⟩

/-- One after the other. -/
lemma trans (R : Routed c c' events) (R' : Routed c' c'' events') : Routed c c'' (events ++ events') := by
  refine ⟨R'.id.trans R.id, ?_⟩
  rw [List.flatMap_append, List.foldl_append, ← R.table, R'.table, R.id]

/-- What is done after the events leaves the table alone. -/
lemma congr (R : Routed c c' events) (same : c''.routing = c'.routing) : Routed c c'' events := by
  have both := R.trans (quiet same)
  rwa [List.append_nil] at both

end Routed

variable {c : DhtClient} {S : Sodium} {random : Nat → DhtKey} {env : Env}

/-- A search is an event of the table. -/
lemma search_routed (now : Int) (id : DhtId) : Routed c (c.search now id).2 [.search now id] :=
  ⟨rfl, rfl⟩

/-- A call that starts a lookup searches. -/
lemma lookupAsync_routed (now : Int) (id : DhtId) :
    Routed c (c.lookupAsync random now id)
      (if id = c.id ∨ (c.lookupTable id).isSome then [] else [.search now id]) := by
  unfold lookupAsync
  dsimp only
  split
  · rename_i own
    rw [if_pos (.inl own)]
    exact .quiet rfl
  · rename_i foreign
    split
    · rename_i l here
      rw [if_pos (.inr (by rw [here]; rfl))]
      exact .quiet rfl
    · rename_i free
      rw [if_neg (by rw [free]; simp [foreign])]
      refine Routed.congr ?_ (lookupUpdate_routing ..)
      exact ⟨rfl, rfl⟩

/-- A bootstrap leaves the table alone. -/
lemma bootstrap_routing (address : GSocketAddress) :
    (c.bootstrap random address).routing = c.routing := by
  unfold bootstrap
  dsimp only
  split <;> exact lookupUpdate_routing ..

/-- A refresh searches for its random id. -/
lemma refresh_routed (now : Int) (nbits : Nat) (drawn : Nat → UInt8) :
    Routed c (c.refresh random now nbits drawn) [.search now (refreshId c.id nbits drawn)] := by
  refine Routed.congr ?_ (lookupUpdate_routing ..)
  have made : Routed c ((c.act (.lookupNew (refreshId c.id nbits drawn))).lookupReplace
      (DhtLookup.new (refreshId c.id nbits drawn) [])) [] := .quiet (lookupReplace_routing ..)
  exact made.trans (search_routed now _)

/-- A lookup request reports its sender and searches. -/
lemma lookupReq_routed (sockaddr : GSocketAddress) (srcid dstid : DhtId) :
    Routed c (c.lookupReq env sockaddr srcid dstid)
      [.lookupReq env.updateTime env.searchTime (DhtAddress.serialize sockaddr) srcid dstid] := by
  refine ⟨?_, ?_⟩
  · unfold lookupReq
    split <;> rfl
  · unfold lookupReq
    rw [List.flatMap_singleton, TableEvent.calls]
    split <;> rfl

/-- A lookup response reports its sender. -/
lemma lookupRes_routed (sockaddr : GSocketAddress) (srcid dstid : DhtId) (nodes : List MsgNode) :
    Routed c (c.lookupRes random env sockaddr srcid dstid nodes)
      [.lookupRes env.updateTime (DhtAddress.serialize sockaddr) srcid] := by
  have heard : ∀ c' : DhtClient, c'.routing =
      (if srcid = c.id then c
        else c.update env.updateTime srcid (DhtAddress.serialize sockaddr) true).routing →
      Routed c c' [.lookupRes env.updateTime (DhtAddress.serialize sockaddr) srcid] := by
    refine fun c' same => Routed.congr ⟨?_, ?_⟩ same
    · split <;> rfl
    · rw [List.flatMap_singleton, TableEvent.calls]
      split <;> rfl
  refine heard _ ?_
  unfold lookupRes
  split
  · rfl
  · dsimp only
    split
    · rfl
    · split
      · rfl
      · refine (lookupUpdate_routing ..).trans ?_
        split <;> rfl

/-- What a message is for the routing table. -/
def msgEvents (env : Env) (sockaddr : GSocketAddress) : Msg → List TableEvent
  | .lookupReq srcid dstid =>
    [.lookupReq env.updateTime env.searchTime (DhtAddress.serialize sockaddr) srcid dstid]
  | .lookupRes srcid _ _ => [.lookupRes env.updateTime (DhtAddress.serialize sockaddr) srcid]
  | _ => []

/-- What a message does to the table. -/
lemma receiveMsg_routed (sockaddr : GSocketAddress) (msg : Msg) :
    Routed c (c.receiveMsg S random env sockaddr msg) (msgEvents env sockaddr msg) := by
  cases msg with
  | lookupReq srcid dstid => exact lookupReq_routed sockaddr srcid dstid
  | lookupRes srcid dstid nodes => exact lookupRes_routed sockaddr srcid dstid nodes
  | connectionReq pubkey nonce => exact .quiet (connectionReq_routing ..)
  | connectionRes1 pubkey nonce peerNonce authTag => exact .quiet (connectionRes1_routing ..)
  | connectionRes2 peerNonce authTag => exact .quiet (connectionRes2_routing ..)

/-- What the timeout of a query is for the routing table. -/
def timeoutEvents (c : DhtClient) (env : Env) (id : DhtId) (iter : Nat) : List TableEvent :=
  match c.lookupTable id with
  | none => []
  | some lookup =>
    match lookup.get iter with
    | none => []
    | some query => [.queryTimeout env.updateTime query.addr (query.metric.xor lookup.id)]

/-- A query that times out reports its node dead. -/
lemma queryTimeout_routed (c : DhtClient) (env : Env) (id : DhtId) (iter : Nat) :
    Routed c (c.queryTimeout env id iter) (c.timeoutEvents env id iter) := by
  unfold queryTimeout timeoutEvents
  cases c.lookupTable id with
  | none => exact .quiet rfl
  | some lookup =>
    dsimp only
    cases lookup.get iter with
    | none => exact .quiet rfl
    | some query =>
      refine Routed.congr ?_ (lookupDispatch_routing ..)
      exact ⟨rfl, rfl⟩

/-- What an event is for the routing table. -/
def tableEvents (w : WordSize) (c : DhtClient) (env : Env) : Event → List TableEvent
  | .lookupAsync id =>
    if id = c.id ∨ (c.lookupTable id).isSome then [] else [.search env.searchTime id]
  | .bootstrap _ => []
  | .setListen _ => []
  | .refresh nbits drawn => [.search env.searchTime (refreshId c.id nbits drawn)]
  | .receive memory len sockaddr =>
    match Msg.read w memory len with
    | some msg => msgEvents env sockaddr msg
    | none => []
  | .timeout source =>
    match c.sources source with
    | some (.query id iter) => c.timeoutEvents env id iter
    | _ => []

/-- What an event does to the table. -/
lemma step_routed (S : Sodium) (w : WordSize) (random : Nat → DhtKey) (c : DhtClient) (env : Env)
    (event : Event) : Routed c (c.step S w random env event) (c.tableEvents w env event) := by
  cases event with
  | lookupAsync id => exact lookupAsync_routed _ id
  | bootstrap address => exact .quiet (bootstrap_routing address)
  | setListen listen => exact .quiet rfl
  | refresh nbits drawn => exact refresh_routed _ nbits drawn
  | receive memory len sockaddr =>
    rw [step, receive, tableEvents]
    cases Msg.read w memory len with
    | none => exact .quiet rfl
    | some msg => exact receiveMsg_routed sockaddr msg
  | timeout source =>
    rw [step, fire, tableEvents]
    cases c.sources source with
    | none => exact .quiet rfl
    | some timer =>
      cases timer with
      | query id iter =>
        have R := queryTimeout_routed (c.sourceRemove source) env id iter
        exact (Routed.quiet (sourceRemove_routing c source)).trans R
      | connection nonce => exact .quiet (connectionTimeout_routing ..)

/-! ## Runs -/

/-- The events that reach the routing table in a run from a client. -/
def runEvents (S : Sodium) (w : WordSize) (random : Nat → DhtKey) (c : DhtClient) :
    List (Env × Event) → List TableEvent
  | [] => []
  | e :: events =>
    c.tableEvents w e.1 e.2 ++ runEvents S w random (c.step S w random e.1 e.2) events

/-- What a run does to the table. -/
lemma foldl_routed (S : Sodium) (w : WordSize) (random : Nat → DhtKey) (c : DhtClient)
    (events : List (Env × Event)) :
    Routed c (events.foldl (fun c e => c.step S w random e.1 e.2) c)
      (runEvents S w random c events) := by
  induction events generalizing c with
  | nil => exact .quiet rfl
  | cons e events ih => exact (step_routed S w random c e.1 e.2).trans (ih _)

/-- The id stays. -/
lemma run_id (S : Sodium) (w : WordSize) (random : Nat → DhtKey) (key : DhtKey)
    (events : List (Env × Event)) : (run S w random key events).id = (new S key).id :=
  (foldl_routed S w random (new S key) events).id

/-- The table of a client is one that events for the table lead to. -/
theorem routed_run (S : Sodium) (w : WordSize) (random : Nat → DhtKey) (key : DhtKey)
    (events : List (Env × Event)) : (run S w random key events).table =
      DhtTable.run (new S key).id
        ((runEvents S w random (new S key) events).flatMap (TableEvent.calls (new S key).id)) :=
  (foldl_routed S w random (new S key) events).table

/-- The own id is never reported alive. -/
lemma calls_foreign (own : DhtId) (tableEvents : List TableEvent) :
    ∀ call ∈ tableEvents.flatMap (TableEvent.calls own), Buckets.Foreign own call := by
  intro call mem
  obtain ⟨event, -, mem⟩ := List.mem_flatMap.mp mem
  cases event with
  | lookupReq updateTime searchTime addr srcid dstid =>
    rw [TableEvent.calls] at mem
    split at mem
    · cases mem
    · rename_i other
      rcases List.mem_pair.mp mem with rfl | rfl
      · exact fun _ => other
      · trivial
  | lookupRes updateTime addr srcid =>
    rw [TableEvent.calls] at mem
    split at mem
    · cases mem
    · rename_i other
      obtain rfl := List.mem_singleton.mp mem
      exact fun _ => other
  | queryTimeout updateTime addr id =>
    obtain rfl := List.mem_singleton.mp mem
    exact fun alive => absurd alive Bool.false_ne_true
  | search searchTime id =>
    obtain rfl := List.mem_singleton.mp mem
    trivial

/-- The routing table has its invariant after every run of a client, and no more buckets than an id has
    bits. -/
theorem invariant_run (S : Sodium) (w : WordSize) (random : Nat → DhtKey) (key : DhtKey)
    (events : List (Env × Event)) :
    DhtTable.Invariant (run S w random key events).id (run S w random key events).table ∧
    (run S w random key events).table.buckets.length ≤ 8 * DHT_ID_SIZE := by
  rw [routed_run, run_id]
  refine ⟨?_, DhtTable.run_length_le _ _⟩
  exact (DhtTable.repr_run _ _).invariant (Buckets.valid_run _ _)
    (Buckets.run_own (calls_foreign _ _))

end DhtClient

end Nanotalk
