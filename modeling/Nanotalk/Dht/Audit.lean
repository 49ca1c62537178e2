import Nanotalk.Dht.Books
import Nanotalk.Dht.Routing

/-!
# What holds of every lookup, connection and action

An `Audit` says what is to be checked: the addresses that lookups know, the callbacks that wait for
an id, the connections, and what a client does. `Audit.Closed` lists what the callbacks of a client
do with them, each once. `run_passed`: a closed audit passes in every run, if it does for what the
events bring (`Admitted`).
-/

namespace Nanotalk
open Glib
open DhtClient (Env)

/-- History that says nothing of addresses and callbacks. -/
def Action.silent : Action → Bool
  | attempt .. => true
  | answer _ => true
  | derive _ => true
  | lookupNew _ => true
  | offered .. => true
  | request .. => true
  | answered .. => true
  | timedOut .. => true
  | lookupFailed .. => true
  | _ => false

/-- A connection with the keys of a session. -/
def DhtConnection.withKeys (S : Sodium) (k : DhtConnection) (s : Session) : DhtConnection :=
  { k with
    encKey := some (DhtKey.derive S s.shared s.nonce s.peerNonce).1
    decKey := some (DhtKey.derive S s.shared s.peerNonce s.nonce).1
    authTag := some (DhtKey.derive S s.shared s.peerNonce s.nonce).2
    session := some s }

/-- What is checked of a client. -/
structure Audit where
  /-- the addresses that lookups know -/
  addr : DhtAddress → Prop
  /-- the messages that come in -/
  heard : GSocketAddress → Msg → Prop
  /-- the callbacks that wait for an id -/
  waits : Nat → DhtId → Prop
  connection : DhtConnection → Prop
  action : Action → Prop

namespace Audit

/-- What a client does with what passes, passes. -/
structure Closed (A : Audit) (S : Sodium) (own : DhtId) (pubkey privkey : DhtKey) : Prop where
  silent : ∀ action : Action, action.silent = true → A.action action
  ask : ∀ addr id, A.addr addr → A.action (.sendTo 0 (some addr.deserialize) (.lookupReq own id))
  fail : ∀ r id, A.waits r id → A.action (.completeInIdle r ⟨.hostNotFound, "Lookup failed"⟩)
  cancel : ∀ r id, A.waits r id → A.action (.completeInIdle r ⟨.cancelled, "Operation cancelled"⟩)
  expire : ∀ r id, A.waits r id → A.action (.completeInIdle r ⟨.timedOut, "Operation timed out"⟩)
  attempt : ∀ r id addr nonce source, A.waits r id → id ≠ own → A.addr addr →
    A.connection ⟨id, nonce, false, source, none, some addr.deserialize, some r, none, none, none,
      none⟩ ∧
    A.action (.sendTo 0 (some addr.deserialize) (.connectionReq pubkey nonce))
  waiting : ∀ k r, A.connection k → k.result = some r → A.waits r k.id
  respond : ∀ s : Session, ∀ sockaddr socket source,
    A.heard sockaddr (.connectionReq s.pubkey s.peerNonce) →
    DhtId.fromPubkey S s.pubkey ≠ own → DhtKey.makeShared S privkey s.pubkey = some s.shared →
    A.connection (DhtConnection.withKeys S ⟨DhtId.fromPubkey S s.pubkey, s.nonce, true, source,
      some socket, none, none, none, none, none, none⟩ s) ∧
    A.action (.sendTo socket (some sockaddr) (.connectionRes1 pubkey s.nonce s.peerNonce
      (DhtKey.derive S s.shared s.nonce s.peerNonce).2))
  derive : ∀ k, ∀ s : Session, A.connection k → k.isRemote = false → k.nonce = s.nonce →
    k.id = DhtId.fromPubkey S s.pubkey → DhtKey.makeShared S privkey s.pubkey = some s.shared →
    A.connection (k.withKeys S s)
  confirm : ∀ k, ∀ s : Session, ∀ sockaddr socket, A.connection k → k.isRemote = false →
    k.nonce = s.nonce → k.id = DhtId.fromPubkey S s.pubkey →
    DhtKey.makeShared S privkey s.pubkey = some s.shared →
    A.heard sockaddr (.connectionRes1 s.pubkey s.peerNonce s.nonce
      (DhtKey.derive S s.shared s.peerNonce s.nonce).2) →
    A.action (.sendTo socket k.sockaddr (.connectionRes2 s.peerNonce
      (DhtKey.derive S s.shared s.nonce s.peerNonce).2)) ∧
    A.action (.connect (some socket) sockaddr) ∧
    ∀ r, k.result = some r →
      A.action (.complete r { k.withKeys S s with socket := some socket, timeoutSource := 0 })
  accept : ∀ k sockaddr authTag, A.connection k → k.isRemote = true → k.authTag = some authTag →
    A.heard sockaddr (.connectionRes2 k.nonce authTag) →
    A.action (.connect k.socket sockaddr) ∧ A.action (.newConnection k)

/-- A lookup passes. -/
structure Lookup (A : Audit) (l : DhtLookup) : Prop where
  queries : ∀ q ∈ l.querySequence, A.addr q.addr
  results : ∀ r ∈ l.results, A.waits r l.id

/-- A client passes. -/
structure Passed (A : Audit) (own : DhtId) (pubkey privkey : DhtKey) (c : DhtClient) : Prop where
  id : c.id = own
  pubkey : c.pubkey = pubkey
  privkey : c.privkey = privkey
  lookups : ∀ id l, c.lookupTable id = some l → A.Lookup l
  connections : ∀ nonce k, c.connectionTable nonce = some k → A.connection k
  log : ∀ action ∈ c.log, A.action action

/-- What an event brings passes. -/
def Admitted (A : Audit) (own : DhtId) (w : WordSize) (c : DhtClient) (env : Env) : Event → Prop
  | .lookupAsync id =>
    (if id = own then A.action (.completeInIdle c.calls ⟨.invalidArgument, "Invalid ID"⟩)
      else A.waits c.calls id) ∧
    ∀ n ∈ (c.search env.searchTime id).1, A.addr n.addr
  | .bootstrap address => A.addr (DhtAddress.serialize address)
  | .setListen _ => True
  | .refresh nbits drawn =>
    ∀ n ∈ (c.search env.searchTime (DhtClient.refreshId c.id nbits drawn)).1, A.addr n.addr
  | .receive memory len sockaddr =>
    match Msg.read w memory len with
    | some (.lookupReq srcid dstid) => srcid ≠ own →
      A.action (.sendTo 0 (some sockaddr) (.lookupRes own dstid
        ((c.update env.updateTime srcid (DhtAddress.serialize sockaddr) true).search env.searchTime
          dstid).1))
    | some (.lookupRes srcid _ nodes) => srcid ≠ own → ∀ n ∈ nodes, A.addr n.addr
    | some msg => A.heard sockaddr msg
    | none => True
  | .timeout _ => True

variable {A : Audit} {S : Sodium} {own : DhtId} {pubkey privkey : DhtKey} {c c' : DhtClient}
  {l : DhtLookup} {k : DhtConnection} {q : DhtQuery}

/-! ## Lookups that pass -/

/-- A new lookup knows no address, and its callbacks wait for its id. -/
lemma lookup_new (id : DhtId) {results : List Nat} (waits : ∀ r ∈ results, A.waits r id) :
    A.Lookup (.new id results) :=
  ⟨List.forall_mem_nil _, waits⟩

/-- Other callbacks, which wait for the id too. -/
lemma Lookup.setResults (L : A.Lookup l) {results : List Nat}
    (waits : ∀ r ∈ results, A.waits r l.id) : A.Lookup { l with results := results } :=
  ⟨L.queries, waits⟩

/-- A query for a node with a known address. -/
lemma Lookup.insertQuery (L : A.Lookup l) {node : MsgNode} (known : A.addr node.addr) :
    A.Lookup (l.insertQuery node) := by
  unfold DhtLookup.insertQuery
  split
  · exact L
  · refine ⟨fun q mem => ?_, L.results⟩
    rcases List.mem_cons.mp ((DhtLookup.insertSorted_perm _ _).mem_iff.mp mem) with rfl | mem
    · exact known
    · exact L.queries q mem

/-- A query is replaced by one with a known address. -/
lemma Lookup.setQuery (L : A.Lookup l) (known : A.addr q.addr) : A.Lookup (l.setQuery q) := by
  refine ⟨fun x mem => ?_, L.results⟩
  obtain ⟨old, there, rfl⟩ := List.mem_map.mp mem
  split
  · exact known
  · exact L.queries old there

/-- A query is sorted anew, wherever it ends up. -/
lemma Lookup.sortChanged (L : A.Lookup l) (known : A.addr q.addr) : A.Lookup (l.sortChanged q) := by
  refine ⟨fun x mem => ?_, L.results⟩
  unfold DhtLookup.sortChanged at mem
  dsimp only at mem
  split at mem
  · exact (L.setQuery known).queries x mem
  · rcases List.mem_cons.mp ((DhtLookup.insertSorted_perm _ _).mem_iff.mp mem) with rfl | mem
    · exact known
    · exact L.queries x (List.mem_of_mem_filter mem)

/-- The number of sources is not checked. -/
lemma Lookup.setSources (L : A.Lookup l) (n : Nat) : A.Lookup { l with numSources := n } :=
  ⟨L.queries, L.results⟩

/-- The node of a query has answered, and is known by its address. -/
lemma Lookup.answer (L : A.Lookup l) (mem : q ∈ l.querySequence) (srcid : DhtId) :
    A.Lookup (l.answer q srcid) := by
  have known := L.queries q mem
  unfold DhtLookup.answer
  dsimp only
  split
  · exact (L.setSources _).sortChanged known
  · exact (L.setSources _).setQuery known

/-- A query times out, and keeps its address. -/
lemma Lookup.timeOut (L : A.Lookup l) (mem : q ∈ l.querySequence) : A.Lookup (l.timeOut q) := by
  have known := L.queries q mem
  exact Lookup.setSources (L.setQuery (q := { q with isFinished := true, timeoutSource := 0 }) known) _

/-! ## Clients that pass -/

namespace Passed

/-- The tables and the log stay as they are. -/
lemma congr (P : A.Passed own pubkey privkey c)
    (self : (c'.id, c'.pubkey, c'.privkey) = (c.id, c.pubkey, c.privkey))
    (lookups : c'.lookupTable = c.lookupTable) (connections : c'.connectionTable = c.connectionTable)
    (log : c'.log = c.log) : A.Passed own pubkey privkey c' where
  id := (congrArg Prod.fst self).trans P.id
  pubkey := (congrArg (fun x => x.2.1) self).trans P.pubkey
  privkey := (congrArg (fun x => x.2.2) self).trans P.privkey
  lookups := lookups ▸ P.lookups
  connections := connections ▸ P.connections
  log := log ▸ P.log

/-- An action that passes is done. -/
lemma act (P : A.Passed own pubkey privkey c) {action : Action} (passes : A.action action) :
    A.Passed own pubkey privkey (c.act action) :=
  ⟨P.id, P.pubkey, P.privkey, P.lookups, P.connections, fun x mem => by
    rcases List.mem_cons.mp mem with rfl | mem
    · exact passes
    · exact P.log x mem⟩

/-- A timeout is removed. -/
lemma sourceRemove (P : A.Passed own pubkey privkey c) (source : Nat) :
    A.Passed own pubkey privkey (c.sourceRemove source) :=
  P.congr rfl rfl rfl rfl

/-- A socket is made. -/
lemma socketNew (P : A.Passed own pubkey privkey c) : A.Passed own pubkey privkey c.socketNew.2 :=
  P.congr rfl rfl rfl rfl

/-- What one round keeps, a loop keeps. -/
lemma foldl {β : Type} {f : DhtClient → β → DhtClient} {xs : List β}
    (P : A.Passed own pubkey privkey c)
    (one : ∀ c, ∀ x ∈ xs, A.Passed own pubkey privkey c → A.Passed own pubkey privkey (f c x)) :
    A.Passed own pubkey privkey (xs.foldl f c) := by
  induction xs generalizing c with
  | nil => exact P
  | cons x xs ih =>
    exact ih (one c x List.mem_cons_self P) fun c y mem => one c y (List.mem_cons_of_mem _ mem)

/-- An entry of `lookup_table` that passes, or none. -/
lemma setLookup (P : A.Passed own pubkey privkey c) (id : DhtId) {v : Option DhtLookup}
    (L : ∀ l ∈ v, A.Lookup l) :
    A.Passed own pubkey privkey { c with lookupTable := Function.update c.lookupTable id v } := by
  refine ⟨P.id, P.pubkey, P.privkey, fun id' l here => ?_, P.connections, P.log⟩
  dsimp only at here
  rw [Function.update_apply] at here
  split at here
  · exact L l here
  · exact P.lookups id' l here

/-- An entry of `connection_table` that passes, or none. -/
lemma setConnection (P : A.Passed own pubkey privkey c) (nonce : DhtKey) {v : Option DhtConnection}
    (K : ∀ k ∈ v, A.connection k) : A.Passed own pubkey privkey
      { c with connectionTable := Function.update c.connectionTable nonce v } := by
  refine ⟨P.id, P.pubkey, P.privkey, P.lookups, fun nonce' k here => ?_, P.log⟩
  dsimp only at here
  rw [Function.update_apply] at here
  split at here
  · exact K k here
  · exact P.connections nonce' k here

/-- A lookup that passes is put back. -/
lemma putLookup (P : A.Passed own pubkey privkey c) (L : A.Lookup l) :
    A.Passed own pubkey privkey (c.putLookup l) :=
  P.setLookup l.id fun _ e => Option.mem_some.mp e ▸ L

/-- A connection that passes is put back. -/
lemma putConnection (P : A.Passed own pubkey privkey c) (K : A.connection k) :
    A.Passed own pubkey privkey (c.putConnection k) :=
  P.setConnection k.nonce fun _ e => Option.mem_some.mp e ▸ K

/-- A connection is taken out. -/
lemma connectionSteal (P : A.Passed own pubkey privkey c) (nonce : DhtKey) :
    A.Passed own pubkey privkey (c.connectionSteal nonce) :=
  P.setConnection nonce fun _ e => absurd e (Option.not_mem_none _)

section Closed

variable (C : A.Closed S own pubkey privkey)
include C

/-- The callbacks of a lookup are cancelled. -/
lemma lookupDestroy (P : A.Passed own pubkey privkey c) (L : A.Lookup l) :
    A.Passed own pubkey privkey (c.lookupDestroy l) := by
  unfold DhtClient.lookupDestroy
  rw [DhtClient.queryDestroy_foldl]
  refine foldl ?_ fun c r mem P => P.act (C.cancel r l.id (L.results r mem))
  exact P.congr rfl rfl rfl rfl

/-- A lookup is removed, if it is there. -/
lemma lookupRemove (P : A.Passed own pubkey privkey c) (id : DhtId) :
    A.Passed own pubkey privkey (c.lookupRemove id) := by
  unfold DhtClient.lookupRemove
  split
  · rename_i l here
    exact (P.setLookup id fun _ e => absurd e (Option.not_mem_none _)).lookupDestroy C (P.lookups id l here)
  · exact P

/-- A lookup that passes replaces the one that is there. -/
lemma lookupReplace (P : A.Passed own pubkey privkey c) (L : A.Lookup l) :
    A.Passed own pubkey privkey (c.lookupReplace l) := by
  unfold DhtClient.lookupReplace
  split
  · rename_i old here
    exact (P.putLookup L).lookupDestroy C (P.lookups l.id old here)
  · exact P.putLookup L

/-- The callback of a connection is cancelled, if it waits. -/
lemma connectionDestroy (P : A.Passed own pubkey privkey c)
    (waits : ∀ r, k.result = some r → A.waits r k.id) :
    A.Passed own pubkey privkey (c.connectionDestroy k) := by
  have P' : A.Passed own pubkey privkey
      (if k.timeoutSource > 0 then c.sourceRemove k.timeoutSource else c) := by
    split
    · exact P.sourceRemove _
    · exact P
  unfold DhtClient.connectionDestroy
  dsimp only
  split
  · rename_i r e
    exact P'.act (C.cancel r k.id (waits r e))
  · exact P'

/-- A connection that passes replaces the one that is there. -/
lemma connectionReplace (P : A.Passed own pubkey privkey c) (K : A.connection k) :
    A.Passed own pubkey privkey (c.connectionReplace k) := by
  unfold DhtClient.connectionReplace
  split
  · rename_i old here
    exact (P.putConnection K).connectionDestroy C fun r => C.waiting old r (P.connections _ _ here)
  · exact P.putConnection K

/-! ## Lookups -/

/-- Queries are sent to addresses that the lookup knows. -/
lemma dispatchLoop {todo : List DhtQuery} (numAlive : Nat) (P : A.Passed own pubkey privkey c)
    (L : A.Lookup l) (known : ∀ q ∈ todo, A.addr q.addr) :
    A.Passed own pubkey privkey (DhtClient.dispatchLoop todo c l numAlive).1 ∧
    A.Lookup (DhtClient.dispatchLoop todo c l numAlive).2 := by
  induction todo generalizing c l numAlive with
  | nil => exact ⟨P, L⟩
  | cons q rest ih =>
    obtain ⟨here, known⟩ := List.forall_mem_cons.mp known
    unfold DhtClient.dispatchLoop
    split
    · dsimp only
      split
      · have L' := Lookup.setSources (L.setQuery (q := { q with timeoutSource := c.nextSource }) here)
          (guintInc l.numSources)
        refine ih _ (putLookup ?_ L') L' known
        have asked := P.act (C.silent (.request l.id q l.querySequence) rfl)
        have sent := asked.act (C.ask q.addr l.id here)
        rw [← P.id] at sent
        refine P.id ▸ sent.congr rfl rfl rfl rfl
      · exact ih _ P L known
    · exact ⟨P, L⟩

/-- A lookup goes on, or fails for the callbacks that wait. -/
lemma lookupDispatch (P : A.Passed own pubkey privkey c) (L : A.Lookup l) :
    A.Passed own pubkey privkey (c.lookupDispatch l) := by
  have loop := dispatchLoop C 0 P L L.queries
  unfold DhtClient.lookupDispatch
  generalize DhtClient.dispatchLoop l.querySequence c l 0 = r at loop
  obtain ⟨c', l'⟩ := r
  obtain ⟨P', L'⟩ := loop
  dsimp only
  split
  · refine lookupRemove C (putLookup ?_ (L'.setResults (List.forall_mem_nil _))) _
    refine foldl (P'.act (C.silent _ rfl)) fun c r mem P => P.act (C.fail r l'.id (L'.results r mem))
  · exact P'

/-- A connection is requested at a known address, for a callback that waits. -/
lemma requestConnection {id : DhtId} {addr : DhtAddress} {r : Nat} (random : Nat → DhtKey)
    (P : A.Passed own pubkey privkey c) (foreign : id ≠ own) (known : A.addr addr)
    (waits : A.waits r id) :
    A.Passed own pubkey privkey (c.requestConnection random id addr r) := by
  obtain ⟨K, sent⟩ := C.attempt r id addr (random c.draws) c.nextSource waits foreign known
  have drawn := P.act (C.silent (.attempt id (random c.draws)) rfl)
  have armed : A.Passed own pubkey privkey (DhtClient.timeoutAdd
      ((c.makeRandom random).2.act (.attempt id (random c.draws)))
      (.connection (random c.draws))).2 := drawn.congr rfl rfl rfl rfl
  have pending := armed.connectionReplace C K
  rw [← pending.pubkey] at sent
  exact pending.act sent

/-- Nodes with known addresses become queries, or connections to the node looked for. -/
lemma updateLoop {nodes : List MsgNode} (random : Nat → DhtKey) (P : A.Passed own pubkey privkey c)
    (L : A.Lookup l) (known : ∀ n ∈ nodes, A.addr n.addr) :
    A.Passed own pubkey privkey (c.updateLoop random l nodes) := by
  induction nodes generalizing c l with
  | nil => exact P.lookupDispatch C L
  | cons node nodes ih =>
    obtain ⟨here, known⟩ := List.forall_mem_cons.mp known
    unfold DhtClient.updateLoop
    split
    · exact ih P L known
    · rename_i foreign
      split
      · rename_i target
        rw [target, P.id] at foreign
        refine lookupRemove C (putLookup ?_ (L.setResults (List.forall_mem_nil _))) _
        exact foldl P fun c r mem P => P.requestConnection C random foreign here (L.results r mem)
      · have L' := L.insertQuery here
        exact ih (P.putLookup L') L' known

/-- A lookup takes nodes with known addresses. -/
lemma lookupUpdate {nodes : List MsgNode} (random : Nat → DhtKey)
    (P : A.Passed own pubkey privkey c) (L : A.Lookup l) (known : ∀ n ∈ nodes, A.addr n.addr) :
    A.Passed own pubkey privkey (c.lookupUpdate random l nodes) :=
  (P.act (C.silent _ rfl)).updateLoop C random L known

/-- A new lookup is put into the table. -/
lemma putNew (P : A.Passed own pubkey privkey c) {id : DhtId} {results : List Nat}
    (waits : ∀ r ∈ results, A.waits r id) :
    A.Passed own pubkey privkey ((c.act (.lookupNew id)).putLookup (.new id results)) :=
  (P.act (C.silent _ rfl)).putLookup (lookup_new id waits)

/-- A call is refused, joins a lookup, or starts one with what the table knows. -/
lemma lookupAsync (random : Nat → DhtKey) (now : Int) (id : DhtId)
    (P : A.Passed own pubkey privkey c) (B : c.books.Consistent none)
    (refused : id = own → A.action (.completeInIdle c.calls ⟨.invalidArgument, "Invalid ID"⟩))
    (waits : id ≠ own → A.waits c.calls id) (known : ∀ n ∈ (c.search now id).1, A.addr n.addr) :
    A.Passed own pubkey privkey (c.lookupAsync random now id) := by
  have called : A.Passed own pubkey privkey { c with calls := c.calls + 1 } :=
    P.congr rfl rfl rfl rfl
  unfold DhtClient.lookupAsync
  dsimp only
  split
  · rename_i self
    exact called.act (refused (self.trans P.id))
  · rename_i foreign
    rw [P.id] at foreign
    split
    · rename_i l here
      obtain ⟨rfl, -⟩ := B.lookup id l here
      have L := P.lookups l.id l here
      exact called.putLookup (L.setResults (List.forall_mem_cons.mpr ⟨waits foreign, L.results⟩))
    · have made := called.putNew C (List.forall_mem_singleton.mpr (waits foreign))
      exact lookupUpdate C random (made.congr rfl rfl rfl rfl)
        (lookup_new id (List.forall_mem_singleton.mpr (waits foreign))) known

/-- The lookup for the own id asks a known address. -/
lemma bootstrap (random : Nat → DhtKey) (address : GSocketAddress)
    (P : A.Passed own pubkey privkey c) (known : A.addr (.serialize address)) :
    A.Passed own pubkey privkey (c.bootstrap random address) := by
  have node : ∀ n ∈ [(⟨⟨fun _ => 0⟩, .serialize address⟩ : MsgNode)], A.addr n.addr :=
    List.forall_mem_singleton.mpr known
  unfold DhtClient.bootstrap
  dsimp only
  split
  · rename_i l here
    exact P.lookupUpdate C random (P.lookups _ l here) node
  · exact (P.putNew C (List.forall_mem_nil _)).lookupUpdate C random
      (lookup_new _ (List.forall_mem_nil _)) node

/-- A lookup for a random id starts with what the table knows. -/
lemma refresh (random : Nat → DhtKey) (now : Int) (nbits : Nat) (drawn : Nat → UInt8)
    (P : A.Passed own pubkey privkey c)
    (known : ∀ n ∈ (c.search now (DhtClient.refreshId c.id nbits drawn)).1, A.addr n.addr) :
    A.Passed own pubkey privkey (c.refresh random now nbits drawn) := by
  have new : A.Lookup (.new (DhtClient.refreshId c.id nbits drawn) []) :=
    lookup_new _ (List.forall_mem_nil _)
  have made := (P.act (C.silent (.lookupNew (DhtClient.refreshId c.id nbits drawn)) rfl)).lookupReplace
    C new
  have found := DhtClient.search_routing (DhtClient.lookupReplace_routing
    (c.act (.lookupNew (DhtClient.refreshId c.id nbits drawn)))
    (.new (DhtClient.refreshId c.id nbits drawn) [])) now (DhtClient.refreshId c.id nbits drawn)
  rw [DhtClient.search_routing (DhtClient.act_routing c _)] at found
  rw [← found] at known
  exact lookupUpdate C random (made.congr rfl rfl rfl rfl) new known

/-! ## Datagrams -/

omit C in
/-- A request is replied to with what passes. -/
lemma lookupReq (env : Env) (sockaddr : GSocketAddress) (srcid dstid : DhtId)
    (P : A.Passed own pubkey privkey c)
    (reply : srcid ≠ own → A.action (.sendTo 0 (some sockaddr) (.lookupRes own dstid
      ((c.update env.updateTime srcid (DhtAddress.serialize sockaddr) true).search env.searchTime
        dstid).1))) :
    A.Passed own pubkey privkey (c.lookupReq env sockaddr srcid dstid) := by
  unfold DhtClient.lookupReq
  split
  · exact P
  · rename_i foreign
    rw [P.id] at foreign
    have heard : A.Passed own pubkey privkey ((c.update env.updateTime srcid
        (DhtAddress.serialize sockaddr) true).search env.searchTime dstid).2 :=
      P.congr rfl rfl rfl rfl
    have sent := reply foreign
    rw [← heard.id] at sent
    exact heard.act sent

/-- A response brings a lookup nodes with known addresses. -/
lemma lookupRes (random : Nat → DhtKey) (env : Env) (sockaddr : GSocketAddress)
    (srcid dstid : DhtId) {nodes : List MsgNode} (P : A.Passed own pubkey privkey c)
    (B : c.books.Consistent none) (known : srcid ≠ own → ∀ n ∈ nodes, A.addr n.addr) :
    A.Passed own pubkey privkey (c.lookupRes random env sockaddr srcid dstid nodes) := by
  have heard : A.Passed own pubkey privkey
      (c.update env.updateTime srcid (DhtAddress.serialize sockaddr) true) := P.congr rfl rfl rfl rfl
  rcases DhtClient.lookupRes_cases random env sockaddr B srcid dstid nodes with
    e | e | ⟨l, q, here, -, foreign, mem, -, e⟩
  · rw [e]
    exact P
  · rw [e]
    exact heard
  · have L := (P.lookups _ l here).answer mem srcid
    have answered := heard.act (C.silent (.answered l.id q srcid nodes) rfl)
    rw [e]
    refine lookupUpdate C random (putLookup ?_ L) L (known (P.id ▸ foreign))
    unfold DhtClient.queryDestroy
    split
    · exact answered.sourceRemove _
    · exact answered

/-- A request that was heard is answered. -/
lemma connectionReq (random : Nat → DhtKey) (env : Env) (sockaddr : GSocketAddress)
    (peer nonce : DhtKey) (P : A.Passed own pubkey privkey c)
    (heard : A.heard sockaddr (.connectionReq peer nonce)) :
    A.Passed own pubkey privkey (c.connectionReq S random env sockaddr peer nonce) := by
  unfold DhtClient.connectionReq
  dsimp only
  split
  · exact P
  · rename_i foreign
    split
    · split
      · exact P
      · rename_i shared e
        split
        · exact P
        · rw [P.id] at foreign
          rw [P.privkey] at e
          obtain ⟨K, sent⟩ := C.respond ⟨peer, shared, random c.draws, nonce⟩ sockaddr c.nextSocket
            c.nextSource heard foreign e
          have drawn := P.act (C.silent (.answer ⟨peer, shared, random c.draws, nonce⟩) rfl)
          have armed : A.Passed own pubkey privkey (DhtClient.timeoutAdd
              ((c.socketNew.2.makeRandom random).2.act (.answer ⟨peer, shared, random c.draws, nonce⟩))
              (.connection (random c.draws))).2 := drawn.congr rfl rfl rfl rfl
          have answered := armed.connectionReplace C K
          rw [← answered.pubkey] at sent
          exact answered.act sent
    · exact P

/-- A response that was heard derives keys, and completes the callback if the tag is right. -/
lemma connectionRes1 (env : Env) (sockaddr : GSocketAddress) (peer nonce peerNonce authTag : DhtKey)
    (P : A.Passed own pubkey privkey c) (B : c.books.Consistent none)
    (heard : A.heard sockaddr (.connectionRes1 peer nonce peerNonce authTag)) :
    A.Passed own pubkey privkey (c.connectionRes1 S env sockaddr peer nonce peerNonce authTag) := by
  unfold DhtClient.connectionRes1
  dsimp only
  split
  · exact P
  · rename_i k here
    obtain ⟨rfl, -⟩ := B.connection _ _ here
    split
    · exact P
    · rename_i mine
      obtain ⟨isOwn, same⟩ := not_or.mp mine
      split
      · exact P
      · rename_i shared e
        rw [P.privkey] at e
        have K := P.connections _ k here
        have isOwn : k.isRemote = false := by simpa using isOwn
        have same := not_not.mp same
        have derived := (P.act (C.silent (.derive ⟨peer, shared, k.nonce, nonce⟩) rfl)).putConnection
          (C.derive k ⟨peer, shared, k.nonce, nonce⟩ K isOwn rfl same e)
        split
        · exact derived
        · rename_i verified
          split
          · exact derived
          · rw [← not_not.mp verified] at heard
            obtain ⟨response, connect, result⟩ := C.confirm k ⟨peer, shared, k.nonce, nonce⟩ sockaddr
              c.nextSocket K isOwn rfl same e heard
            have connected := act ((act derived.socketNew response).sourceRemove k.timeoutSource) connect
            have left := connected.connectionSteal k.nonce
            split
            · rename_i r e'
              exact left.act (result r e')
            · exact left

/-- A confirmation that was heard signals the connection if the tag is right. -/
lemma connectionRes2 (sockaddr : GSocketAddress) (peerNonce authTag : DhtKey)
    (P : A.Passed own pubkey privkey c) (B : c.books.Consistent none)
    (heard : A.heard sockaddr (.connectionRes2 peerNonce authTag)) :
    A.Passed own pubkey privkey (c.connectionRes2 sockaddr peerNonce authTag) := by
  unfold DhtClient.connectionRes2
  dsimp only
  split
  · exact P
  · rename_i k here
    obtain ⟨rfl, -⟩ := B.connection _ _ here
    have K := P.connections _ k here
    split
    · exact P
    · rename_i mine
      obtain ⟨remote, verified⟩ := not_or.mp mine
      obtain ⟨connect, result⟩ := C.accept k sockaddr authTag K (by simpa using remote)
        (not_not.mp verified) heard
      refine connectionDestroy C ?_ fun r => C.waiting k r K
      split
      · exact act (act (P.connectionSteal k.nonce) connect) result
      · exact P.connectionSteal k.nonce

/-! ## Timeouts -/

omit C in
/-- A connection that has given up its source and its callback is destroyed. -/
lemma dismiss (P : A.Passed own pubkey privkey c) (k : DhtConnection) : A.Passed own pubkey privkey
    ((c.putConnection { k with result := none, timeoutSource := 0 }).connectionRemove k.nonce) := by
  unfold DhtClient.connectionRemove
  rw [show (c.putConnection { k with result := none, timeoutSource := 0 }).connectionTable k.nonce =
    some { k with result := none, timeoutSource := 0 } from Function.update_self _ _ _]
  exact (P.connectionSteal k.nonce).congr rfl rfl (Function.update_idem _ _ _) rfl

/-- The callback of a connection times out, if it waits. -/
lemma connectionTimeout (nonce : DhtKey) (P : A.Passed own pubkey privkey c) :
    A.Passed own pubkey privkey (c.connectionTimeout nonce) := by
  unfold DhtClient.connectionTimeout
  split
  · exact P
  · rename_i k here
    have told : ∀ r, k.result = some r →
        A.action (.completeInIdle r ⟨.timedOut, "Operation timed out"⟩) :=
      fun r e => C.expire r k.id (C.waiting k r (P.connections _ k here) e)
    refine dismiss ?_ k
    split
    · rename_i r e
      exact P.act (told r e)
    · exact P

/-- A timeout fires. -/
lemma fire (env : Env) (source : Nat) (P : A.Passed own pubkey privkey c)
    (B : c.books.Consistent none) : A.Passed own pubkey privkey (c.fire env source) := by
  cases e : c.sources source with
  | none =>
    rw [DhtClient.fire, e]
    exact P
  | some timer =>
    have removed := P.sourceRemove source
    cases timer with
    | query id i =>
      obtain ⟨l, q, here, mem, rfl, -, eq⟩ := DhtClient.queryTimeout_eq env B e
      rw [eq]
      have L := (P.lookups _ l here).timeOut mem
      have told := removed.act (C.silent (.timedOut l.id q) rfl)
      exact lookupDispatch C (putLookup (told.congr rfl rfl rfl rfl) L) L
    | connection nonce =>
      rw [DhtClient.fire, e]
      exact removed.connectionTimeout C nonce

end Closed

variable (S : Sodium) (w : WordSize) (random : Nat → DhtKey)

/-- What passes before an event passes after it. -/
lemma step_passed (C : A.Closed S own pubkey privkey) (P : A.Passed own pubkey privkey c)
    (B : c.books.Consistent none) (env : Env) {event : Event} (E : A.Admitted own w c env event) :
    A.Passed own pubkey privkey (c.step S w random env event) := by
  cases event with
  | lookupAsync id =>
    refine P.lookupAsync C random env.searchTime id B (fun self => ?_) (fun foreign => ?_) E.2
    · exact (if_pos self).mp E.1
    · exact (if_neg foreign).mp E.1
  | bootstrap address => exact P.bootstrap C random address E
  | setListen listen => exact P.congr rfl rfl rfl rfl
  | refresh nbits drawn => exact P.refresh C random env.searchTime nbits drawn E
  | receive memory len sockaddr =>
    rw [Admitted] at E
    rw [DhtClient.step, DhtClient.receive]
    cases read : Msg.read w memory len with
    | none => exact P
    | some msg =>
      rw [read] at E
      cases msg with
      | lookupReq srcid dstid => exact P.lookupReq env sockaddr srcid dstid E
      | lookupRes srcid dstid nodes => exact P.lookupRes C random env sockaddr srcid dstid B E
      | connectionReq peer nonce => exact P.connectionReq C random env sockaddr peer nonce E
      | connectionRes1 peer nonce peerNonce authTag =>
        exact P.connectionRes1 C env sockaddr peer nonce peerNonce authTag B E
      | connectionRes2 peerNonce authTag => exact P.connectionRes2 C sockaddr peerNonce authTag B E
  | timeout source => exact P.fire C env source B

/-- What a client does in a run passes, if what the events bring does. -/
theorem run_passed (key : DhtKey)
    (C : A.Closed S (DhtClient.new S key).id (DhtKey.makePublic S key) key)
    (events : List (Env × Event)) (E : ∀ before e after, events = before ++ e :: after →
      A.Admitted (DhtClient.new S key).id w (DhtClient.run S w random key before) e.1 e.2) :
    A.Passed (DhtClient.new S key).id (DhtKey.makePublic S key) key
      (DhtClient.run S w random key events) := by
  induction events using List.reverseRecOn with
  | nil => exact ⟨rfl, rfl, rfl, nofun, nofun, List.forall_mem_nil _⟩
  | append_singleton events e ih =>
    rw [DhtClient.run_concat]
    have earlier : ∀ before e' after, events = before ++ e' :: after →
        A.Admitted (DhtClient.new S key).id w (DhtClient.run S w random key before) e'.1 e'.2 :=
      fun before e' after split => E before e' (after ++ [e]) (by rw [split]; simp)
    exact step_passed S w random C (ih earlier) (DhtClient.run_consistent S w random key events) e.1
      (E events e [] rfl)

end Passed

end Audit

end Nanotalk
