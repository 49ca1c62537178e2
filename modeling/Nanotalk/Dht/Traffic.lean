import Nanotalk.Lib.Runs
import Nanotalk.Dht.Authentication
import Nanotalk.Dht.Frames
import Nanotalk.Dht.Ownership
import Nanotalk.Dht.Receive

/-!
# Traffic

What a client sends, and how often its timeouts fire, is paid for by the events. A query that waits to
be asked stands for a request and a timeout, and so does a callback in a lookup; a query that was asked
and a connection stand for a timeout. This is the `work` that is left to a client, and an event adds no
more to it than its `allowance`.

* `traffic_run`: the datagrams and timeouts of a run, at any rates.
-/

namespace Nanotalk
open Glib
open DhtClient (Env)

/-- What one datagram and one timeout count. -/
structure Rates where
  datagram : Nat
  timeout : Nat

variable {r : Rates}

/-- A request and its timeout. -/
def Rates.request (r : Rates) : Nat := r.datagram + r.timeout

/-- What is left to do about a query. -/
def DhtQuery.work (r : Rates) (query : DhtQuery) : Nat :=
  if query.isFinished then 0 else if query.timeoutSource = 0 then r.request else r.timeout

/-- What a message allows a client to do. -/
def Msg.allowance (r : Rates) : Msg → Nat
  | lookupReq .. => r.datagram
  | lookupRes _ _ nodes => r.request * nodes.length
  | connectionReq .. => r.request
  | connectionRes1 .. => r.datagram
  | connectionRes2 .. => 0

/-- What an event allows a client to do. -/
def Event.allowance (r : Rates) (w : WordSize) : Event → Nat
  | lookupAsync _ => r.request * (1 + DHT_NODE_COUNT)
  | bootstrap _ => r.request
  | setListen _ => 0
  | refresh .. => r.request * DHT_NODE_COUNT
  | receive memory len _ => (Msg.read w memory len).elim 0 (Msg.allowance r)
  | timeout _ => 0

namespace DhtLookup

variable {l l' : DhtLookup} {q q' : DhtQuery}

/-- What is left to do about a lookup. -/
def work (r : Rates) (lookup : DhtLookup) : Nat :=
  (lookup.querySequence.map (DhtQuery.work r)).sum + r.request * lookup.results.length

@[simp] lemma work_new (id : DhtId) (results : List Nat) :
    (new id results).work r = r.request * results.length := Nat.zero_add _

/-- Without its results. -/
lemma work_finish : { l with results := [] }.work r + r.request * l.results.length = l.work r := rfl

/-- With one more result. -/
lemma work_cons (result : Nat) :
    { l with results := result :: l.results }.work r = l.work r + r.request := by
  rw [work, work, List.length_cons, Nat.mul_succ, Nat.add_assoc]

/-- A query that changes changes the work before the lookup. -/
lemma Changed.work (change : Changed l l' q q') : l'.work r + q.work r = l.work r + q'.work r := by
  obtain ⟨rest, p, p'⟩ := change.perm
  have before := (p.map (DhtQuery.work r)).sum_eq
  have after := (p'.map (DhtQuery.work r)).sum_eq
  rw [List.map_cons, List.sum_cons] at before after
  rw [DhtLookup.work, DhtLookup.work, before, after, change.results]
  omega

/-- A query for a node stands for a request. -/
lemma work_insertQuery (node : MsgNode) : (l.insertQuery node).work r ≤ l.work r + r.request := by
  unfold insertQuery
  split
  · exact Nat.le_add_right _ _
  · have p := ((insertSorted_perm (l.newQuery node) l.querySequence).map (DhtQuery.work r)).sum_eq
    rw [List.map_cons, List.sum_cons] at p
    have new : (l.newQuery node).work r = r.request := rfl
    simp only [work]
    omega

end DhtLookup

namespace DhtClient

variable {c c' c'' : DhtClient} {l l' : DhtLookup} {k : DhtConnection} {q : DhtQuery}

/-- What is left to a client to do. -/
noncomputable def work (r : Rates) (c : DhtClient) : Nat :=
  tally c.lookupTable (DhtLookup.work r) + tally c.connectionTable fun _ => r.timeout

/-- What a client has sent and what is left to do. -/
noncomputable def spent (r : Rates) (c : DhtClient) : Nat := r.datagram * c.sent.length + c.work r

/-! ## Primitives -/

/-- The tables stay as they are, and nothing is sent. -/
abbrev Saves (c c' : DhtClient) : Prop :=
  Frame (fun c => (c.lookupTable, c.connectionTable)) (fun action => action.msg.isNone) c c'

lemma Frame.spent (F : Saves c c') : c'.spent r = c.spent r := by
  have same : c'.sent = c.sent := by
    obtain ⟨added, log, silent⟩ := F.log
    have none : added.filterMap Action.msg = [] :=
      List.filterMap_eq_nil_iff.mpr fun action mem => Option.isNone_iff_eq_none.mp (silent action mem)
    rw [sent, log, List.filterMap_append, none]
    rfl
  obtain ⟨lookups, connections⟩ := Prod.mk.inj F.same
  rw [DhtClient.spent, DhtClient.spent, same, work, work, lookups, connections]

lemma spent_act {action : Action} (silent : action.msg = none) :
    (c.act action).spent r = c.spent r :=
  Frame.spent (.done [action] rfl rfl (by simp [silent]))

lemma spent_sendTo (socket : Nat) (dest : Option GSocketAddress) (msg : Msg) :
    (c.act (.sendTo socket dest msg)).spent r = c.spent r + r.datagram := by
  have sent : (c.act (.sendTo socket dest msg)).sent.length = c.sent.length + 1 := rfl
  have work : (c.act (.sendTo socket dest msg)).work r = c.work r := rfl
  rw [spent, spent, sent, work, Nat.mul_succ]
  omega

lemma spent_putLookup : (c.putLookup l).spent r + (c.lookupTable l.id).elim 0 (DhtLookup.work r) =
    c.spent r + l.work r := by
  have e := tally_update c.lookupTable (DhtLookup.work r) l.id (some l)
  simp only [spent, sent, work, putLookup, Option.elim_some] at e ⊢
  omega

/-- The lookup in hand is written back. -/
lemma spent_put (l' : DhtLookup) (here : c.lookupTable l.id = some l) (id : l'.id = l.id) :
    (c.putLookup l').spent r + l.work r = c.spent r + l'.work r := by
  have e := spent_putLookup (c := c) (l := l') (r := r)
  rwa [id, here] at e

lemma spent_lookupDestroy : (c.lookupDestroy l).spent r = c.spent r :=
  Frame.spent (lookupDestroy_frame (fun _ _ => rfl) (fun _ _ => rfl) fun _ => rfl)

lemma spent_connectionDestroy : (c.connectionDestroy k).spent r = c.spent r :=
  Frame.spent (connectionDestroy_frame (fun _ _ => rfl) (fun _ _ => rfl) fun _ => rfl)

/-- A lookup that is removed has no work before it. -/
lemma spent_lookupRemove (id : DhtId) : (c.lookupRemove id).spent r ≤ c.spent r := by
  unfold lookupRemove
  split
  · have e := tally_update c.lookupTable (DhtLookup.work r) id none
    rw [spent_lookupDestroy]
    simp only [spent, sent, work, Option.elim_none] at e ⊢
    omega
  · exact Nat.le_refl _

/-- A lookup whose results have gone elsewhere is removed. -/
lemma spent_finish (here : c.lookupTable l.id = some l) :
    ((c.putLookup { l with results := [] }).lookupRemove l.id).spent r + r.request * l.results.length ≤
      c.spent r := by
  have removed := spent_lookupRemove (r := r) (c := c.putLookup { l with results := [] }) l.id
  have put := spent_put (r := r) { l with results := [] } here rfl
  have finish := DhtLookup.work_finish (r := r) (l := l)
  omega

lemma spent_lookupReplace (id : DhtId) : (c.lookupReplace (.new id [])).spent r ≤ c.spent r := by
  have put := spent_putLookup (r := r) (c := c) (l := .new id [])
  rw [DhtLookup.work_new, List.length_nil, Nat.mul_zero] at put
  unfold lookupReplace
  split
  · rw [spent_lookupDestroy]
    omega
  · omega

/-- A connection leaves the table. -/
lemma spent_steal (here : c.connectionTable k.nonce = some k) :
    (c.connectionSteal k.nonce).spent r + r.timeout = c.spent r := by
  have e := tally_update c.connectionTable (fun _ => r.timeout) k.nonce none
  simp only [spent, sent, work, connectionSteal, here, Option.elim_some, Option.elim_none] at e ⊢
  omega

lemma spent_putConnection : (c.putConnection k).spent r ≤ c.spent r + r.timeout := by
  have e := tally_update c.connectionTable (fun _ => r.timeout) k.nonce (some k)
  simp only [spent, sent, work, putConnection, Option.elim_some] at e ⊢
  omega

/-- A connection is written back. -/
lemma spent_rekey (k' : DhtConnection) (here : c.connectionTable k.nonce = some k)
    (nonce : k'.nonce = k.nonce) : (c.putConnection k').spent r = c.spent r := by
  have e := tally_update c.connectionTable (fun _ => r.timeout) k'.nonce (some k')
  rw [nonce, here] at e
  simp only [spent, sent, work, putConnection, nonce, Option.elim_some] at e ⊢
  omega

lemma spent_connectionReplace : (c.connectionReplace k).spent r ≤ c.spent r + r.timeout := by
  unfold connectionReplace
  split
  · rw [spent_connectionDestroy]
    exact spent_putConnection
  · exact spent_putConnection

/-! ## Lookups -/

/-- A request is sent, and its timeout is left. -/
lemma spent_requestQuery (C : c.books.Consistent (some l.id)) (here : c.lookupTable l.id = some l)
    (mem : q ∈ l.querySequence) (more : l.numSources < DHT_CONCURRENCY)
    (waiting : q.isFinished = false) (idle : q.timeoutSource = 0) :
    (c.requestQuery l q).spent r = c.spent r := by
  have change : (l.request q c.nextSource).work r + q.work r =
      l.work r + ({ q with timeoutSource := c.nextSource } : DhtQuery).work r :=
    ((C.lookup _ _ here).2.request mem more waiting idle C.next).work
  have before : q.work r = r.request := by simp [DhtQuery.work, waiting, idle]
  have after : ({ q with timeoutSource := c.nextSource } : DhtQuery).work r = r.timeout := by
    have armed : c.nextSource ≠ 0 := C.next
    simp [DhtQuery.work, waiting, armed]
  have request : r.request = r.datagram + r.timeout := rfl
  have put := spent_put (r := r) (c := (((c.act (.request l.id q l.querySequence)).act
      (.sendTo 0 (some q.addr.deserialize) (.lookupReq c.id l.id))).timeoutAdd (.query l.id q.iter)).2)
    (l.request q c.nextSource) here rfl
  have add : (((c.act (.request l.id q l.querySequence)).act
      (.sendTo 0 (some q.addr.deserialize) (.lookupReq c.id l.id))).timeoutAdd
        (.query l.id q.iter)).2.spent r = c.spent r + r.datagram :=
    Eq.trans rfl ((spent_sendTo _ _ _).trans (congrArg (· + _) (spent_act rfl)))
  change ((((c.act (.request l.id q l.querySequence)).act
    (.sendTo 0 (some q.addr.deserialize) (.lookupReq c.id l.id))).timeoutAdd
      (.query l.id q.iter)).2.putLookup (l.request q c.nextSource)).spent r = c.spent r
  omega

/-- Queries are sent that were work before the lookup. -/
lemma spent_dispatchLoop (todo : List DhtQuery) (numAlive : Nat)
    (C : c.books.Consistent (some l.id)) (here : c.lookupTable l.id = some l)
    (mem : ∀ q ∈ todo, q ∈ l.querySequence) (nodup : (todo.map (·.iter)).Nodup) :
    (dispatchLoop todo c l numAlive).1.spent r = c.spent r := by
  induction todo generalizing c l numAlive with
  | nil => rfl
  | cons q rest ih =>
    have e := mem q (List.mem_cons_self ..)
    have mem' := fun q' m => mem q' (List.mem_cons_of_mem _ m)
    rw [List.map_cons, List.nodup_cons] at nodup
    unfold dispatchLoop
    split
    · rename_i more
      dsimp only
      split
      · rename_i idle
        have waiting : q.isFinished = false := by simpa using idle.1
        refine Eq.trans (ih (c := c.requestQuery l q) (l := l.request q c.nextSource) _ ?_ ?_ ?_ nodup.2) ?_
        · exact requestQuery_consistent C here e more.1 waiting idle.2
        · exact Function.update_self _ _ _
        · intro q' m
          have ne : q'.iter ≠ q.iter := fun same => nodup.1 (same ▸ List.mem_map_of_mem m)
          exact DhtLookup.mem_setQuery (mem' q' m) ne
        · exact spent_requestQuery C here e more.1 waiting idle.2
      · exact ih _ C here mem' nodup.2
    · rfl

/-- A lookup goes on with the work before it, or fails. -/
lemma spent_lookupDispatch (C : c.books.Consistent (some l.id)) (here : c.lookupTable l.id = some l) :
    (c.lookupDispatch l).spent r ≤ c.spent r := by
  have S := (C.lookup _ _ here).2
  have loop := spent_dispatchLoop (r := r) l.querySequence 0 C here (fun _ m => m) S.iters
  obtain ⟨id, -, here'⟩ := dispatchLoop_here l.querySequence 0 here
  unfold lookupDispatch
  generalize dispatchLoop l.querySequence c l 0 = x at loop id here'
  obtain ⟨c', l'⟩ := x
  dsimp only at loop id here' ⊢
  rw [← id] at here'
  split
  · have report : ∀ (c : DhtClient) (result : Nat),
        Saves c (c.act (.completeInIdle result ⟨.hostNotFound, "Lookup failed"⟩)) :=
      fun c result => .done [_] rfl rfl rfl
    have failed : Saves c' (c'.act (.lookupFailed l'.id l'.querySequence)) := .done [_] rfl rfl rfl
    have reported := failed.trans (Frame.foldl report l'.results)
    have here'' := (congrFun (Prod.mk.inj reported.same).1 l'.id).trans here'
    have finish := spent_finish (r := r) here''
    rw [reported.spent, loop] at finish
    exact Nat.le_of_add_right_le finish
  · exact Nat.le_of_eq loop

section Random

variable (random : Nat → DhtKey)

/-- A callback has its request sent, and the timeout of a connection is left. -/
lemma spent_requestConnection (id : DhtId) (addr : DhtAddress) (result : Nat) :
    (c.requestConnection random id addr result).spent r ≤ c.spent r + r.request := by
  unfold requestConnection
  dsimp only
  rw [spent_sendTo, Rates.request, Nat.add_comm r.datagram, ← Nat.add_assoc]
  refine Nat.add_le_add_right (Nat.le_trans spent_connectionReplace ?_) _
  refine Nat.add_le_add_right (Nat.le_of_eq ?_) _
  exact Frame.spent (.done [_] rfl rfl rfl)

lemma spent_requestConnections (id : DhtId) (addr : DhtAddress) (results : List Nat) :
    (results.foldl (fun c result => c.requestConnection random id addr result) c).spent r ≤
      c.spent r + r.request * results.length := by
  induction results generalizing c with
  | nil => exact Nat.le_refl _
  | cons result results ih =>
    have one := spent_requestConnection (r := r) (c := c) random id addr result
    have rest := ih (c := c.requestConnection random id addr result)
    rw [List.foldl_cons, List.length_cons, Nat.mul_succ]
    omega

/-- Every node that is offered may get a query. -/
lemma spent_updateLoop (nodes : List MsgNode) (C : c.books.Consistent (some l.id))
    (here : c.lookupTable l.id = some l) :
    (c.updateLoop random l nodes).spent r ≤ c.spent r + r.request * nodes.length := by
  induction nodes generalizing c l with
  | nil => exact spent_lookupDispatch C here
  | cons node nodes ih =>
    rw [List.length_cons, Nat.mul_succ]
    unfold updateLoop
    split
    · exact Nat.le_trans (ih C here) (by omega)
    · split
      · -- the results pay for their connections
        have found := spent_requestConnections (r := r) (c := c) random l.id node.addr l.results
        have here' := (congrFun (requestConnections_lookupTable (c := c) random l.id node.addr
          l.results) l.id).trans here
        have finish := spent_finish (r := r) here'
        dsimp only
        omega
      · have insert := DhtLookup.work_insertQuery (r := r) (l := l) node
        have put := spent_put (r := r) (l.insertQuery node) here (DhtLookup.id_insertQuery node)
        have rest := ih (insertQuery_consistent C here node) (Function.update_self _ _ _)
        dsimp only
        omega

lemma spent_lookupUpdate (nodes : List MsgNode) (C : c.books.Consistent (some l.id))
    (here : c.lookupTable l.id = some l) :
    (c.lookupUpdate random l nodes).spent r ≤ c.spent r + r.request * nodes.length := by
  have loop := spent_updateLoop (r := r) (c := c.act (.offered l.id nodes)) random nodes C here
  rwa [spent_act rfl] at loop

/-- A new lookup is dispatched. -/
lemma spent_putNew {id : DhtId} (results : List Nat) (free : c.lookupTable id = none) :
    (c.putLookup (.new id results)).spent r = c.spent r + r.request * results.length := by
  have put := spent_putLookup (r := r) (c := c) (l := .new id results)
  rw [show c.lookupTable (DhtLookup.new id results).id = none from free] at put
  exact put.trans (congrArg _ (DhtLookup.work_new _ _))

/-- The nodes that are known may get a query each. -/
lemma spent_search (now : Int) (id : DhtId) (C : c.books.Consistent (some l.id))
    (here : c.lookupTable l.id = some l) :
    ((c.search now id).2.lookupUpdate random l (c.search now id).1).spent r ≤
      c.spent r + r.request * DHT_NODE_COUNT := by
  have update := spent_lookupUpdate (r := r) (c := (c.search now id).2) random (c.search now id).1 C here
  have searched : (c.search now id).2.spent r = c.spent r := rfl
  have few := Nat.mul_le_mul_left r.request (DhtTable.search_length c.id now c.table id)
  have nodes : (c.search now id).1 = (c.table.search c.id now id).2 := rfl
  rw [nodes] at update ⊢
  omega

/-- A call costs a request, and what the table knows. -/
lemma spent_lookupAsync (C : c.books.Consistent none) (now : Int) (id : DhtId) :
    (c.lookupAsync random now id).spent r ≤ c.spent r + r.request * (1 + DHT_NODE_COUNT) := by
  have called : ({ c with calls := c.calls + 1 } : DhtClient).spent r = c.spent r := rfl
  rw [Nat.mul_add, Nat.mul_one]
  unfold lookupAsync
  dsimp only
  split
  · rw [spent_act rfl, called]
    omega
  · split
    · rename_i l here
      obtain ⟨rfl, -⟩ := C.lookup _ _ here
      have put := spent_put (r := r) (c := { c with calls := c.calls + 1 })
        { l with results := c.calls :: l.results } here rfl
      rw [DhtLookup.work_cons, called] at put
      omega
    · rename_i free
      have new := spent_putNew (r := r)
        (c := ({ c with calls := c.calls + 1 } : DhtClient).act (.lookupNew id)) [c.calls] free
      rw [spent_act rfl, called, List.length_singleton, Nat.mul_one] at new
      have C' : ((({ c with calls := c.calls + 1 } : DhtClient).act (.lookupNew id)).putLookup
        (.new id [c.calls])).books.Consistent (some id) := putNew_consistent C [c.calls] free
      have update := spent_search (r := r) (l := .new id [c.calls]) random now id C'
        (Function.update_self _ _ _)
      refine Nat.le_trans update ?_
      omega

lemma spent_bootstrap (C : c.books.Consistent none) (address : GSocketAddress) :
    (c.bootstrap random address).spent r ≤ c.spent r + r.request := by
  unfold bootstrap
  dsimp only
  split
  · rename_i l here
    have id := (C.lookup _ _ here).1
    have update := spent_lookupUpdate (r := r) random
      [⟨⟨fun _ => 0⟩, DhtAddress.serialize address⟩] (C.weaken _) (id ▸ here)
    rwa [List.length_singleton, Nat.mul_one] at update
  · rename_i free
    have new := spent_putNew (r := r) (c := c.act (.lookupNew c.id)) [] free
    rw [spent_act rfl, List.length_nil, Nat.mul_zero] at new
    have C' : ((c.act (.lookupNew c.id)).putLookup (.new c.id [])).books.Consistent (some c.id) :=
      putNew_consistent C [] free
    have update := spent_lookupUpdate (r := r) (l := .new c.id []) random
      [⟨⟨fun _ => 0⟩, DhtAddress.serialize address⟩] C' (Function.update_self _ _ _)
    rw [List.length_singleton, Nat.mul_one] at update
    refine Nat.le_trans update ?_
    omega

lemma spent_refresh (C : c.books.Consistent none) (now : Int) (nbits : Nat) (drawn : Nat → UInt8) :
    (c.refresh random now nbits drawn).spent r ≤ c.spent r + r.request * DHT_NODE_COUNT := by
  have replaced := spent_lookupReplace (r := r) (c := c.act (.lookupNew (refreshId c.id nbits drawn)))
    (refreshId c.id nbits drawn)
  have update := spent_search (r := r) (l := .new (refreshId c.id nbits drawn) []) random now
    (refreshId c.id nbits drawn)
    (lookupReplace_consistent (c := c.act (.lookupNew (refreshId c.id nbits drawn))) C
      (refreshId c.id nbits drawn)) (lookupReplace_lookupTable _)
  rw [spent_act rfl] at replaced
  exact Nat.le_trans update (Nat.add_le_add_right replaced _)

end Random

/-! ## Datagrams -/

section Receive

variable (S : Sodium) (random : Nat → DhtKey) (env : Env) (sockaddr : GSocketAddress)

/-- A reply. -/
lemma spent_lookupReq (srcid dstid : DhtId) :
    (c.lookupReq env sockaddr srcid dstid).spent r ≤ c.spent r + r.datagram := by
  unfold lookupReq
  split
  · exact Nat.le_add_right _ _
  · dsimp only
    rw [spent_sendTo]
    exact Nat.le_refl _

lemma spent_queryDestroy : (c.queryDestroy q).spent r = c.spent r :=
  Frame.spent (queryDestroy_frame (fun _ _ => rfl) q)

/-- A response, with the nodes that it offers. -/
lemma spent_lookupRes (C : c.books.Consistent none) (srcid dstid : DhtId) (nodes : List MsgNode) :
    (c.lookupRes random env sockaddr srcid dstid nodes).spent r ≤
      c.spent r + r.request * nodes.length := by
  rcases lookupRes_cases random env sockaddr C srcid dstid nodes with
    e | e | ⟨l, q, here, rfl, -, mem, -, e⟩
  · rw [e]
    exact Nat.le_add_right _ _
  · rw [e]
    exact Nat.le_add_right _ _
  · rw [e]
    have update := spent_lookupUpdate (r := r) random nodes (answer_consistent (q := q) srcid
      ((c.update env.updateTime srcid (.serialize sockaddr) true).act (.answered l.id q srcid nodes)) C
        here mem rfl) (Function.update_self _ _ _)
    generalize hc : ((c.update env.updateTime srcid (.serialize sockaddr) true).act
      (.answered l.id q srcid nodes)).queryDestroy q = c' at update ⊢
    have same : c'.spent r = c.spent r := by
      rw [← hc, spent_queryDestroy, spent_act rfl]
      rfl
    have here' : c'.lookupTable l.id = some l := by
      rw [← hc]
      unfold queryDestroy
      split
      · exact here
      · exact here
    have put := spent_put (r := r) (l.answer q srcid) here'
      ((C.lookup _ _ here).2.answer srcid mem).id
    have answered := ((C.lookup _ _ here).2.answer srcid mem).work (r := r)
    have finished : DhtQuery.work r
      { q with metric := srcid.xor l.id, timeoutSource := 0, isFinished := true, isAlive := true } = 0 := rfl
    omega

/-- A response, and the timeout of a connection. -/
lemma spent_connectionReq (pubkey nonce : DhtKey) :
    (c.connectionReq S random env sockaddr pubkey nonce).spent r ≤ c.spent r + r.request := by
  unfold connectionReq
  dsimp only
  split
  · exact Nat.le_add_right _ _
  · split
    · split
      · exact Nat.le_add_right _ _
      · split
        · exact Nat.le_add_right _ _
        · rw [spent_sendTo, Rates.request, Nat.add_comm r.datagram, ← Nat.add_assoc]
          refine Nat.add_le_add_right (Nat.le_trans spent_connectionReplace ?_) _
          refine Nat.add_le_add_right (Nat.le_of_eq ?_) _
          exact Frame.spent (.done [.answer _] rfl rfl rfl)
    · exact Nat.le_add_right _ _

/-- The second response, for a connection that leaves the table. -/
lemma spent_accept (here : c.connectionTable k.nonce = some k) (socket source : Nat)
    (dest : Option GSocketAddress) (nonce tag : DhtKey) (own : Option Nat) (peer : GSocketAddress) :
    ((((c.socketNew.2.act (.sendTo socket dest (.connectionRes2 nonce tag))).sourceRemove source).act
      (.connect own peer)).connectionSteal k.nonce).spent r ≤ c.spent r + r.datagram := by
  have steal := spent_steal (r := r)
    (c := ((c.socketNew.2.act (.sendTo socket dest (.connectionRes2 nonce tag))).sourceRemove source).act
      (.connect own peer)) here
  have accepted : Saves (c.socketNew.2.act (.sendTo socket dest (.connectionRes2 nonce tag)))
      (((c.socketNew.2.act (.sendTo socket dest (.connectionRes2 nonce tag))).sourceRemove source).act
        (.connect own peer)) := .done [_] rfl rfl rfl
  rw [accepted.spent, spent_sendTo] at steal
  have new : c.socketNew.2.spent r = c.spent r := rfl
  omega

lemma spent_connectionRes1 (C : c.books.Consistent none) (pubkey nonce peerNonce authTag : DhtKey) :
    (c.connectionRes1 S env sockaddr pubkey nonce peerNonce authTag).spent r ≤
      c.spent r + r.datagram := by
  unfold connectionRes1
  dsimp only
  split
  · exact Nat.le_add_right _ _
  · rename_i k here
    obtain ⟨rfl, -⟩ := C.connection _ _ here
    split
    · exact Nat.le_add_right _ _
    · split
      · exact Nat.le_add_right _ _
      · rename_i shared _
        generalize e : ({ k with
            encKey := some (DhtKey.derive S shared k.nonce nonce).1
            decKey := some (DhtKey.derive S shared nonce k.nonce).1
            authTag := some (DhtKey.derive S shared nonce k.nonce).2
            session := some ⟨pubkey, shared, k.nonce, nonce⟩ } : DhtConnection) = k'
        have id : k'.nonce = k.nonce := by rw [← e]
        have put : ((c.act (.derive ⟨pubkey, shared, k.nonce, nonce⟩)).putConnection k').spent r =
            c.spent r := (spent_rekey (c := c.act _) k' here id).trans (spent_act rfl)
        have here' : ((c.act (.derive ⟨pubkey, shared, k.nonce, nonce⟩)).putConnection
          k').connectionTable k'.nonce = some k' := Function.update_self _ _ _
        generalize (c.act (.derive ⟨pubkey, shared, k.nonce, nonce⟩)).putConnection k' = c'
          at put here'
        rw [← id, ← put]
        split
        · exact Nat.le_add_right _ _
        · split
          · exact Nat.le_add_right _ _
          · split
            · rw [spent_act rfl]
              exact spent_accept here' _ _ _ _ _ _ _
            · exact spent_accept here' _ _ _ _ _ _ _

/-- Nothing is sent. -/
lemma spent_connectionRes2 (C : c.books.Consistent none) (peerNonce authTag : DhtKey) :
    (c.connectionRes2 sockaddr peerNonce authTag).spent r ≤ c.spent r := by
  unfold connectionRes2
  dsimp only
  split
  · exact Nat.le_refl _
  · rename_i k here
    obtain ⟨rfl, -⟩ := C.connection _ _ here
    have steal := Nat.le_of_add_right_le (Nat.le_of_eq (spent_steal (r := r) here))
    split
    · exact Nat.le_refl _
    · rw [spent_connectionDestroy]
      split
      · rw [spent_act rfl, spent_act rfl]
        exact steal
      · exact steal

lemma spent_receive (C : c.books.Consistent none) (w : WordSize) (memory : Nat → UInt8) (len : Nat) :
    (c.receive S random env w memory len sockaddr).spent r ≤
      c.spent r + (Msg.read w memory len).elim 0 (Msg.allowance r) := by
  unfold receive
  cases Msg.read w memory len with
  | none => exact Nat.le_refl _
  | some m =>
    cases m with
    | lookupReq srcid dstid => exact spent_lookupReq env sockaddr srcid dstid
    | lookupRes srcid dstid nodes => exact spent_lookupRes random env sockaddr C srcid dstid nodes
    | connectionReq pubkey nonce => exact spent_connectionReq S random env sockaddr pubkey nonce
    | connectionRes1 pubkey nonce peerNonce authTag =>
      exact spent_connectionRes1 S env sockaddr C pubkey nonce peerNonce authTag
    | connectionRes2 peerNonce authTag => exact spent_connectionRes2 sockaddr C peerNonce authTag

end Receive

/-! ## Timeouts -/

/-- A query that times out has saved its timeout. -/
lemma spent_queryTimeout (C : c.books.Consistent none) (env : Env) {id : DhtId} {i source : Nat}
    (live : c.sources source = some (.query id i)) :
    r.timeout + (c.fire env source).spent r ≤ c.spent r := by
  obtain ⟨l, q, here, mem, rfl, pos, eq⟩ := queryTimeout_eq env C live
  have S := (C.lookup _ _ here).2
  have change := S.timeOut mem (Nat.ne_of_gt pos)
  have dispatch := spent_lookupDispatch (r := r) (timeOut_consistent env C here mem pos)
    (Function.update_self _ _ _)
  have put := spent_put (r := r) (c := ((c.sourceRemove q.timeoutSource).act
    (.timedOut l.id q)).update env.updateTime (q.metric.xor l.id) q.addr false)
    (l.timeOut q) here change.id
  have dropped : (((c.sourceRemove q.timeoutSource).act (.timedOut l.id q)).update env.updateTime
    (q.metric.xor l.id) q.addr false).spent r = c.spent r := Frame.spent (.done [_] rfl rfl rfl)
  have waiting : q.isFinished = false := by
    cases done : q.isFinished with
    | false => rfl
    | true => exact absurd (S.single q mem done) (Nat.ne_of_gt pos)
  have before : q.work r = r.timeout := by simp [DhtQuery.work, waiting, Nat.ne_of_gt pos]
  have after : ({ q with isFinished := true, timeoutSource := 0 } : DhtQuery).work r = 0 := rfl
  have work := change.work (r := r)
  rw [eq]
  omega

/-- A connection that lapses is removed. -/
lemma spent_lapse {k : DhtConnection} (here : c.connectionTable k.nonce = some k) :
    r.timeout + ((c.putConnection { k with result := none, timeoutSource := 0 }).connectionRemove
      k.nonce).spent r = c.spent r := by
  have put : (c.putConnection { k with result := none, timeoutSource := 0 }).connectionTable k.nonce =
    some { k with result := none, timeoutSource := 0 } := Function.update_self _ _ _
  have stolen := spent_steal (r := r) (k := { k with result := none, timeoutSource := 0 }) put
  have rekeyed := spent_rekey (r := r) { k with result := none, timeoutSource := 0 } here rfl
  rw [connectionRemove, put]
  dsimp only
  rw [spent_connectionDestroy]
  dsimp only at stolen
  omega

lemma spent_connectionTimeout (C : c.books.Consistent none) (env : Env) {nonce : DhtKey} {source : Nat}
    (live : c.sources source = some (.connection nonce)) :
    r.timeout + (c.fire env source).spent r ≤ c.spent r := by
  have ne : source ≠ 0 := ((C.timers _ _).mp live).1
  have recorded := C.timers.recorded live
  cases here : c.connectionTable nonce with
  | none => simp [Books.timerOf, books, here, ne.symm] at recorded
  | some k =>
    obtain ⟨rfl, -⟩ := C.connection _ _ here
    have here' : (c.sourceRemove source).connectionTable k.nonce = some k := here
    rw [fire, live]
    dsimp only
    unfold connectionTimeout
    rw [here']
    dsimp only
    split
    · exact Nat.le_of_eq ((spent_lapse (c := (c.sourceRemove source).act _) here).trans
        (spent_act rfl))
    · exact Nat.le_of_eq (spent_lapse (c := c.sourceRemove source) here)

/-- The timeout of a query or connection is not left any more. -/
lemma spent_fire (C : c.books.Consistent none) (env : Env) {source : Nat} {timer : Timer}
    (live : c.sources source = some timer) :
    r.timeout + (c.fire env source).spent r ≤ c.spent r := by
  cases timer with
  | query id i => exact spent_queryTimeout C env live
  | connection nonce => exact spent_connectionTimeout C env live

/-! ## Runs -/

/-- The event is the timeout of a source in the main context. -/
def fires (c : DhtClient) : Event → Bool
  | .timeout source => (c.sources source).isSome
  | _ => false

/-- What an event costs is within what it allows. -/
lemma spent_step (S : Sodium) (w : WordSize) (random : Nat → DhtKey) (C : c.books.Consistent none)
    (env : Env) (e : Event) :
    r.timeout * (c.fires e).toNat + (c.step S w random env e).spent r ≤
      c.spent r + e.allowance r w := by
  have quiet : ∀ {c' : DhtClient}, c.fires e = false → c'.spent r ≤ c.spent r + e.allowance r w →
      r.timeout * (c.fires e).toNat + c'.spent r ≤ c.spent r + e.allowance r w := by
    intro c' no le
    rwa [no, Bool.toNat_false, Nat.mul_zero, Nat.zero_add]
  cases e with
  | lookupAsync id => exact quiet rfl (spent_lookupAsync random C env.searchTime id)
  | bootstrap address => exact quiet rfl (spent_bootstrap random C address)
  | setListen listen => exact quiet rfl (Nat.le_refl _)
  | refresh nbits drawn => exact quiet rfl (spent_refresh random C env.searchTime nbits drawn)
  | receive memory len sockaddr =>
    exact quiet rfl (spent_receive S random env sockaddr C w memory len)
  | timeout source =>
    cases live : c.sources source with
    | none =>
      rw [step, fire, fires, live]
      exact Nat.le_of_eq (Nat.zero_add _)
    | some timer =>
      rw [fires, live, Option.isSome_some, Bool.toNat_true, Nat.mul_one]
      exact spent_fire C env live

section Runs

variable (S : Sodium) (w : WordSize) (random : Nat → DhtKey) (key : DhtKey)

/-- The number of timeouts in a run. -/
def fired (events : List (Env × Event)) : Nat :=
  Runs.total (fun c (e : Env × Event) => c.step S w random e.1 e.2)
    (fun c e => (c.fires e.2).toNat) (new S key) events

/-- The datagrams and the timeouts of a run, at any rates, and the work that is left at its end, are
    within what the events allow. -/
theorem traffic_run (r : Rates) (events : List (Env × Event)) :
    r.datagram * (run S w random key events).sent.length +
      r.timeout * fired S w random key events + (run S w random key events).work r ≤
        (events.map fun e => e.2.allowance r w).sum := by
  have total := Runs.total_le (I := fun c : DhtClient => c.books.Consistent none)
    (Q := fun _ _ => True)
    (fun c (e : Env × Event) C _ => step_consistent S w random e.1 e.2 C)
    (fun c e C _ => spent_step (r := r) S w random C e.1 e.2) (s := new S key)
    Books.Consistent.init (Runs.Throughout.of_forall events fun _ _ => trivial)
  have initial : (new S key).spent r = 0 := by simp [spent, sent, work, new]
  rw [initial, Nat.zero_add, Runs.total_mul] at total
  change r.timeout * fired S w random key events + (run S w random key events).spent r ≤ _ at total
  rw [spent] at total
  omega

end Runs

end DhtClient

end Nanotalk
