import Nanotalk.Dht.Completion
import Nanotalk.Dht.Finalize
import Nanotalk.Dht.Requests

/-!
# How a call finds its peer

A client that knows a node tells of it, with the address that it heard it from; and a client that is
told where the target of a lookup is asks it for a connection, once for each callback.

* `calls_known`: a call to a node in the own routing table.
* `Network.relay`: a call to a node in the routing table of another client, which was asked for it.
-/

namespace Nanotalk
open Glib
open DhtClient (Env)

/-- A search for an id that is known lists the node first among the entries with the id. -/
lemma DhtTable.search_names (own : DhtId) (calls : List TableCall) (now : Int) {n : DhtNode}
    (known : n ∈ (run own calls).nodes) (eligible : Eligible now n) :
    ((run own calls).search own now n.id).2.find? (·.id = n.id) = some n.entry := by
  have V := Buckets.valid_run own calls
  have R := repr_run own calls
  have pos : 0 < (run own calls).buckets.length := R.length ▸ V.pos
  have nodup := (search_latest own calls now n.id).2.1
  have mem : n.entry ∈ ((run own calls).search own now n.id).2 := by
    rw [(R.search pos n.id).2, Buckets.search_entries V.pos]
    obtain ⟨i, lt, hn⟩ := Buckets.mem_nodes.mp (R.nodes ▸ known)
    exact Buckets.target_mem V lt hn eligible rfl
  generalize ((run own calls).search own now n.id).2 = nodes at nodup mem
  obtain ⟨e, found⟩ : ∃ e, nodes.find? (·.id = n.id) = some e := by
    rw [← Option.isSome_iff_exists, List.find?_isSome]
    exact ⟨n.entry, mem, decide_eq_true rfl⟩
  have same : e.id = n.id := by simpa using List.find?_some found
  rw [found, List.inj_on_of_nodup_map nodup (List.mem_of_find?_eq_some found) mem same]

/-- A search adds no nodes. -/
lemma DhtTable.mem_search (own : DhtId) (calls : List TableCall) (now : Int) (id : DhtId) :
    ∀ n ∈ ((run own calls).search own now id).1.nodes, n ∈ (run own calls).nodes := by
  have V := Buckets.valid_run own calls
  have R := repr_run own calls
  have pos : 0 < (run own calls).buckets.length := R.length ▸ V.pos
  rw [(R.search pos id).1.nodes, R.nodes]
  exact Buckets.mem_searchLoop V.pos

namespace DhtClient

variable {c : DhtClient} {l : DhtLookup}

/-- The client calls the node `id` at an address for a callback: it sent a request with this nonce, and
    a connection waits for the response, with its timeout armed. -/
structure Calls (c : DhtClient) (id : DhtId) (addr : DhtAddress) (nonce : DhtKey) (result : Nat) :
    Prop where
  sent : .sendTo 0 (some addr.deserialize) (.connectionReq c.pubkey nonce) ∈ c.log
  waits : ∃ k, c.connectionTable nonce = some k ∧ k.id = id ∧ k.isRemote = false ∧
    k.result = some result ∧ k.sockaddr = some addr.deserialize ∧ k.timeoutSource ≠ 0 ∧
    c.sources k.timeoutSource = some (.connection nonce)

/-! ## Requests -/

section Random

variable (random : Nat → DhtKey)

lemma requestConnection_draws (id : DhtId) (addr : DhtAddress) (result : Nat) :
    (c.requestConnection random id addr result).draws = c.draws + 1 := by
  unfold requestConnection
  dsimp only
  exact congrArg Ends.draws ends_connectionReplace

lemma requestConnections_draws (id : DhtId) (addr : DhtAddress) (results : List Nat) :
    (results.foldl (fun c r => c.requestConnection random id addr r) c).draws =
      c.draws + results.length := by
  induction results generalizing c with
  | nil => rfl
  | cons r results ih =>
    rw [List.foldl_cons, ih, requestConnection_draws, List.length_cons]
    omega

lemma requestConnections_pubkey (id : DhtId) (addr : DhtAddress) (results : List Nat) :
    (results.foldl (fun c r => c.requestConnection random id addr r) c).pubkey = c.pubkey := by
  induction results generalizing c with
  | nil => rfl
  | cons r results ih => rw [List.foldl_cons, ih, requestConnection_pubkey]

lemma requestConnections_requests (id : DhtId) (addr : DhtAddress) (results : List Nat) :
    ∀ action ∈ c.requests,
      action ∈ (results.foldl (fun c r => c.requestConnection random id addr r) c).requests := by
  induction results generalizing c with
  | nil => exact fun _ mem => mem
  | cons r results ih =>
    intro action mem
    apply ih
    rw [requests_requestConnection]
    exact List.mem_cons_of_mem _ (List.mem_cons_of_mem _ mem)

/-- The connection that is entered. -/
lemma requestConnection_entered (id : DhtId) (addr : DhtAddress) (result : Nat) :
    ∃ k, (c.requestConnection random id addr result).connectionTable (random c.draws) = some k ∧
      k.id = id ∧ k.isRemote = false ∧ k.result = some result ∧ k.sockaddr = some addr.deserialize := by
  unfold requestConnection
  dsimp only
  refine ⟨⟨id, random c.draws, false, c.nextSource, none, some addr.deserialize, some result, none,
    none, none, none⟩, ?_, rfl, rfl, rfl, rfl⟩
  exact (congrFun (congrArg Ends.connectionTable ends_connectionReplace) _).trans
    (Function.update_self _ _ _)

/-- Each result has its own request, and a connection as long as the nonces differ. -/
lemma requestConnections_calls (id : DhtId) (addr : DhtAddress) {results : List Nat} {p r : Nat}
    (here : results[p]? = some r) :
    let c' := results.foldl (fun c r => c.requestConnection random id addr r) c
    .sendTo 0 (some addr.deserialize) (.connectionReq c.pubkey (random (c.draws + p))) ∈ c'.requests ∧
    ((∀ d, c.draws + p < d → d < c'.draws → random d ≠ random (c.draws + p)) →
      ∃ k, c'.connectionTable (random (c.draws + p)) = some k ∧ k.id = id ∧ k.isRemote = false ∧
        k.result = some r ∧ k.sockaddr = some addr.deserialize) := by
  induction results generalizing c p with
  | nil => cases here
  | cons first results ih =>
    intro c'
    cases p with
    | zero =>
      have e : first = r := Option.some.inj here
      subst e
      rw [Nat.add_zero]
      refine ⟨?_, fun fresh => ?_⟩
      · have asked := requests_requestConnection (c := c) random id addr first
        refine requestConnections_requests random id addr results _ ?_
        rw [asked]
        exact List.mem_cons_self
      · obtain ⟨k, entered, facts⟩ := requestConnection_entered (c := c) random id addr first
        have keeps : Keeps random (random c.draws) (c.requestConnection random id addr first) c' :=
          requestConnections_keeps id addr results
        have same := keeps.pending fun d le lt => by
          rw [requestConnection_draws] at le
          exact fresh d le lt
        rw [pending, pending, entered, Option.map_some, Option.map_eq_some_iff] at same
        obtain ⟨k', here', same⟩ := same
        obtain ⟨same_id, same_role, same_result, same_addr⟩ := DhtConnection.same_of_visible same
        rw [← same_id, ← same_role, ← same_result, ← same_addr] at facts
        exact ⟨k', here', facts⟩
    | succ p =>
      have rest := ih (c := c.requestConnection random id addr first) (p := p) here
      rw [requestConnection_draws, requestConnection_pubkey, Nat.add_right_comm] at rest
      exact rest

/-- The first node that is the target gets the requests. -/
lemma updateLoop_target {nodes : List MsgNode} {node : MsgNode} (foreign : l.id ≠ c.id)
    (listed : nodes.find? (·.id = l.id) = some node) :
    ∃ (b : DhtClient) (l' : DhtLookup), b.draws = c.draws ∧
      c.updateLoop random l nodes = ((l.results.foldl
        (fun c r => c.requestConnection random l.id node.addr r) b).putLookup l').lookupRemove l.id := by
  induction nodes generalizing c l with
  | nil => cases listed
  | cons first nodes ih =>
    unfold updateLoop
    split
    · rename_i own
      have other : first.id ≠ l.id := fun e => foreign (e.symm.trans own)
      rw [List.find?_cons_of_neg (by simpa using other)] at listed
      exact ih foreign listed
    · split
      · rename_i target
        rw [List.find?_cons_of_pos (by simpa using target)] at listed
        cases listed
        exact ⟨c, { l with results := [] }, rfl, rfl⟩
      · rename_i other
        rw [List.find?_cons_of_neg (by simpa using other)] at listed
        have rest := ih (c := c.putLookup (l.insertQuery first)) (l := l.insertQuery first)
          (by rwa [DhtLookup.id_insertQuery]) (by rwa [DhtLookup.id_insertQuery])
        rw [DhtLookup.id_insertQuery, DhtLookup.results_insertQuery] at rest
        exact rest

/-- What a client does that is told where the target of a lookup is. -/
lemma updateLoop_calls {nodes : List MsgNode} {node : MsgNode} (foreign : l.id ≠ c.id)
    (listed : nodes.find? (·.id = l.id) = some node)
    (C : (c.updateLoop random l nodes).books.Consistent none)
    (fresh : ∀ a b, a < (c.updateLoop random l nodes).draws →
      b < (c.updateLoop random l nodes).draws → random a = random b → a = b) :
    ∀ p r, l.results[p]? = some r →
      (c.updateLoop random l nodes).Calls l.id node.addr (random (c.draws + p)) r := by
  intro p r here
  obtain ⟨b, l', draws, eq⟩ := updateLoop_target random foreign listed
  have asked := requestConnections_calls (c := b) random l.id node.addr here
  have number := requestConnections_draws (c := b) random l.id node.addr l.results
  have own := requestConnections_pubkey (c := b) random l.id node.addr l.results
  generalize l.results.foldl (fun c r => c.requestConnection random l.id node.addr r) b = b'
    at asked number own eq
  have removed := lookupRemove_seeks (c := b'.putLookup l') l.id
  rw [← eq] at removed
  obtain ⟨-, same_pubkey, -, -, same_table, same_draws, -⟩ := by simpa using removed.same
  obtain ⟨sent, entered⟩ := asked
  rw [draws] at sent entered number
  have lt : p < l.results.length := (List.getElem?_eq_some_iff.mp here).1
  refine ⟨?_, ?_⟩
  · rw [same_pubkey, show (b'.putLookup l').pubkey = b'.pubkey from rfl, own]
    have requests : (c.updateLoop random l nodes).requests = b'.requests := removed.requests
    rw [← requests] at sent
    exact List.mem_of_mem_filter sent
  · obtain ⟨k, here', id, role, result, addr⟩ := entered fun d gt lt' same => by
      have bound : d < (c.updateLoop random l nodes).draws := same_draws ▸ lt'
      have := fresh d (c.draws + p) bound (by omega) same
      omega
    have waits : (c.updateLoop random l nodes).connectionTable (random (c.draws + p)) = some k :=
      same_table ▸ here'
    obtain ⟨nonce, armed, -⟩ := C.connection _ _ waits
    refine ⟨k, waits, id, role, result, addr, armed, ?_⟩
    have recorded : (c.updateLoop random l nodes).books.timerOf (.connection (random (c.draws + p))) =
        k.timeoutSource := by
      simp [Books.timerOf, books, waits]
    have source := C.timers.source (recorded.trans_ne armed)
    rwa [recorded] at source

/-- The lookup is over. -/
lemma updateLoop_over {nodes : List MsgNode} {node : MsgNode} (foreign : l.id ≠ c.id)
    (listed : nodes.find? (·.id = l.id) = some node) :
    (c.updateLoop random l nodes).lookupTable l.id = none := by
  obtain ⟨b, l', -, eq⟩ := updateLoop_target random foreign listed
  rw [eq, lookupRemove_lookupTable]
  exact Function.update_self _ _ _

/-! ## Answers -/

/-- An answer leaves the id and the callbacks of the lookup. -/
lemma answer_same (q : DhtQuery) (srcid : DhtId) :
    (l.answer q srcid).id = l.id ∧ (l.answer q srcid).results = l.results := by
  unfold DhtLookup.answer
  dsimp only
  split <;> exact ⟨rfl, rfl⟩

/-- A response of which the lookup makes its last step. -/
lemma lookupRes_loop {sockaddr : GSocketAddress} {srcid : DhtId} {q : DhtQuery} (env : Env)
    (nodes : List MsgNode) (foreign : srcid ≠ c.id) (here : c.lookupTable l.id = some l)
    (found : l.query (.serialize sockaddr) = some q) :
    ∃ b : DhtClient, b.id = c.id ∧ b.draws = c.draws ∧
      c.lookupRes random env sockaddr srcid l.id nodes = b.updateLoop random (l.answer q srcid) nodes := by
  rw [lookupRes_eq random env sockaddr nodes foreign here found, lookupUpdate]
  refine ⟨_, ?_, ?_, rfl⟩
  · unfold queryDestroy
    split <;> rfl
  · unfold queryDestroy
    split <;> rfl

/-- A call that makes the first step of a new lookup. -/
lemma lookupAsync_loop {id : DhtId} (now : Int) (stranger : id ≠ c.id)
    (free : c.lookupTable id = none) :
    ∃ b : DhtClient, b.id = c.id ∧ b.draws = c.draws ∧ c.lookupAsync random now id =
      b.updateLoop random (.new id [c.calls]) (c.search now id).1 := by
  rw [lookupAsync, if_neg stranger]
  dsimp only
  rw [free]
  refine ⟨_, ?_, ?_, rfl⟩
  · rfl
  · rfl

/-- A response to a query that lists the target. -/
lemma lookupRes_calls {env : Env} {sockaddr : GSocketAddress} {srcid : DhtId} {q : DhtQuery}
    {nodes : List MsgNode} {node : MsgNode} (foreign : srcid ≠ c.id) (stranger : l.id ≠ c.id)
    (here : c.lookupTable l.id = some l) (found : l.query (.serialize sockaddr) = some q)
    (listed : nodes.find? (·.id = l.id) = some node)
    (C : (c.lookupRes random env sockaddr srcid l.id nodes).books.Consistent none)
    (fresh : ∀ a b, a < (c.lookupRes random env sockaddr srcid l.id nodes).draws →
      b < (c.lookupRes random env sockaddr srcid l.id nodes).draws → random a = random b → a = b) :
    (c.lookupRes random env sockaddr srcid l.id nodes).lookupTable l.id = none ∧
    ∀ p r, l.results[p]? = some r → (c.lookupRes random env sockaddr srcid l.id nodes).Calls l.id
      node.addr (random (c.draws + p)) r := by
  obtain ⟨b, own, draws, eq⟩ := lookupRes_loop random env nodes foreign here found
  obtain ⟨same, results⟩ := answer_same (l := l) q srcid
  rw [eq] at C fresh ⊢
  rw [← same, ← own] at stranger
  rw [← same] at listed
  have calls := updateLoop_calls random stranger listed C fresh
  have ended := updateLoop_over random stranger listed
  rw [same, results, draws] at calls
  rw [same] at ended
  exact ⟨ended, calls⟩

end Random

/-! ## Calls to known nodes -/

section Run

variable (S : Sodium) (w : WordSize) (random : Nat → DhtKey) (key : DhtKey)

/-- A node of the routing table is another client. -/
lemma known_stranger {events : List (Env × Event)} {n : DhtNode}
    (known : n ∈ (run S w random key events).table.nodes) : n.id ≠ (run S w random key events).id := by
  rw [routed_run, (DhtTable.repr_run _ _).nodes] at known
  rw [run_id]
  exact Buckets.run_own (calls_foreign _ _) n known

/-- A search of a client for a node that it knows. -/
lemma search_known {events : List (Env × Event)} {now : Int} {n : DhtNode}
    (known : n ∈ (run S w random key events).table.nodes) (eligible : DhtTable.Eligible now n) :
    ((run S w random key events).search now n.id).1.find? (·.id = n.id) = some n.entry := by
  rw [search, routed_run, run_id]
  rw [routed_run] at known
  exact DhtTable.search_names _ _ now known eligible

/-- A call to a node in the routing table is a request to its address, and no lookup is left. -/
theorem calls_known {events : List (Env × Event)} (env : Env) {n : DhtNode}
    (known : n ∈ (run S w random key events).table.nodes)
    (eligible : DhtTable.Eligible env.searchTime n)
    (free : (run S w random key events).lookupTable n.id = none)
    (fresh : ∀ a b, a < (run S w random key (events ++ [(env, .lookupAsync n.id)])).draws →
      b < (run S w random key (events ++ [(env, .lookupAsync n.id)])).draws →
        random a = random b → a = b) :
    let c := run S w random key events
    let c' := run S w random key (events ++ [(env, .lookupAsync n.id)])
    c'.lookupTable n.id = none ∧ c'.Calls n.id n.addr (random c.draws) c.calls := by
  intro c c'
  have stranger : n.id ≠ c.id := known_stranger S w random key known
  have listed := search_known S w random key known eligible
  have C : c'.books.Consistent none := run_consistent ..
  have last : c' = c.lookupAsync random env.searchTime n.id := List.foldl_concat ..
  obtain ⟨b, own, draws, eq⟩ := lookupAsync_loop random env.searchTime stranger free
  rw [← own] at stranger
  rw [← last] at eq
  have ended := updateLoop_over (l := .new n.id [c.calls]) random stranger listed
  have calls := updateLoop_calls (l := .new n.id [c.calls]) random stranger listed (eq ▸ C) (eq ▸ fresh)
    0 c.calls rfl
  rw [← eq, draws] at calls
  rw [← eq] at ended
  exact ⟨ended, calls⟩

/-- The node that sent the first request is called at the address that the request came from. -/
theorem calls_known_greeted : ∃ n : DhtNode,
    (run Sodium.transparent .w64 (fun _ => ⟨fun _ => 0⟩) ⟨fun i => if i.val = 0 then 1 else 0⟩
      (greeted ++ [(⟨0, 0, false⟩, .lookupAsync n.id)])).Calls n.id n.addr ⟨fun _ => 0⟩ 0 := by
  let c := run Sodium.transparent .w64 (fun _ => ⟨fun _ => 0⟩) ⟨fun i => if i.val = 0 then 1 else 0⟩
    greeted
  have found : c.table.nodes.head?.any (fun n => n.isAlive = true ∧ (c.lookupTable n.id).isNone ∧
      c.calls = 0 ∧ (c.lookupAsync (fun _ => ⟨fun _ => 0⟩) 0 n.id).draws ≤ 1) := by decide +kernel
  obtain ⟨n, here, facts⟩ := (Option.any_eq_true _ _).mp found
  obtain ⟨alive, free, first, draws⟩ := of_decide_eq_true facts
  have known : n ∈ c.table.nodes := List.mem_of_head? here
  have calls := calls_known Sodium.transparent .w64 (fun _ => ⟨fun _ => 0⟩) _ ⟨0, 0, false⟩
    known (.inl alive) (Option.isNone_iff_eq_none.mp free) fun a b lt lt' _ => by
      have last : a < 1 ∧ b < 1 := ⟨Nat.lt_of_lt_of_le lt draws, Nat.lt_of_lt_of_le lt' draws⟩
      omega
  exact ⟨n, first ▸ calls.2⟩

/-! ## Replies -/

/-- The response of a client to a lookup request. -/
def reply (c : DhtClient) (env : Env) (sockaddr : GSocketAddress) (srcid dstid : DhtId) : Msg :=
  .lookupRes c.id dstid
    ((c.update env.updateTime srcid (DhtAddress.serialize sockaddr) true).search env.searchTime dstid).1

lemma lookupReq_replies (env : Env) (sockaddr : GSocketAddress) {srcid : DhtId} (dstid : DhtId)
    (foreign : srcid ≠ c.id) : (c.lookupReq env sockaddr srcid dstid).log =
      .sendTo 0 (some sockaddr) (c.reply env sockaddr srcid dstid) :: c.log := by
  rw [lookupReq, if_neg foreign]
  rfl

/-- The response lists the target that the client knows. -/
lemma reply_names {events : List (Env × Event)} {env : Env} {sockaddr : GSocketAddress} {srcid : DhtId}
    {n : DhtNode} (foreign : srcid ≠ (run S w random key events).id)
    (known : n ∈ ((run S w random key events).lookupReq env sockaddr srcid n.id).table.nodes)
    (eligible : DhtTable.Eligible env.searchTime n) :
    ∃ nodes, (run S w random key events).reply env sockaddr srcid n.id =
      .lookupRes (run S w random key events).id n.id nodes ∧
        nodes.find? (·.id = n.id) = some n.entry := by
  refine ⟨_, rfl, ?_⟩
  have table := update_run S w random key events env.updateTime srcid (.serialize sockaddr)
  have own : ((run S w random key events).update env.updateTime srcid (.serialize sockaddr) true).id =
      (new S key).id := run_id S w random key events
  have found : n ∈ (((run S w random key events).update env.updateTime srcid (.serialize sockaddr)
      true).search env.searchTime n.id).2.table.nodes := by
    rw [lookupReq, if_neg foreign] at known
    exact known
  rw [search, table, own] at found ⊢
  exact DhtTable.search_names _ _ _ (DhtTable.mem_search _ _ _ _ n found) eligible

end Run

end DhtClient

namespace Network

open DhtClient (Calls reply)

variable {ι : Type} [DecidableEq ι] (S : Sodium) (site : ι → Site)

/-- The client `i` asks the client `m`, which knows the node `n`, for it, and after `mid` the response
    arrives from an address that the lookup `l` of `i` has a query to. -/
structure Referred (net : ι → DhtClient) (i m : ι) (n : DhtNode) (l : DhtLookup) (x₁ : Env × Event)
    (mid : List (ι × Env × Event)) (x₂ : Env × Event) (from₁ from₂ : GSocketAddress) : Prop where
  other : (net i).id ≠ (net m).id
  stranger : n.id ≠ (net i).id
  asked : x₁.2.Brings (site m).wordSize from₁ (.lookupReq (net i).id n.id)
  known : n ∈ (Parties.act (step S site) net (m, x₁) m).table.nodes
  eligible : DhtTable.Eligible x₁.1.searchTime n
  waits : (Parties.run (step S site) net ((m, x₁) :: mid) i).lookupTable n.id = some l
  query : ∃ q, l.query (.serialize from₂) = some q
  answered : x₂.2.Brings (site i).wordSize from₂ ((net m).reply x₁.1 from₁ (net i).id n.id)

variable {S site}

/-- The run of one client. -/
lemma run_alone (schedule : List (ι × Env × Event)) (p : ι) : ∃ events, run S site schedule p =
    DhtClient.run S (site p).wordSize (site p).random (site p).key events :=
  ⟨_, Parties.run_apply ..⟩

section Stages

variable {schedule mid : List (ι × Env × Event)} {i m : ι} {n : DhtNode} {l : DhtLookup}
  {x₁ x₂ : Env × Event} {from₁ from₂ : GSocketAddress}
  (R : Referred S site (run S site schedule) i m n l x₁ mid x₂ from₁ from₂)

include R

lemma Referred.reached : run S site (schedule ++ [(m, x₁)]) m =
    (run S site schedule m).lookupReq x₁.1 from₁ (run S site schedule i).id n.id := by
  rw [run_concat, step_brings R.asked]
  rfl

/-- The request is answered. -/
lemma Referred.sent : .sendTo 0 (some from₁)
    ((run S site schedule m).reply x₁.1 from₁ (run S site schedule i).id n.id) ∈
      (run S site (schedule ++ [(m, x₁)]) m).log := by
  rw [R.reached, DhtClient.lookupReq_replies x₁.1 from₁ n.id R.other]
  exact List.mem_cons_self

/-- The response tells where the node is. -/
lemma Referred.tells :
    ∃ nodes, (run S site schedule m).reply x₁.1 from₁ (run S site schedule i).id n.id =
      .lookupRes (run S site schedule m).id n.id nodes ∧
        nodes.find? (·.id = n.id) = some n.entry := by
  obtain ⟨events, alone⟩ : ∃ events, run S site schedule m = _ := run_alone schedule m
  have known := R.known
  have other := R.other
  rw [act_run, R.reached] at known
  rw [alone] at known other ⊢
  exact DhtClient.reply_names _ _ _ _ other known R.eligible

/-- The lookup when the response arrives. -/
lemma Referred.before : (run S site (schedule ++ (m, x₁) :: mid) i).lookupTable n.id = some l ∧
    l.id = n.id ∧ (run S site (schedule ++ (m, x₁) :: mid) i).id = (run S site schedule i).id := by
  have waits := R.waits
  rw [← run_append] at waits
  exact ⟨waits, ((run_books _ i).lookup n.id l waits).1,
    (run_later S site schedule ((m, x₁) :: mid) i).id⟩

end Stages

/-- A client that is asked for a node that it knows tells where it is, and when the response arrives,
    all calls that waited for the node are requests to its address, whatever the clients did in
    between. -/
theorem relay {schedule mid : List (ι × Env × Event)} {i m : ι} {n : DhtNode} {l : DhtLookup}
    {x₁ x₂ : Env × Event} {from₁ from₂ : GSocketAddress}
    (R : Referred S site (run S site schedule) i m n l x₁ mid x₂ from₁ from₂)
    (fresh : Fresh site (run S site (schedule ++ ((m, x₁) :: mid ++ [(i, x₂)])))) :
    let net := run S site schedule
    let before := run S site (schedule ++ (m, x₁) :: mid)
    let final := run S site (schedule ++ ((m, x₁) :: mid ++ [(i, x₂)]))
    .sendTo 0 (some from₁) ((net m).reply x₁.1 from₁ (net i).id n.id) ∈
      (run S site (schedule ++ [(m, x₁)]) m).log ∧
    (final i).lookupTable n.id = none ∧
    ∀ p r, l.results[p]? = some r →
      (final i).Calls n.id n.addr ((site i).random ((before i).draws + p)) r := by
  intro net before final
  refine ⟨R.sent, ?_⟩
  obtain ⟨nodes, reply, listed⟩ := R.tells
  obtain ⟨waits, same, own⟩ := R.before
  obtain ⟨q, query⟩ := R.query
  have answered := R.answered
  rw [reply] at answered
  have last : final = run S site ((schedule ++ (m, x₁) :: mid) ++ [(i, x₂)]) :=
    congrArg (run S site) (by simp)
  have received : final i = (before i).lookupRes (site i).random x₂.1 from₂ (net m).id l.id nodes := by
    rw [last, run_concat, step_brings answered, same]
    rfl
  have C : (final i).books.Consistent none := run_books _ i
  have drawn := fun a b lt lt' e => (fresh i i a b lt lt' e).2
  rw [← same] at waits listed
  have calls := DhtClient.lookupRes_calls (c := before i) (site i).random (own ▸ R.other.symm)
    (same.trans_ne (own ▸ R.stranger)) waits query listed (received ▸ C) (received ▸ drawn)
  rw [← received, same] at calls
  exact calls

/-! ## A call over another client -/

/-- An IPv4 host. -/
def host (n : UInt8) : GSocketAddress := ⟨.ipv4 fun _ => n, 5004⟩

/-- The id of a key with one byte set. -/
def peer (n : UInt8) : DhtId := DhtId.fromPubkey Sodium.transparent (byteKey n)

/-- What the second client of `pair` knows. -/
def known : List MsgNode := [⟨peer 1, .serialize (host 1)⟩, ⟨peer 9, .serialize (host 9)⟩]

/-- The first client asks the second one for the third one. -/
def ask : Bool × Env × Input :=
  (true, ⟨0, 0, false⟩, .message (.lookupReq (peer 1) (peer 9)) (host 1))

/-- The response of the second client. -/
def tell : Bool × Env × Input :=
  (false, ⟨0, 0, false⟩, .message (.lookupRes (peer 2) (peer 9) known) (host 2))

/-- The clients of `pair` hear of each other, the second one of a third client too, which the first one
    looks up. -/
def referred : List (Bool × Env × Input) :=
  [(false, ⟨0, 0, false⟩, .message (.lookupReq (peer 2) (peer 2)) (host 2)),
    (true, ⟨0, 0, false⟩, .message (.lookupReq (peer 9) (peer 9)) (host 9)),
    (false, ⟨0, 0, false⟩, .event (.lookupAsync (peer 9))), ask,
    (true, ⟨0, 0, false⟩, .event (.setListen true)), tell]

lemma referred_run (n : Nat) : run Sodium.transparent pair (schedule (referred.take n)) =
    runInputs Sodium.transparent pair (referred.take n) := by
  refine run_schedule fun e mem => ?_
  have short : ∀ e ∈ referred, e.2.2.Short := by
    simp +decide [referred, ask, tell, known, Input.Short, Msg.bytes_length]
  exact short e (List.mem_of_mem_take mem)

/-- The response of the second client. -/
lemma reply_known : (run Sodium.transparent pair (schedule (referred.take 3)) true).reply ⟨0, 0, false⟩
    (host 1) (peer 1) (peer 9) = .lookupRes (peer 2) (peer 9) Network.known := by
  rw [referred_run]
  decide +kernel

/-- The call of the first client is a request to the third one. -/
theorem relay_referred : (run Sodium.transparent pair (schedule referred) false).Calls (peer 9)
    (.serialize (host 9)) (byteKey 10) 0 := by
  have told : (runInputs Sodium.transparent pair (referred.take 4) true).table.nodes.any (fun n =>
      n.id = peer 9 ∧ n.addr = .serialize (host 9) ∧ n.isAlive = true) := by decide +kernel
  obtain ⟨n, known, facts⟩ := List.any_eq_true.mp told
  obtain ⟨target, addr, alive⟩ := of_decide_eq_true facts
  have asks : ((runInputs Sodium.transparent pair (referred.take 5) false).lookupTable (peer 9)).any
      (fun l => l.results = [0] ∧ (l.query (.serialize (host 2))).isSome) := by decide +kernel
  obtain ⟨l, waits, facts⟩ := (Option.any_eq_true _ _).mp asks
  obtain ⟨results, query⟩ := of_decide_eq_true facts
  have ids : ∀ i, (run Sodium.transparent pair (schedule (referred.take 3)) i).id =
      peer (if i then 2 else 1) := fun i => (run_traced _ _ _ i).before.id
  have four : Parties.act (step Sodium.transparent pair)
      (run Sodium.transparent pair (schedule (referred.take 3))) (true, event ask) =
      run Sodium.transparent pair (schedule (referred.take 4)) := act_run _ (true, event ask)
  have five : Parties.run (step Sodium.transparent pair)
      (run Sodium.transparent pair (schedule (referred.take 3)))
      [(true, event ask), (true, ⟨0, 0, false⟩, .setListen true)] =
      run Sodium.transparent pair (schedule (referred.take 5)) :=
    (run_append _ [(true, event ask), (true, ⟨0, 0, false⟩, .setListen true)]).symm
  have R : Referred Sodium.transparent pair (run Sodium.transparent pair (schedule (referred.take 3)))
      false true n l (event ask) [(true, ⟨0, 0, false⟩, .setListen true)] (event tell) (host 1)
      (host 2) := by
    refine ⟨?_, ?_, ?_, ?_, .inl alive, ?_, Option.isSome_iff_exists.mp query, ?_⟩
    · rw [ids, ids]
      decide +kernel
    · rw [ids, target]
      decide +kernel
    · rw [ids, target]
      exact brings_message _ (Msg.bytes_length.trans_le (by decide)) (host 1)
    · rw [four, referred_run]
      exact known
    · rw [five, referred_run, target]
      exact waits
    · rw [ids, target]
      change Event.Brings _ _ _ ((run _ pair _ true).reply ⟨0, 0, false⟩ (host 1) (peer 1) (peer 9))
      rw [reply_known]
      exact brings_message _ (Msg.bytes_length.trans_le (by decide)) (host 2)
  have fresh : Fresh pair (run Sodium.transparent pair (schedule referred)) := by
    rw [show referred = referred.take 6 from rfl, referred_run, fresh_iff]
    decide +kernel
  obtain ⟨-, -, calls⟩ := relay R fresh
  have draws : (run Sodium.transparent pair (schedule (referred.take 5)) false).draws = 0 := by
    rw [referred_run]
    decide +kernel
  have first := calls 0 0 (by rw [results]; rfl)
  rw [target, addr] at first
  change (run Sodium.transparent pair (schedule referred) false).Calls _ _ ((pair false).random
    ((run Sodium.transparent pair (schedule (referred.take 5)) false).draws + 0)) 0 at first
  rw [draws] at first
  exact first

end Network

end Nanotalk
