import Nanotalk.Dht.Audit
import Nanotalk.Dht.Directory

/-!
# Whom a client writes to

A client is told addresses by a bootstrap, by lookup messages and by the nodes in responses to
lookups (`Tells`). Its requests go there, and its other datagrams answer one that it received: it
writes to nobody else (`sends_due`). What it tells others are nodes that it heard itself
(`replies_latest`).
-/

namespace Nanotalk
open Glib

/-- A message comes in from an address. -/
def Event.Brings (w : WordSize) (event : Event) (sockaddr : GSocketAddress) (msg : Msg) : Prop :=
  ∃ memory len, event = .receive memory len sockaddr ∧ Msg.read w memory len = some msg

namespace DhtClient

/-- An event tells a client an address. -/
inductive Tells (w : WordSize) (own : DhtId) (event : Event) : DhtAddress → Prop
  | bootstrap (address : GSocketAddress) (e : event = .bootstrap address) :
    Tells w own event (.serialize address)
  | request (sockaddr : GSocketAddress) (srcid dstid : DhtId)
    (e : event.Brings w sockaddr (.lookupReq srcid dstid)) (foreign : srcid ≠ own) :
    Tells w own event (.serialize sockaddr)
  | response (sockaddr : GSocketAddress) (srcid dstid : DhtId) (nodes : List MsgNode)
    (e : event.Brings w sockaddr (.lookupRes srcid dstid nodes)) (foreign : srcid ≠ own) :
    Tells w own event (.serialize sockaddr)
  | node (sockaddr : GSocketAddress) (srcid dstid : DhtId) (nodes : List MsgNode) (node : MsgNode)
    (e : event.Brings w sockaddr (.lookupRes srcid dstid nodes)) (foreign : srcid ≠ own)
    (mem : node ∈ nodes) : Tells w own event node.addr

section Due

variable (S : Sodium) (w : WordSize) (own : DhtId) (events : List (Env × Event))

/-- An address that the events tell. -/
def Told (addr : DhtAddress) : Prop := ∃ e ∈ events, Tells w own e.2 addr

/-- A message that the events bring. -/
def Came (sockaddr : GSocketAddress) (msg : Msg) : Prop := ∃ e ∈ events, e.2.Brings w sockaddr msg

/-- A message to an address is called for by the events: requests go to addresses that the client was
    told, answers to where the request came from. -/
def Due (dest : Option GSocketAddress) : Msg → Prop
  | .lookupReq _ _ | .connectionReq _ _ | .connectionRes2 _ _ =>
    ∃ addr, Told w own events addr ∧ dest = some addr.deserialize
  | .lookupRes _ dstid _ => ∃ sockaddr srcid, srcid ≠ own ∧ dest = some sockaddr ∧
    Came w events sockaddr (.lookupReq srcid dstid)
  | .connectionRes1 _ _ peerNonce _ => ∃ sockaddr pubkey, DhtId.fromPubkey S pubkey ≠ own ∧
    dest = some sockaddr ∧ Came w events sockaddr (.connectionReq pubkey peerNonce)

/-- The nodes of a reply are those of a search, after the request came in. -/
structure Reply (dest : Option GSocketAddress) (srcid dstid : DhtId) (nodes : List MsgNode) : Prop where
  id : srcid = own
  length : nodes.length ≤ DHT_NODE_COUNT
  nodup : (nodes.map MsgNode.id).Nodup
  asked : ∃ before e after sockaddr peer, events = before ++ e :: after ∧ dest = some sockaddr ∧
    e.2.Brings w sockaddr (.lookupReq peer dstid) ∧
    ∀ entry ∈ nodes, entry.id ≠ own ∧ ∃ node : DhtNode, node.entry = entry ∧
      Latest ((before ++ [e]).filterMap (hears w own)) node

/-- What is called for by the events. -/
def Proper : Action → Prop
  | .sendTo _ dest (.lookupRes srcid dstid nodes) =>
    Due S w own events dest (.lookupRes srcid dstid nodes) ∧
    Reply w own events dest srcid dstid nodes
  | .sendTo _ dest msg => Due S w own events dest msg
  | .connect _ sockaddr => ∃ nonce authTag,
    Came w events sockaddr (.connectionRes2 nonce authTag) ∨
    ∃ pubkey peerNonce, Came w events sockaddr (.connectionRes1 pubkey peerNonce nonce authTag)
  | _ => True

/-- A client writes where it is called for. -/
def correspondence : Audit where
  addr := Told w own events
  heard := Came w events
  waits _ _ := True
  connection k := k.isRemote = false →
    ∃ addr, Told w own events addr ∧ k.sockaddr = some addr.deserialize
  action := Proper S w own events

/-- What a client does with what it has heard is proper. -/
lemma correspondence_closed (pubkey privkey : DhtKey) :
    (correspondence S w own events).Closed S own pubkey privkey where
  silent action silent := by
    cases action with
    | sendTo socket dest msg => cases silent
    | connect socket dest => cases silent
    | _ => trivial
  ask addr _ told := ⟨addr, told, rfl⟩
  fail _ _ _ := trivial
  cancel _ _ _ := trivial
  expire _ _ _ := trivial
  attempt _ _ addr _ _ _ _ told := ⟨fun _ => ⟨addr, told, rfl⟩, addr, told, rfl⟩
  waiting _ _ _ _ := trivial
  respond s sockaddr _ _ came foreign _ :=
    ⟨fun remote => Bool.noConfusion remote, sockaddr, s.pubkey, foreign, rfl, came⟩
  derive _ _ K _ _ _ _ := K
  confirm k s sockaddr socket K isOwn _ _ _ came :=
    ⟨K isOwn, ⟨_, _, .inr ⟨_, _, came⟩⟩, fun _ _ => trivial⟩
  accept _ _ _ _ _ _ came := ⟨⟨_, _, .inl came⟩, trivial⟩

end Due

/-! ## What the events of a run bring -/

section Run

variable (S : Sodium) (w : WordSize) (random : Nat → DhtKey) (key : DhtKey)

/-- The sender of a lookup message tells its address. -/
lemma hears_tells {own id : DhtId} {e : Env × Event} {now : Int} {addr : DhtAddress}
    (here : hears w own e = some (now, id, addr)) : id ≠ own ∧ Tells w own e.2 addr := by
  obtain ⟨env, event⟩ := e
  cases event with
  | receive memory len sockaddr =>
    unfold hears at here
    dsimp only at here
    split at here
    · rename_i srcid dstid read
      split at here
      · cases here
      · rename_i foreign
        cases here
        exact ⟨foreign, .request sockaddr _ dstid ⟨memory, len, rfl, read⟩ foreign⟩
    · rename_i srcid dstid nodes read
      split at here
      · cases here
      · rename_i foreign
        cases here
        exact ⟨foreign, .response sockaddr _ dstid nodes ⟨memory, len, rfl, read⟩ foreign⟩
    · cases here
  | _ => cases here

/-- The last report is one of the events. -/
lemma Latest.heard {own : DhtId} {events : List (Env × Event)} {node : DhtNode}
    (L : Latest (events.filterMap (hears w own)) node) :
    node.id ≠ own ∧ Told w own events node.addr := by
  obtain ⟨before, after, e, -⟩ := L
  have mem : (node.timestamp, node.id, node.addr) ∈ events.filterMap (hears w own) :=
    e ▸ List.mem_append_right _ List.mem_cons_self
  obtain ⟨event, here, heard⟩ := List.mem_filterMap.mp mem
  obtain ⟨foreign, tells⟩ := hears_tells w heard
  exact ⟨foreign, event, here, tells⟩

/-- What a search finds in a run. -/
lemma search_run (events : List (Env × Event)) (now : Int) (id : DhtId) :
    ∀ entry ∈ ((run S w random key events).search now id).1,
      ∃ node : DhtNode, node.entry = entry ∧
        Latest (events.filterMap (hears w (new S key).id)) node := by
  have found := DhtTable.search_latest (new S key).id ((runEvents S w random (new S key) events).flatMap
    (TableEvent.calls (new S key).id)) now id
  rw [runEvents_report, ← routed_run, ← run_id S w random key events] at found
  rw [← run_id S w random key events]
  exact found.2.2

/-- The table after a report of a message. -/
lemma update_run (events : List (Env × Event)) (now : Int) (id : DhtId) (addr : DhtAddress) :
    ((run S w random key events).update now id addr true).table = DhtTable.run (new S key).id
      ((runEvents S w random (new S key) events).flatMap (TableEvent.calls (new S key).id) ++
        [.update now id addr true]) := by
  rw [DhtTable.run, List.foldl_append, ← DhtTable.run, ← routed_run, update, run_id]
  rfl

/-- The nodes of a reply are those that the client heard, the one that asks included. -/
lemma reply_run (events : List (Env × Event)) {e : Env × Event} {sockaddr : GSocketAddress}
    {srcid dstid : DhtId} (foreign : srcid ≠ (new S key).id)
    (brings : e.2.Brings w sockaddr (.lookupReq srcid dstid)) :
    let nodes := (((run S w random key events).update e.1.updateTime srcid
      (DhtAddress.serialize sockaddr) true).search e.1.searchTime dstid).1
    nodes.length ≤ DHT_NODE_COUNT ∧ (nodes.map MsgNode.id).Nodup ∧
    ∀ entry ∈ nodes, ∃ node : DhtNode, node.entry = entry ∧
      Latest ((events ++ [e]).filterMap (hears w (new S key).id)) node := by
  obtain ⟨memory, len, event, read⟩ := brings
  have heard : hears w (new S key).id e =
      some (e.1.updateTime, srcid, DhtAddress.serialize sockaddr) := by
    rw [hears, event]
    simp only [read, if_neg foreign]
  have found := DhtTable.search_latest (new S key).id
    ((runEvents S w random (new S key) events).flatMap (TableEvent.calls (new S key).id) ++
      [.update e.1.updateTime srcid (DhtAddress.serialize sockaddr) true]) e.1.searchTime dstid
  have last : [e].filterMap (hears w (new S key).id) =
      [TableCall.update e.1.updateTime srcid (DhtAddress.serialize sockaddr) true].filterMap
        TableCall.report := by
    rw [List.filterMap_cons, heard]
    rfl
  rw [← update_run, List.filterMap_append, runEvents_report, ← last, ← List.filterMap_append] at found
  rw [search, show ((run S w random key events).update e.1.updateTime srcid
    (DhtAddress.serialize sockaddr) true).id = (new S key).id from run_id S w random key events]
  exact found

lemma correspondence_admitted {events before after : List (Env × Event)} {e : Env × Event}
    (split : events = before ++ e :: after) :
    (correspondence S w (new S key).id events).Admitted (new S key).id w (run S w random key before)
      e.1 e.2 := by
  have here : e ∈ events := split ▸ List.mem_append_right _ List.mem_cons_self
  have found : ∀ now id, ∀ entry ∈ ((run S w random key before).search now id).1,
      Told w (new S key).id events entry.addr := by
    intro now id entry mem
    obtain ⟨node, rfl, latest⟩ := search_run S w random key before now id entry mem
    obtain ⟨-, e', mem, tells⟩ := Latest.heard w latest
    exact ⟨e', split ▸ List.mem_append_left _ mem, tells⟩
  obtain ⟨env, event⟩ := e
  cases event with
  | lookupAsync id =>
    refine ⟨?_, found _ _⟩
    split <;> trivial
  | bootstrap address => exact ⟨_, here, .bootstrap address rfl⟩
  | setListen listen => trivial
  | refresh nbits drawn => exact found _ _
  | receive memory len sockaddr =>
    rw [Audit.Admitted]
    cases read : Msg.read w memory len with
    | none => trivial
    | some msg =>
      have brings : Event.Brings w (.receive memory len sockaddr) sockaddr msg :=
        ⟨memory, len, rfl, read⟩
      cases msg with
      | lookupReq srcid dstid =>
        intro foreign
        obtain ⟨length, nodup, latest⟩ := reply_run S w random key before
          (e := (env, .receive memory len sockaddr)) foreign brings
        refine ⟨⟨sockaddr, srcid, foreign, rfl, _, here, brings⟩, rfl, length, nodup,
          before, _, after, sockaddr, srcid, split, rfl, brings, fun entry mem => ?_⟩
        obtain ⟨node, e, heard⟩ := latest entry mem
        refine ⟨?_, node, e, heard⟩
        rw [← e]
        exact (Latest.heard w heard).1
      | lookupRes srcid dstid nodes =>
        exact fun foreign n mem => ⟨_, here, .node sockaddr srcid dstid nodes n brings foreign mem⟩
      | connectionReq peer nonce => exact ⟨_, here, brings⟩
      | connectionRes1 peer nonce peerNonce authTag => exact ⟨_, here, brings⟩
      | connectionRes2 peerNonce authTag => exact ⟨_, here, brings⟩
  | timeout source => trivial

lemma log_proper (events : List (Env × Event)) :
    ∀ action ∈ (run S w random key events).log, Proper S w (new S key).id events action :=
  (Audit.Passed.run_passed S w random key (correspondence_closed S w (new S key).id events _ _) events
    fun _ _ _ split => correspondence_admitted S w random key split).log

/-- Every datagram of a client goes to an address that it was told by an earlier event, or answers a
    request from there. Every socket that it connects, it connects to the sender of an answer. -/
theorem sends_due (events : List (Env × Event)) :
    (∀ socket dest msg, .sendTo socket dest msg ∈ (run S w random key events).log →
      Due S w (new S key).id events dest msg) ∧
    ∀ socket sockaddr, .connect socket sockaddr ∈ (run S w random key events).log →
      ∃ nonce authTag, Came w events sockaddr (.connectionRes2 nonce authTag) ∨
        ∃ pubkey peerNonce,
          Came w events sockaddr (.connectionRes1 pubkey peerNonce nonce authTag) := by
  refine ⟨fun socket dest msg mem => ?_, fun socket sockaddr mem => ?_⟩
  · have proper := log_proper S w random key events _ mem
    cases msg with
    | lookupRes srcid dstid nodes => exact proper.1
    | _ => exact proper
  · exact log_proper S w random key events _ mem

/-- The nodes in a reply are at most sixteen, none twice and not the client itself, and each sent the
    client a lookup message from the address that the reply has, its last one before the reply. -/
theorem replies_latest (events : List (Env × Event)) :
    ∀ socket dest srcid dstid nodes,
      .sendTo socket dest (.lookupRes srcid dstid nodes) ∈ (run S w random key events).log →
      Reply w (new S key).id events dest srcid dstid nodes :=
  fun _ _ _ _ _ mem => (log_proper S w random key events _ mem).2

/-- The reply to a first request has the node that asks. -/
theorem replies_latest_greeted : ∃ dest srcid dstid nodes, nodes ≠ [] ∧
    Reply .w64 (new Sodium.transparent ⟨fun i => if i.val = 0 then 1 else 0⟩).id greeted dest srcid
      dstid nodes := by
  have found : (run Sodium.transparent .w64 (fun _ => ⟨fun _ => 0⟩)
      ⟨fun i => if i.val = 0 then 1 else 0⟩ greeted).log.any (fun action =>
        match action with
        | .sendTo _ _ (.lookupRes _ _ nodes) => !nodes.isEmpty
        | _ => false) := by decide +kernel
  obtain ⟨action, mem, reply⟩ := List.any_eq_true.mp found
  split at reply
  · rename_i nodes
    exact ⟨_, _, _, nodes, by simpa using reply, replies_latest _ _ _ _ _ _ _ _ _ _ mem⟩
  · cases reply

end Run

end DhtClient

end Nanotalk
