import Nanotalk.Dht.Sessions

/-!
# Connection requests

The part of the log that is about the first message of the handshake, `DhtClient.requests`. Only the
loop of `dht_lookup_update` adds to it, and what it adds is a request with the public key of the
client and a nonce that was drawn for it (`step_requested`).
-/

namespace Nanotalk
open Glib
open DhtClient (Env)

/-- The actions that belong to connection requests. -/
def Action.requesting : Action → Bool
  | sendTo _ _ (.connectionReq ..) => true
  | attempt .. => true
  | _ => false

/-- Every connection request in a log has this public key, and a nonce that was drawn for one. -/
def Requested (key : DhtKey) (log : List Action) : Prop :=
  ∀ socket dest pubkey nonce, .sendTo socket dest (.connectionReq pubkey nonce) ∈ log →
    pubkey = key ∧ ∃ id, .attempt id nonce ∈ log

namespace DhtClient

/-- The connection requests of a client. -/
def requests (c : DhtClient) : List Action := c.log.filter Action.requesting

variable {c c' : DhtClient} {l : DhtLookup}

/-- An action that requests nothing. -/
lemma requests_act (action : Action) (other : action.requesting = false) :
    (c.act action).requests = c.requests :=
  List.filter_cons_of_neg (by simp [other])

/-- An action that requests a connection, or records it. -/
lemma requests_act_requesting (action : Action) (requesting : action.requesting = true) :
    (c.act action).requests = action :: c.requests :=
  List.filter_cons_of_pos requesting

/-- Lookups request nothing before they find their node. -/
lemma Seeks.requests (F : Seeks c c') : c'.requests = c.requests := by
  refine F.filter fun action seeking => ?_
  unfold Action.seeking at seeking
  split at seeking <;> first | rfl | cases seeking

/-- What serves the requests of others requests nothing. -/
lemma Serves.requests (F : Serves c c') : c'.requests = c.requests := by
  refine F.filter fun action serving => ?_
  unfold Action.serving at serving
  split at serving <;> first | rfl | cases serving

section Random

variable (random : Nat → DhtKey)

/-- The public key stays. -/
lemma requestConnection_pubkey (id : DhtId) (addr : DhtAddress) (result : Nat) :
    (c.requestConnection random id addr result).pubkey = c.pubkey := by
  unfold requestConnection
  dsimp only
  exact connectionReplace_pubkey

/-- A request is recorded and sent, with the nonce that is drawn for it. -/
lemma requests_requestConnection (id : DhtId) (addr : DhtAddress) (result : Nat) :
    (c.requestConnection random id addr result).requests =
      .sendTo 0 (some addr.deserialize) (.connectionReq c.pubkey (random c.draws)) ::
        .attempt id (random c.draws) :: c.requests := by
  unfold requestConnection
  dsimp only
  rw [requests_act_requesting _ rfl, connectionReplace_serves.requests, connectionReplace_pubkey]
  rfl

variable {key : DhtKey}

/-- Connections are requested for several callbacks. -/
lemma requestConnections_requested (R : Requested key c.requests) (own : c.pubkey = key) (id : DhtId)
    (addr : DhtAddress) (results : List Nat) :
    Requested key (results.foldl (fun c r => c.requestConnection random id addr r) c).requests := by
  induction results generalizing c with
  | nil => exact R
  | cons r rs ih =>
    refine ih ?_ ((requestConnection_pubkey random id addr r).trans own)
    rw [requests_requestConnection, own]
    intro socket dest pubkey nonce mem
    rw [List.mem_cons, List.mem_cons] at mem
    rcases mem with e | e | mem
    · cases e
      exact ⟨rfl, id, List.mem_cons_of_mem _ List.mem_cons_self⟩
    · cases e
    · obtain ⟨same, id', attempted⟩ := R socket dest pubkey nonce mem
      exact ⟨same, id', List.mem_cons_of_mem _ (List.mem_cons_of_mem _ attempted)⟩

/-- A lookup that finds its node requests connections. -/
lemma updateLoop_requested (R : Requested key c.requests) (own : c.pubkey = key)
    (nodes : List MsgNode) : Requested key (c.updateLoop random l nodes).requests := by
  induction nodes generalizing c l with
  | nil =>
    rw [updateLoop, lookupDispatch_seeks.requests]
    exact R
  | cons node nodes ih =>
    unfold updateLoop
    split
    · exact ih R own
    · split
      · rw [(lookupRemove_seeks _).requests]
        exact requestConnections_requested random R own _ _ _
      · exact ih (c := c.putLookup (l.insertQuery node)) R own

/-- So it does with the nodes that it takes. -/
lemma lookupUpdate_requested {log : List Action} {nodes : List MsgNode} (R : Requested key log)
    (same : c.requests = log) (own : c.pubkey = key) :
    Requested key (c.lookupUpdate random l nodes).requests := by
  refine updateLoop_requested (c := c.act (.offered l.id nodes)) random ?_ own nodes
  rw [requests_act _ rfl, same]
  exact R

/-- A call that finds its node in the table requests a connection. -/
lemma lookupAsync_requested (R : Requested key c.requests) (own : c.pubkey = key) (now : Int)
    (id : DhtId) : Requested key (c.lookupAsync random now id).requests := by
  unfold lookupAsync
  dsimp only
  split
  · rw [requests_act _ rfl]
    exact R
  · split
    · exact R
    · exact lookupUpdate_requested random R rfl own

/-- A bootstrap may find the node of a lookup for the own id. -/
lemma bootstrap_requested (R : Requested key c.requests) (own : c.pubkey = key)
    (address : GSocketAddress) : Requested key (c.bootstrap random address).requests := by
  unfold bootstrap
  dsimp only
  split
  · exact lookupUpdate_requested random R rfl own
  · exact lookupUpdate_requested random R rfl own

/-- So may a refresh, of one for a random id. -/
lemma refresh_requested (R : Requested key c.requests) (own : c.pubkey = key) (now : Int)
    (nbits : Nat) (drawn : Nat → UInt8) :
    Requested key (c.refresh random now nbits drawn).requests :=
  lookupUpdate_requested random R
    (lookupReplace_seeks (l := .new (refreshId c.id nbits drawn) [])).requests
    ((congrArg Ends.pubkey (lookupReplace_seeks
      (l := .new (refreshId c.id nbits drawn) [])).ends).trans own)

end Random

section Receive

variable (S : Sodium) (random : Nat → DhtKey) (env : Env) (sockaddr : GSocketAddress) {key : DhtKey}

/-- A lookup response may bring the node that is looked for. -/
lemma lookupRes_requested (R : Requested key c.requests) (own : c.pubkey = key)
    (srcid dstid : DhtId) (nodes : List MsgNode) :
    Requested key (c.lookupRes random env sockaddr srcid dstid nodes).requests := by
  unfold lookupRes
  dsimp only
  split
  · exact R
  · split
    · exact R
    · split
      · exact R
      · apply lookupUpdate_requested random R
        · split <;> rfl
        · split <;> exact own

/-- A message. -/
lemma receiveMsg_requested (R : Requested key c.requests) (own : c.pubkey = key) (msg : Msg) :
    Requested key (c.receiveMsg S random env sockaddr msg).requests := by
  cases msg with
  | lookupReq srcid dstid =>
    rw [receiveMsg, (lookupReq_serves env sockaddr srcid dstid).requests]
    exact R
  | lookupRes srcid dstid nodes => exact lookupRes_requested random env sockaddr R own _ _ nodes
  | connectionReq pubkey nonce =>
    rw [receiveMsg, (connectionReq_serves S random env sockaddr pubkey nonce).requests]
    exact R
  | connectionRes1 pubkey nonce peerNonce authTag =>
    rw [receiveMsg, (connectionRes1_serves S env sockaddr pubkey nonce peerNonce authTag).requests]
    exact R
  | connectionRes2 peerNonce authTag =>
    rw [receiveMsg, (connectionRes2_serves sockaddr peerNonce authTag).requests]
    exact R

end Receive

/-- A timeout requests nothing. -/
lemma requests_fire (env : Env) (source : Nat) : (c.fire env source).requests = c.requests := by
  unfold fire
  split
  · unfold queryTimeout
    split
    · rfl
    · split
      · rfl
      · rw [lookupDispatch_seeks.requests]
        rfl
  · exact (connectionTimeout_serves _).requests
  · rfl

/-- What every event keeps. -/
theorem step_requested (S : Sodium) (w : WordSize) (random : Nat → DhtKey) {key : DhtKey} (env : Env)
    (e : Event) (R : Requested key c.requests) (own : c.pubkey = key) :
    Requested key (c.step S w random env e).requests := by
  cases e with
  | lookupAsync id => exact lookupAsync_requested random R own _ id
  | bootstrap address => exact bootstrap_requested random R own address
  | setListen listen => exact R
  | refresh nbits drawn => exact refresh_requested random R own _ nbits drawn
  | receive memory len sockaddr =>
    rw [step, receive]
    split
    · exact receiveMsg_requested S random env sockaddr R own _
    · exact R
  | timeout source =>
    rw [step, requests_fire]
    exact R

end DhtClient

end Nanotalk
