import Mathlib.Logic.Relation
import Nanotalk.Dht.Frames

/-!
# The connection handshake

An abstract model of what a client does about connections, without lookups, queries, timeouts and
sockets: one end of the handshake (`Ends`) has its keys, its connection table, the number of nonces
drawn and the part of the log that is about connections, and moves by `Ends.Step`. A step that
answers a message is labelled with it.

`step_refines` connects it to the client: one event is a sequence of unlabelled steps of the ends,
or one step labelled with the message received.
-/

namespace Nanotalk
open Glib

/-- The actions that belong to the handshake. -/
def Action.traced : Action → Bool
  | sendTo _ _ (.connectionRes1 ..) => true
  | sendTo _ _ (.connectionRes2 ..) => true
  | complete .. => true
  | newConnection _ => true
  | attempt .. => true
  | answer _ => true
  | derive _ => true
  | _ => false

/-- The keys of a connection are those of a session with the node it is for. -/
structure DhtConnection.Keyed (S : Sodium) (k : DhtConnection) (s : Session) : Prop where
  session : k.session = some s
  nonce : s.nonce = k.nonce
  id : k.id = DhtId.fromPubkey S s.pubkey
  encKey : k.encKey = some (DhtKey.derive S s.shared s.nonce s.peerNonce).1
  decKey : k.decKey = some (DhtKey.derive S s.shared s.peerNonce s.nonce).1
  authTag : k.authTag = some (DhtKey.derive S s.shared s.peerNonce s.nonce).2

/-- One end of the handshake. -/
structure Ends where
  id : DhtId
  pubkey : DhtKey
  privkey : DhtKey
  listen : Bool
  connectionTable : DhtKey → Option DhtConnection
  draws : Nat
  log : List Action

namespace Ends

variable (S : Sodium) (random : Nat → DhtKey)

/-- The steps of one end, with the message they answer and whether no socket can be made. -/
inductive Step : Option (Msg × Bool) → Ends → Ends → Prop
  | idle {m : Option (Msg × Bool)} {E : Ends} : Step m E E
  | listen {E : Ends} (listen : Bool) : Step none E { E with listen := listen }
  /-- a connection is dropped -/
  | drop {m : Option (Msg × Bool)} {E : Ends} (nonce : DhtKey) :
    Step m E { E with connectionTable := Function.update E.connectionTable nonce none }
  /-- a connection is requested -/
  | attempt {E : Ends} (k : DhtConnection) (foreign : k.id ≠ E.id)
    (own : k.nonce = random E.draws) (role : k.isRemote = false) :
    Step none E { E with
      draws := E.draws + 1
      connectionTable := Function.update E.connectionTable k.nonce (some k)
      log := .attempt k.id k.nonce :: E.log }
  /-- a request is answered -/
  | answer {E : Ends} {pubkey nonce shared : DhtKey} (k : DhtConnection) (socket : Nat)
    (sockaddr : Option GSocketAddress) (foreign : DhtId.fromPubkey S pubkey ≠ E.id)
    (listen : E.listen = true) (secret : DhtKey.makeShared S E.privkey pubkey = some shared)
    (own : k.nonce = random E.draws) (role : k.isRemote = true)
    (keyed : k.Keyed S ⟨pubkey, shared, k.nonce, nonce⟩) :
    Step (some (.connectionReq pubkey nonce, false)) E { E with
      draws := E.draws + 1
      connectionTable := Function.update E.connectionTable k.nonce (some k)
      log := .sendTo socket sockaddr (.connectionRes1 E.pubkey k.nonce nonce
          (DhtKey.derive S shared k.nonce nonce).2) ::
        .answer ⟨pubkey, shared, k.nonce, nonce⟩ :: E.log }
  /-- a response is rejected, after its keys were written -/
  | derive {E : Ends} {pubkey nonce peerNonce tag shared : DhtKey} {k : DhtConnection} {error : Bool}
    (k' : DhtConnection) (here : E.connectionTable peerNonce = some k) (role : k.isRemote = false)
    (secret : DhtKey.makeShared S E.privkey pubkey = some shared)
    (id : k'.id = k.id) (nonce' : k'.nonce = peerNonce) (role' : k'.isRemote = false)
    (keyed : k'.Keyed S ⟨pubkey, shared, peerNonce, nonce⟩) :
    Step (some (.connectionRes1 pubkey nonce peerNonce tag, error)) E { E with
      connectionTable := Function.update E.connectionTable peerNonce (some k')
      log := .derive ⟨pubkey, shared, peerNonce, nonce⟩ :: E.log }
  /-- a response is accepted: the result is completed -/
  | finish {E : Ends} {pubkey nonce peerNonce shared : DhtKey} {k : DhtConnection}
    (k' : DhtConnection) (socket result : Nat) (sockaddr : Option GSocketAddress)
    (here : E.connectionTable peerNonce = some k) (role : k.isRemote = false)
    (secret : DhtKey.makeShared S E.privkey pubkey = some shared)
    (id : k'.id = k.id) (nonce' : k'.nonce = peerNonce)
    (keyed : k'.Keyed S ⟨pubkey, shared, peerNonce, nonce⟩) :
    Step (some (.connectionRes1 pubkey nonce peerNonce
        (DhtKey.derive S shared nonce peerNonce).2, false)) E { E with
      connectionTable := Function.update E.connectionTable peerNonce none
      log := .complete result k' ::
        .sendTo socket sockaddr (.connectionRes2 nonce
          (DhtKey.derive S shared peerNonce nonce).2) ::
        .derive ⟨pubkey, shared, peerNonce, nonce⟩ :: E.log }
  /-- the second response is accepted: the new connection is signalled -/
  | accept {E : Ends} {peerNonce tag : DhtKey} {k : DhtConnection} {error : Bool}
    (here : E.connectionTable peerNonce = some k) (role : k.isRemote = true)
    (verified : k.authTag = some tag) :
    Step (some (.connectionRes2 peerNonce tag, error)) E { E with
      connectionTable := Function.update E.connectionTable peerNonce none
      log := .newConnection k :: E.log }

/-- Steps that answer no message. -/
abbrev Steps : Ends → Ends → Prop := Relation.ReflTransGen (Step S random none)

end Ends

/-! ## The client -/

namespace DhtClient

/-- The end of the handshake that a client is. -/
def ends (c : DhtClient) : Ends :=
  ⟨c.id, c.pubkey, c.privkey, c.listen, c.connectionTable, c.draws, c.log.filter Action.traced⟩

variable {c : DhtClient} {l : DhtLookup} {k : DhtConnection}

/-- An action that is not traced leaves the end of the client as it is. -/
lemma ends_act (action : Action) (untraced : action.traced = false) :
    (c.act action).ends = c.ends := by
  simp [ends, act, untraced]

/-- A traced action is in the log of the end. -/
lemma ends_act_traced (action : Action) (traced : action.traced = true) :
    (c.act action).ends = { c.ends with log := action :: c.ends.log } := by
  simp [ends, act, traced]

/-- Lookups leave the end of the client as it is. -/
lemma Seeks.ends {c' : DhtClient} (F : Seeks c c') : c'.ends = c.ends := by
  have untraced : ∀ action : Action, action.seeking = true → action.traced = false := by
    intro action seeking
    unfold Action.seeking at seeking
    split at seeking <;> first | rfl | cases seeking
  have same := F.same
  simp only [Prod.mk.injEq] at same
  obtain ⟨id, pubkey, privkey, listen, table, draws, -⟩ := same
  rw [DhtClient.ends, id, pubkey, privkey, listen, table, draws, F.filter untraced]
  rfl

/-- A connection that replaces another one, for the end. -/
lemma ends_connectionReplace : (c.connectionReplace k).ends =
    { c.ends with
      connectionTable := Function.update c.connectionTable k.nonce (some k) } := by
  unfold connectionReplace
  split
  · exact connectionDestroy_seeks.ends
  · rfl

/-- The public key stays. -/
lemma connectionReplace_pubkey : (c.connectionReplace k).pubkey = c.pubkey :=
  congrArg Ends.pubkey ends_connectionReplace

/-- A connection that is removed, for the end. -/
lemma ends_connectionRemove (nonce : DhtKey) : (c.connectionRemove nonce).ends =
    { c.ends with connectionTable := Function.update c.connectionTable nonce none } := by
  unfold connectionRemove
  split
  · exact connectionDestroy_seeks.ends
  · rename_i free
    have e : Function.update c.connectionTable nonce none = c.connectionTable := by
      rw [← free]
      exact Function.update_eq_self _ _
    rw [e]
    rfl

/-- A connection is dropped, whatever was written to it before. -/
lemma ends_putConnection_connectionRemove :
    ((c.putConnection k).connectionRemove k.nonce).ends =
      { c.ends with connectionTable := Function.update c.connectionTable k.nonce none } := by
  rw [ends_connectionRemove]
  simp [ends, putConnection]

section Random

variable (S : Sodium) (random : Nat → DhtKey)

/-- The id stays. -/
lemma requestConnection_id (id : DhtId) (addr : DhtAddress) (result : Nat) :
    (c.requestConnection random id addr result).id = c.id := by
  unfold requestConnection
  dsimp only
  exact congrArg Ends.id ends_connectionReplace

/-- A connection to another node is requested in one step. -/
lemma requestConnection_refines {id : DhtId} (foreign : id ≠ c.id) (addr : DhtAddress)
    (result : Nat) :
    Ends.Step S random none c.ends (c.requestConnection random id addr result).ends := by
  unfold requestConnection
  dsimp only
  rw [ends_act _ rfl, ends_connectionReplace]
  exact .attempt ⟨id, random c.draws, false, c.nextSource, none, some addr.deserialize, some result,
    none, none, none, none⟩ foreign rfl rfl

/-- Connections for several callbacks are requested in as many steps. -/
lemma requestConnections_refines {id : DhtId} (foreign : id ≠ c.id) (addr : DhtAddress)
    (results : List Nat) :
    Ends.Steps S random c.ends
      (results.foldl (fun c r => c.requestConnection random id addr r) c).ends := by
  induction results generalizing c with
  | nil => exact .refl
  | cons r rs ih =>
    have step := requestConnection_refines S random foreign addr r
    refine .head step (ih ?_)
    rw [requestConnection_id]
    exact foreign

/-- A lookup requests connections when it finds its node. -/
lemma updateLoop_refines (nodes : List MsgNode) :
    Ends.Steps S random c.ends (c.updateLoop random l nodes).ends := by
  induction nodes generalizing c l with
  | nil =>
    rw [updateLoop, lookupDispatch_seeks.ends]
  | cons node nodes ih =>
    unfold updateLoop
    split
    · exact ih
    · rename_i foreign
      split
      · rename_i target
        rw [(lookupRemove_seeks _).ends]
        exact requestConnections_refines S random (target ▸ foreign) _ _
      · exact ih (c := c.putLookup (l.insertQuery node))

/-- So it does with the nodes that it takes. -/
lemma lookupUpdate_refines (nodes : List MsgNode) {E : Ends} (e : c.ends = E) :
    Ends.Steps S random E (c.lookupUpdate random l nodes).ends := by
  subst e
  have R := updateLoop_refines S random (c := c.act (.offered l.id nodes)) (l := l) nodes
  rwa [ends_act _ rfl] at R

/-- A call may find its node in the table. -/
lemma lookupAsync_refines (now : Int) (id : DhtId) :
    Ends.Steps S random c.ends (c.lookupAsync random now id).ends := by
  unfold lookupAsync
  dsimp only
  split
  · rw [ends_act _ rfl]
    exact .refl
  · split
    · exact .refl
    · exact lookupUpdate_refines S random _ rfl

/-- So may a bootstrap. -/
lemma bootstrap_refines (address : GSocketAddress) :
    Ends.Steps S random c.ends (c.bootstrap random address).ends := by
  unfold bootstrap
  dsimp only
  split
  · exact lookupUpdate_refines S random _ rfl
  · exact lookupUpdate_refines S random _ rfl

/-- So may a refresh. -/
lemma refresh_refines (now : Int) (nbits : Nat) (drawn : Nat → UInt8) :
    Ends.Steps S random c.ends (c.refresh random now nbits drawn).ends :=
  lookupUpdate_refines S random _
    (lookupReplace_seeks (l := .new (refreshId c.id nbits drawn) [])).ends

/-- A lookup response may bring the node that is looked for. -/
lemma lookupRes_refines (env : Env) (sockaddr : GSocketAddress) (srcid dstid : DhtId)
    (nodes : List MsgNode) :
    Ends.Steps S random c.ends (c.lookupRes random env sockaddr srcid dstid nodes).ends := by
  unfold lookupRes
  dsimp only
  split
  · exact .refl
  · split
    · exact .refl
    · split
      · exact .refl
      · apply lookupUpdate_refines
        split <;> rfl

end Random

/-- A timeout drops a connection, or nothing. -/
lemma fire_refines (S : Sodium) (random : Nat → DhtKey) (env : Env) (source : Nat) :
    Ends.Steps S random c.ends (c.fire env source).ends := by
  unfold fire
  split
  · unfold queryTimeout
    split
    · exact .refl
    · split
      · exact .refl
      · rw [lookupDispatch_seeks.ends]
        exact .refl
  · unfold connectionTimeout
    split
    · exact .refl
    · rename_i k here
      rw [ends_putConnection_connectionRemove]
      have completed : ∀ c' : DhtClient, c'.ends = c.ends → Ends.Step S random none c.ends
          { c'.ends with
            connectionTable := Function.update c'.ends.connectionTable k.nonce none } := by
        intro c' same
        rw [same]
        exact .drop _
      apply Relation.ReflTransGen.single
      apply completed
      split
      · exact ends_act _ rfl
      · rfl
  · exact .refl

section Receive

variable (S : Sodium) (random : Nat → DhtKey) (env : Env) (sockaddr : GSocketAddress)

/-- A connection request is a step that answers it or does nothing. -/
lemma connectionReq_refines (pubkey nonce : DhtKey) :
    Ends.Step S random (some (.connectionReq pubkey nonce, env.socketError)) c.ends
      (c.connectionReq S random env sockaddr pubkey nonce).ends := by
  unfold connectionReq
  dsimp only
  split
  · exact .idle
  · rename_i foreign
    split
    · rename_i listen
      split
      · exact .idle
      · rename_i shared secret
        split
        · exact .idle
        · rename_i socket
          rw [Bool.not_eq_true] at socket
          rw [ends_act_traced _ rfl, ends_connectionReplace, connectionReplace_pubkey, socket]
          exact Ends.Step.answer (E := c.ends) ⟨DhtId.fromPubkey S pubkey, random c.draws, true,
            c.nextSource, some c.nextSocket, none, none,
            some (DhtKey.derive S shared (random c.draws) nonce).1,
            some (DhtKey.derive S shared nonce (random c.draws)).1,
            some (DhtKey.derive S shared nonce (random c.draws)).2,
            some ⟨pubkey, shared, random c.draws, nonce⟩⟩ c.nextSocket (some sockaddr)
            foreign listen secret rfl rfl ⟨rfl, rfl, rfl, rfl, rfl, rfl⟩
    · exact .idle

/-- A connection response is a step that derives, that finishes, or that does nothing. -/
lemma connectionRes1_refines (C : c.books.Consistent none) (pubkey nonce peerNonce authTag : DhtKey) :
    Ends.Step S random (some (.connectionRes1 pubkey nonce peerNonce authTag, env.socketError)) c.ends
      (c.connectionRes1 S env sockaddr pubkey nonce peerNonce authTag).ends := by
  unfold connectionRes1
  dsimp only
  split
  · exact .idle
  · rename_i k here
    obtain ⟨rfl, _, role⟩ := C.connection _ _ here
    split
    · exact .idle
    · rename_i ours
      obtain ⟨initiator, id⟩ := not_or.mp ours
      split
      · exact .idle
      · rename_i shared secret
        have initiator : k.isRemote = false := by simpa using initiator
        have id : k.id = DhtId.fromPubkey S pubkey := not_not.mp id
        have rejected : Ends.Step S random
            (some (.connectionRes1 pubkey nonce k.nonce authTag, env.socketError)) c.ends _ :=
          .derive
            { k with
              encKey := some (DhtKey.derive S shared k.nonce nonce).1
              decKey := some (DhtKey.derive S shared nonce k.nonce).1
              authTag := some (DhtKey.derive S shared nonce k.nonce).2
              session := some ⟨pubkey, shared, k.nonce, nonce⟩ }
            here initiator secret rfl rfl initiator ⟨rfl, rfl, id, rfl, rfl, rfl⟩
        split
        · exact rejected
        · rename_i accepted
          obtain rfl := not_not.mp accepted
          split
          · exact rejected
          · rename_i socket
            rw [Bool.not_eq_true] at socket
            rw [socket]
            split
            · rename_i result _
              have finished : Ends.Step S random (some (.connectionRes1 pubkey nonce k.nonce
                  (DhtKey.derive S shared nonce k.nonce).2, false)) c.ends _ :=
                .finish
                  { k with
                    encKey := some (DhtKey.derive S shared k.nonce nonce).1
                    decKey := some (DhtKey.derive S shared nonce k.nonce).1
                    authTag := some (DhtKey.derive S shared nonce k.nonce).2
                    session := some ⟨pubkey, shared, k.nonce, nonce⟩
                    socket := some c.nextSocket
                    timeoutSource := 0 }
                  c.nextSocket result k.sockaddr here initiator secret rfl rfl
                  ⟨rfl, rfl, id, rfl, rfl, rfl⟩
              rw [ends_act_traced _ rfl]
              simpa [ends, act, connectionSteal, putConnection, sourceRemove, socketNew,
                Action.traced, List.filter_cons] using finished
            · rename_i unawaited
              exact absurd (role.mpr unawaited) (by simp [initiator])

/-- A confirmation is a step that accepts or does nothing. -/
lemma connectionRes2_refines (C : c.books.Consistent none) (peerNonce authTag : DhtKey) :
    Ends.Step S random (some (.connectionRes2 peerNonce authTag, env.socketError)) c.ends
      (c.connectionRes2 sockaddr peerNonce authTag).ends := by
  unfold connectionRes2
  dsimp only
  split
  · exact .idle
  · rename_i k here
    obtain ⟨rfl, _⟩ := C.connection _ _ here
    split
    · exact .idle
    · rename_i valid
      obtain ⟨role, verified⟩ := not_or.mp valid
      rw [connectionDestroy_seeks.ends]
      split
      · rw [ends_act_traced _ rfl, ends_act _ rfl]
        exact .accept here (by simpa using role) (not_not.mp verified)
      · exact .drop _

/-- A lookup request is no matter of connections. -/
lemma lookupReq_refines (srcid dstid : DhtId) :
    (c.lookupReq env sockaddr srcid dstid).ends = c.ends := by
  unfold lookupReq
  split
  · rfl
  · exact ends_act _ rfl

/-- A message is received: the ends answer it in one step, or move on their own. -/
lemma receiveMsg_refines (C : c.books.Consistent none) (msg : Msg) :
    Ends.Steps S random c.ends (c.receiveMsg S random env sockaddr msg).ends ∨
      Ends.Step S random (some (msg, env.socketError)) c.ends
        (c.receiveMsg S random env sockaddr msg).ends := by
  cases msg with
  | lookupReq srcid dstid =>
    left
    rw [receiveMsg, lookupReq_refines]
  | lookupRes srcid dstid nodes => exact .inl (lookupRes_refines S random env sockaddr _ _ nodes)
  | connectionReq pubkey nonce =>
    exact .inr (connectionReq_refines S random env sockaddr pubkey nonce)
  | connectionRes1 pubkey nonce peerNonce authTag =>
    exact .inr (connectionRes1_refines S random env sockaddr C pubkey nonce peerNonce authTag)
  | connectionRes2 peerNonce authTag =>
    exact .inr (connectionRes2_refines S random env sockaddr C peerNonce authTag)

end Receive

end DhtClient

/-- An event is a sequence of steps of the ends on their own, or one step that answers the message
    it brings. -/
theorem DhtClient.step_refines {c : DhtClient} (S : Sodium) (w : WordSize) (random : Nat → DhtKey)
    (C : c.books.Consistent none) (env : Env) (e : Event) :
    Ends.Steps S random c.ends (c.step S w random env e).ends ∨
      ∃ msg, e.msg w = some msg ∧
        Ends.Step S random (some (msg, env.socketError)) c.ends
          (c.step S w random env e).ends := by
  cases e with
  | lookupAsync id => exact .inl (lookupAsync_refines S random _ id)
  | bootstrap address => exact .inl (bootstrap_refines S random address)
  | setListen listen => exact .inl (.single (.listen listen))
  | refresh nbits drawn => exact .inl (refresh_refines S random _ nbits drawn)
  | timeout source => exact .inl (fire_refines S random env source)
  | receive memory len sockaddr =>
    rw [step, receive, Event.msg]
    split
    · rename_i msg read
      rcases receiveMsg_refines S random env sockaddr C msg with own | answer
      · exact .inl own
      · exact .inr ⟨msg, read, answer⟩
    · exact .inl .refl

end Nanotalk
