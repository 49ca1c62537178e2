import Nanotalk.Dht.Correspondents
import Nanotalk.Dht.Forgery
import Nanotalk.Dht.Ownership

/-!
# Results of lookups

What C `dht_client_lookup_finish` returns to a callback. A callback gets the error `Invalid ID` if it
asked for the own id, and else one of three errors or a connection with the node it asked for, that
this node confirmed (`lookupFinish_run`). A new connection was asked for and confirmed by its peer
(`newConnection_run`).
-/

namespace Nanotalk
open Glib
open DhtClient (Env)

/-- The id that a call of `dht_client_lookup_async` asks for. -/
def Event.asks : Event → Option DhtId
  | lookupAsync id => some id
  | _ => none

/-- How a callback is completed, if it is. -/
def Action.outcome (result : Nat) : Action → Option (Except GError DhtConnection)
  | completeInIdle result' error => if result' = result then some (.error error) else none
  | complete result' connection => if result' = result then some (.ok connection) else none
  | _ => none

namespace DhtClient

/-- The call with this number asks for this id. -/
def Asked (events : List (Env × Event)) (result : Nat) (id : DhtId) : Prop :=
  (events.filterMap (·.2.asks))[result]? = some id

/-- What a callback was completed with, the last one first. -/
def outcomes (c : DhtClient) (result : Nat) : List (Except GError DhtConnection) :=
  c.log.filterMap (Action.outcome result)

/-- C `dht_client_lookup_finish`: the socket, `enc_key` and `dec_key`, or the error. -/
def lookupFinish (result : Except GError DhtConnection) :
    Except GError (Option Nat × Option DhtKey × Option DhtKey) := do
  let connection ← result
  return (connection.socket, connection.encKey, connection.decKey)

section Outcome

variable (S : Sodium) (w : WordSize) (own : DhtId) (privkey : DhtKey) (events : List (Env × Event))

/-- The keys are those of a session with the node `id`, whose secret the client computed itself. -/
structure Belongs (k : DhtConnection) (s : Session) : Prop where
  keyed : k.Keyed S s
  foreign : k.id ≠ own
  shared : DhtKey.makeShared S privkey s.pubkey = some s.shared

/-- The errors of a call that asks for another node. -/
def failures : List GError :=
  [⟨.hostNotFound, "Lookup failed"⟩, ⟨.cancelled, "Operation cancelled"⟩,
    ⟨.timedOut, "Operation timed out"⟩]

/-- What a callback may be completed with. -/
def Fair : Action → Prop
  | .completeInIdle r error => ∃ id, Asked events r id ∧
    (id = own ∧ error = ⟨.invalidArgument, "Invalid ID"⟩ ∨ id ≠ own ∧ error ∈ failures)
  | .complete r k => Asked events r k.id ∧ k.socket.isSome ∧ ∃ s sockaddr,
    Belongs S own privkey k s ∧ Came w events sockaddr (.connectionRes1 s.pubkey s.peerNonce s.nonce
      (DhtKey.derive S s.shared s.peerNonce s.nonce).2)
  | .newConnection k => ∃ s asker sockaddr, Belongs S own privkey k s ∧
    Came w events asker (.connectionReq s.pubkey s.peerNonce) ∧
    Came w events sockaddr (.connectionRes2 s.nonce
      (DhtKey.derive S s.shared s.peerNonce s.nonce).2)
  | _ => True

/-- A callback waits for the id that it asked for. -/
def outcome : Audit where
  addr _ := True
  heard := Came w events
  waits r id := Asked events r id ∧ id ≠ own
  connection k := (∀ r, k.result = some r → Asked events r k.id ∧ k.id ≠ own) ∧
    (k.isRemote = true → ∃ s asker, Belongs S own privkey k s ∧
      Came w events asker (.connectionReq s.pubkey s.peerNonce))
  action := Fair S w own privkey events

variable {S privkey} in
/-- A connection with the keys of a session belongs to it. -/
lemma belongs_withKeys {own : DhtId} {k : DhtConnection} {s : Session} (nonce : k.nonce = s.nonce)
    (id : k.id = DhtId.fromPubkey S s.pubkey) (foreign : k.id ≠ own)
    (shared : DhtKey.makeShared S privkey s.pubkey = some s.shared) :
    Belongs S own privkey (k.withKeys S s) s where
  keyed := ⟨rfl, nonce.symm, id, rfl, rfl, rfl⟩
  foreign := foreign
  shared := shared

/-- What a client does with fair results is fair. -/
lemma outcome_closed (pubkey : DhtKey) :
    (outcome S w own privkey events).Closed S own pubkey privkey where
  silent action silent := by
    cases action with
    | completeInIdle r error => cases silent
    | complete r k => cases silent
    | newConnection k => cases silent
    | _ => trivial
  ask _ _ _ := trivial
  fail r id waits := ⟨id, waits.1, .inr ⟨waits.2, List.mem_cons_self⟩⟩
  cancel r id waits := ⟨id, waits.1, .inr ⟨waits.2, by simp [failures]⟩⟩
  expire r id waits := ⟨id, waits.1, .inr ⟨waits.2, by simp [failures]⟩⟩
  attempt r id addr nonce source waits foreign _ :=
    ⟨⟨fun r' e => Option.some.inj e ▸ waits, fun remote => Bool.noConfusion remote⟩, trivial⟩
  waiting k r K e := K.1 r e
  respond s sockaddr socket source came foreign shared :=
    ⟨⟨fun r e => absurd e (Option.some_ne_none r).symm, fun _ =>
      ⟨s, sockaddr, belongs_withKeys rfl rfl foreign shared, came⟩⟩, trivial⟩
  derive k s K isOwn nonce id shared :=
    ⟨K.1, fun remote => absurd (isOwn.symm.trans remote) Bool.false_ne_true⟩
  confirm k s sockaddr socket K isOwn nonce id shared came := by
    refine ⟨trivial, trivial, fun r e => ?_⟩
    obtain ⟨asked, foreign⟩ := K.1 r e
    exact ⟨asked, rfl, s, sockaddr, ⟨⟨rfl, nonce.symm, id, rfl, rfl, rfl⟩, foreign, shared⟩, came⟩
  accept k sockaddr authTag K remote tag came := by
    obtain ⟨s, asker, B, asked⟩ := K.2 remote
    refine ⟨trivial, s, asker, sockaddr, B, asked, ?_⟩
    rw [← Option.some.inj (B.keyed.authTag.symm.trans tag), ← B.keyed.nonce] at came
    exact came

end Outcome

section Run

variable (S : Sodium) (w : WordSize) (random : Nat → DhtKey) (key : DhtKey)

/-- The calls are those that were asked for. -/
lemma calls_run (events : List (Env × Event)) :
    (run S w random key events).calls = (events.filterMap (·.2.asks)).length := by
  rw [(places_run S w random key events).1, List.length_filterMap_eq_countP]
  refine List.countP_congr fun e _ => ?_
  cases e.2 <;> rfl

lemma outcome_admitted {events before after : List (Env × Event)} {e : Env × Event}
    (split : events = before ++ e :: after) :
    (outcome S w (new S key).id key events).Admitted (new S key).id w (run S w random key before)
      e.1 e.2 := by
  have here : e ∈ events := split ▸ List.mem_append_right _ List.mem_cons_self
  obtain ⟨env, event⟩ := e
  cases event with
  | lookupAsync id =>
    have asked : Asked events (run S w random key before).calls id := by
      rw [Asked, calls_run, split, List.filterMap_append, List.getElem?_append_right (Nat.le_refl _),
        Nat.sub_self]
      rfl
    refine ⟨?_, fun _ _ => trivial⟩
    split
    · rename_i self
      exact ⟨id, asked, .inl ⟨self, rfl⟩⟩
    · rename_i foreign
      exact ⟨asked, foreign⟩
  | bootstrap address => trivial
  | setListen listen => trivial
  | refresh nbits drawn => exact fun _ _ => trivial
  | receive memory len sockaddr =>
    rw [Audit.Admitted]
    cases read : Msg.read w memory len with
    | none => trivial
    | some msg =>
      have came : Came w events sockaddr msg := ⟨_, here, memory, len, rfl, read⟩
      cases msg with
      | lookupReq srcid dstid => exact fun _ => trivial
      | lookupRes srcid dstid nodes => exact fun _ _ _ => trivial
      | connectionReq peer nonce => exact came
      | connectionRes1 peer nonce peerNonce authTag => exact came
      | connectionRes2 peerNonce authTag => exact came
  | timeout source => trivial

lemma log_fair (events : List (Env × Event)) :
    ∀ action ∈ (run S w random key events).log, Fair S w (new S key).id key events action :=
  (Audit.Passed.run_passed S w random key (outcome_closed S w (new S key).id key events _) events
    fun _ _ _ split => outcome_admitted S w random key split).log

/-- What C `dht_client_lookup_finish` returns to the callback of a call. If the call asked for the own
    id it is the error for that, else it is another error or a socket with the keys of a session with
    the node that the call asked for, which confirmed the session. -/
theorem lookupFinish_run (events : List (Env × Event)) (r : Nat) :
    ∀ result ∈ (run S w random key events).outcomes r, ∃ id, Asked events r id ∧
      match lookupFinish result with
      | .error error =>
        if id = (new S key).id then error = ⟨.invalidArgument, "Invalid ID"⟩ else error ∈ failures
      | .ok (socket, encKey, decKey) => id ≠ (new S key).id ∧ socket.isSome ∧ ∃ s : Session,
        DhtId.fromPubkey S s.pubkey = id ∧ DhtKey.makeShared S key s.pubkey = some s.shared ∧
        encKey = some (DhtKey.derive S s.shared s.nonce s.peerNonce).1 ∧
        decKey = some (DhtKey.derive S s.shared s.peerNonce s.nonce).1 ∧
        ∃ sockaddr, Came w events sockaddr (.connectionRes1 s.pubkey s.peerNonce s.nonce
          (DhtKey.derive S s.shared s.peerNonce s.nonce).2) := by
  intro result mem
  obtain ⟨action, here, outcome⟩ := List.mem_filterMap.mp mem
  have fair := log_fair S w random key events action here
  unfold Action.outcome at outcome
  split at outcome
  · rename_i r' error
    split at outcome
    · rename_i same
      cases outcome
      subst same
      obtain ⟨id, asked, ⟨self, e⟩ | ⟨foreign, e⟩⟩ := fair
      · exact ⟨id, asked, (if_pos self).mpr e⟩
      · exact ⟨id, asked, (if_neg foreign).mpr e⟩
    · cases outcome
  · rename_i r' k
    split at outcome
    · rename_i same
      cases outcome
      subst same
      obtain ⟨asked, socket, s, sockaddr, B, came⟩ := fair
      exact ⟨k.id, asked, B.foreign, socket, s, B.keyed.id.symm, B.shared, B.keyed.encKey,
        B.keyed.decKey, sockaddr, came⟩
    · cases outcome
  · cases outcome

/-- The callback of `pendingRun`, when the response has arrived. -/
theorem lookupFinish_pending :
    let tag := (DhtKey.derive Sodium.transparent (Network.byteKey 3) (Network.byteKey 20)
      (Network.byteKey 10)).2
    ∃ id, ∃ s : Session, Asked (events (pendingRun ++ [pendingAnswer tag])) 0 id ∧
      DhtId.fromPubkey Sodium.transparent s.pubkey = id ∧
      DhtKey.makeShared Sodium.transparent (Network.byteKey 1) s.pubkey = some s.shared := by
  intro tag
  have short : ∀ e ∈ pendingRun ++ [pendingAnswer tag], e.2.Short := by
    simp +decide [pendingRun, pendingAnswer, Input.Short, Msg.bytes_length]
  have found : ((run Sodium.transparent .w64 (Network.pair false).random (Network.byteKey 1)
      (events (pendingRun ++ [pendingAnswer tag]))).outcomes 0).any (·.isOk) := by
    rw [run_events _ _ _ _ short]
    decide +kernel
  obtain ⟨result, mem, ok⟩ := List.any_eq_true.mp found
  obtain ⟨id, asked, fair⟩ := lookupFinish_run _ _ _ _ _ 0 result mem
  cases result with
  | error error => cases ok
  | ok k =>
    obtain ⟨-, -, s, same, shared, -⟩ := fair
    exact ⟨id, s, asked, same, shared⟩

/-- A new connection has the keys of a session that another node asked for, and that somebody with these
    keys confirmed. -/
theorem newConnection_run (events : List (Env × Event)) (k : DhtConnection)
    (signalled : .newConnection k ∈ (run S w random key events).log) :
    ∃ s asker sockaddr, Belongs S (new S key).id key k s ∧
      Came w events asker (.connectionReq s.pubkey s.peerNonce) ∧
      Came w events sockaddr (.connectionRes2 s.nonce
        (DhtKey.derive S s.shared s.peerNonce s.nonce).2) :=
  log_fair S w random key events _ signalled

/-- The new connection of the second client of `Network.handshake`. -/
theorem newConnection_handshake : ∃ k, ∃ s : Session,
    Belongs Sodium.transparent (new Sodium.transparent (Network.byteKey 2)).id (Network.byteKey 2) k
      s := by
  have short : ∀ e ∈ (Network.handshake.filter (·.1)).map Prod.snd, e.2.Short := by
    simp +decide [Network.handshake, Input.Short, Msg.bytes_length]
  have found : ((run Sodium.transparent .w64 (Network.pair true).random (Network.byteKey 2)
      (events ((Network.handshake.filter (·.1)).map Prod.snd))).log.any fun action =>
        action.delivery.isSome && action.completed.isEmpty) := by
    rw [run_events _ _ _ _ short]
    decide +kernel
  obtain ⟨action, mem, delivers⟩ := List.any_eq_true.mp found
  cases action with
  | newConnection k =>
    obtain ⟨s, -, -, B, -⟩ := newConnection_run _ _ _ _ _ k mem
    exact ⟨k, s, B⟩
  | _ => cases delivers

end Run

end DhtClient

end Nanotalk
