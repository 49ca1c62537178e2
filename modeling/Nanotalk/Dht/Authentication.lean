import Nanotalk.Dht.Network

/-!
# Mutual authentication

What the two ends of a connection know about each other, on a network where an attacker decides what
arrives. The attacker knows no private key: `Primitives`, `Unforeseen` and `Copied` say what that
means for a run.

A client uses one key pair in both roles, and the keys of a session do not depend on the role or on
the public keys. So it can be made to answer its own request (`Reflects`), and be taken in by another
public key that yields the same secret (`Impersonates`).

* `Authentic`: the invariant of all states of a run without these.
* `authentication`: in such a run, all connections between clients are authenticated.
* `reflection_completes`: a run in which a client completes a connection to itself.
-/

namespace Nanotalk
open DhtClient (Env)

namespace Msg

/-- The nonce that the sender of a message chose. -/
def nonce : Msg → Option DhtKey
  | connectionReq _ nonce => some nonce
  | connectionRes1 _ nonce _ _ => some nonce
  | _ => none

/-- The authentication tag in a message. -/
def authTag : Msg → Option DhtKey
  | connectionRes1 _ _ _ authTag => some authTag
  | connectionRes2 _ authTag => some authTag
  | _ => none

end Msg

/-- The message that an entry of the log sent. -/
def Action.msg : Action → Option Msg
  | sendTo _ _ msg => some msg
  | _ => none

/-- The messages sent, the last one first. -/
def DhtClient.sent (c : DhtClient) : List Msg := c.log.filterMap Action.msg

/-- A message that was sent is in the log. -/
lemma DhtClient.sent_log {c : DhtClient} {msg : Msg} (mem : msg ∈ c.sent) :
    ∃ socket dest, .sendTo socket dest msg ∈ c.log := by
  obtain ⟨x, logged, sent⟩ := List.mem_filterMap.mp mem
  cases x with
  | sendTo socket dest msg' =>
    cases sent
    exact ⟨socket, dest, logged⟩
  | _ => cases sent

/-- A message with a tag that was sent is in the log of the end. -/
lemma DhtClient.mem_sent {c : DhtClient} {msg : Msg} (tagged : msg.authTag.isSome)
    (mem : msg ∈ c.sent) : ∃ socket dest, .sendTo socket dest msg ∈ c.ends.log := by
  obtain ⟨socket, dest, logged⟩ := c.sent_log mem
  refine ⟨socket, dest, List.mem_filter.mpr ⟨logged, ?_⟩⟩
  cases msg with
  | connectionRes1 => rfl
  | connectionRes2 => rfl
  | _ => cases tagged

/-- A connection has the keys of one session. -/
lemma DhtConnection.Keyed.unique {S : Sodium} {k : DhtConnection} {s t : Session}
    (h : k.Keyed S s) (h' : k.Keyed S t) : s = t :=
  Option.some_inj.mp (h.session.symm.trans h'.session)

namespace Network

variable {ι : Type} (S : Sodium) (site : ι → Site)

/-- The public key of a client. -/
def pubkey (i : ι) : DhtKey := DhtKey.makePublic S (site i).key

/-- The shared secret of two clients. -/
def secret (i j : ι) : Option DhtKey := DhtKey.makeShared S (site i).key (pubkey S site j)

/-! ## Assumptions -/

/-- What is assumed of the primitives and of the random numbers, about the calls made in a run that
    ends with `net`: secrets are symmetric, that of two clients is computed by these two only,
    identifiers and tags have no collisions, and random numbers do not repeat. -/
structure Primitives (net : ι → DhtClient) : Prop where
  symmetric : ∀ i j, secret S site i j = secret S site j i
  secrecy : ∀ i j, i ≠ j → ∀ k, ∀ s ∈ (net k).sessions, secret S site i j = some s.shared →
    k = i ∨ k = j
  identity : ∀ i j, ∀ s ∈ (net i).sessions,
    DhtId.fromPubkey S s.pubkey = DhtId.fromPubkey S (pubkey S site j) → s.pubkey = pubkey S site j
  tag : Set.InjOn (fun x : DhtKey × DhtKey × DhtKey => (DhtKey.derive S x.1 x.2.1 x.2.2).2)
    (derived net)
  fresh : Fresh site net

/-- A message received in the state `p` of a run that ends with `net` does not carry as its sender's
    nonce a number that is still to be drawn. -/
def Unforeseen (net p : ι → DhtClient) (msg : Msg) : Prop :=
  ∀ nonce ∈ msg.nonce, ∀ j, ∀ a < (net j).draws, (p j).draws ≤ a → (site j).random a ≠ nonce

/-- The tag of a message received in the state `p` of a run that ends with `net`, if it is one derived
    in the run from the secret of two clients, is that of a message sent before. -/
def Copied (net p : ι → DhtClient) (msg : Msg) : Prop :=
  ∀ tag ∈ msg.authTag, ∀ k, ∀ s ∈ (net k).sessions, ∀ x ∈ s.calls,
    (∃ i j, i ≠ j ∧ secret S site i j = some x.1) → tag = (DhtKey.derive S x.1 x.2.1 x.2.2).2 →
      ∃ i, ∃ sent ∈ (p i).sent, sent.authTag = some tag

/-! ## Condition -/

/-- A request with the public key of another client is answered, and carries the nonce of a pending
    request that the client itself has made to that node. -/
def Reflects (i : ι) (c : DhtClient) (env : Env) : Msg → Prop
  | .connectionReq key nonce =>
    c.listen = true ∧ env.socketError = false ∧ (DhtKey.makeShared S c.privkey key).isSome ∧
      (∃ j, j ≠ i ∧ key = pubkey S site j) ∧
      ∃ k ∈ c.connectionTable nonce, k.isRemote = false ∧ k.id = DhtId.fromPubkey S key
  | _ => False

/-- A key that is not the public key of another client yields the secret shared with it. -/
def Alias (i : ι) (key : DhtKey) : Prop :=
  ∃ j, j ≠ i ∧ key ≠ pubkey S site j ∧ (secret S site i j).isSome ∧
    DhtKey.makeShared S (site i).key key = secret S site i j

/-- A request is answered, or a response accepted, that carries such a key. -/
def Impersonates (i : ι) (c : DhtClient) (env : Env) : Msg → Prop
  | .connectionReq key _ =>
    c.listen = true ∧ env.socketError = false ∧ DhtId.fromPubkey S key ≠ c.id ∧ Alias S site i key
  | .connectionRes1 key nonce peerNonce authTag =>
    env.socketError = false ∧
      (∃ k ∈ c.connectionTable peerNonce, k.isRemote = false ∧ k.id = DhtId.fromPubkey S key) ∧
      (∃ shared ∈ DhtKey.makeShared S c.privkey key,
        authTag = (DhtKey.derive S shared nonce peerNonce).2) ∧
      Alias S site i key
  | _ => False

/-! ## Conclusion -/

/-- Whenever a lookup of client `i` for the node that client `j` is completes with the keys of a
    session, `j` answered a request with the public key and the nonce of `i`, with the nonce that the
    session has for the peer; and whenever `j` signals a new connection from the node that `i` is, the
    peer's nonce is that of a request of `i` to `j`. -/
structure Authenticated (net : ι → DhtClient) : Prop where
  completed : ∀ i j r k, .complete r k ∈ (net i).log → k.id = (net j).id →
    ∃ s t, k.Keyed S s ∧ .answer t ∈ (net j).log ∧ t.pubkey = (net i).pubkey ∧
      t.nonce = s.peerNonce ∧ t.peerNonce = s.nonce
  signalled : ∀ i j k, .newConnection k ∈ (net j).log → k.id = (net i).id →
    ∃ s, k.Keyed S s ∧ .attempt (net j).id s.peerNonce ∈ (net i).log

end Network

namespace Ends

variable {S : Sodium} {random : Nat → DhtKey} {m : Option (Msg × Bool)} {E E' : Ends}

/-! ## What one step adds -/

/-- A request is answered with a nonce drawn for it. -/
lemma Step.answer_new (st : Step S random m E E') {s : Session} (mem : .answer s ∈ E'.log) :
    .answer s ∈ E.log ∨ m = some (.connectionReq s.pubkey s.peerNonce, false) ∧ E.listen = true ∧
      s.nonce = random E.draws ∧ E'.draws = E.draws + 1 := by
  cases st with
  | answer k socket sockaddr foreign listen secret own role keyed =>
    rw [List.mem_cons, List.mem_cons] at mem
    rcases mem with e | e | mem
    · cases e
    · cases e
      exact .inr ⟨rfl, listen, own, rfl⟩
    · exact .inl mem
  | idle => exact .inl mem
  | listen _ => exact .inl mem
  | drop _ => exact .inl mem
  | attempt => exact .inl (by simpa using mem)
  | derive => exact .inl (by simpa using mem)
  | finish => exact .inl (by simpa using mem)
  | accept => exact .inl (by simpa using mem)

/-- A result is completed for a response with the right tag. -/
lemma Step.complete_new (st : Step S random m E E') {r : Nat} {k : DhtConnection}
    (mem : .complete r k ∈ E'.log) :
    .complete r k ∈ E.log ∨ ∃ s k', k.Keyed S s ∧ .derive s ∈ E'.log ∧
      m = some (.connectionRes1 s.pubkey s.peerNonce s.nonce
        (DhtKey.derive S s.shared s.peerNonce s.nonce).2, false) ∧
      E.connectionTable s.nonce = some k' ∧ k'.isRemote = false ∧
      k'.id = DhtId.fromPubkey S s.pubkey := by
  cases st with
  | finish k' socket result sockaddr here role secret id own keyed =>
    rw [List.mem_cons, List.mem_cons, List.mem_cons] at mem
    rcases mem with e | e | e | mem
    · cases e
      refine .inr ⟨_, _, keyed, ?_, rfl, here, role, id ▸ keyed.id⟩
      exact List.mem_cons_of_mem _ (List.mem_cons_of_mem _ List.mem_cons_self)
    · cases e
    · cases e
    · exact .inl mem
  | idle => exact .inl mem
  | listen _ => exact .inl mem
  | drop _ => exact .inl mem
  | attempt => exact .inl (by simpa using mem)
  | answer => exact .inl (by simpa using mem)
  | derive => exact .inl (by simpa using mem)
  | accept => exact .inl (by simpa using mem)

/-- A new connection is signalled for a second response with the right tag. -/
lemma Step.newConnection_new (st : Step S random m E E') {k : DhtConnection}
    (mem : .newConnection k ∈ E'.log) :
    .newConnection k ∈ E.log ∨ ∃ nonce tag error,
      m = some (.connectionRes2 nonce tag, error) ∧ k.authTag = some tag ∧
      E.connectionTable nonce = some k ∧ k.isRemote = true := by
  cases st with
  | accept here role verified =>
    rw [List.mem_cons] at mem
    rcases mem with e | mem
    · cases e
      exact .inr ⟨_, _, _, rfl, verified, here, role⟩
    · exact .inl mem
  | idle => exact .inl mem
  | listen _ => exact .inl mem
  | drop _ => exact .inl mem
  | attempt => exact .inl (by simpa using mem)
  | answer => exact .inl (by simpa using mem)
  | derive => exact .inl (by simpa using mem)
  | finish => exact .inl (by simpa using mem)

/-- An entry of a changed table is the new one or an old one. -/
lemma update_eq_some {table : DhtKey → Option DhtConnection} {nonce nonce' : DhtKey}
    {v : Option DhtConnection} {k : DhtConnection}
    (here : Function.update table nonce v nonce' = some k) :
    nonce' = nonce ∧ v = some k ∨ table nonce' = some k := by
  rw [Function.update_apply] at here
  split at here
  · rename_i same
    exact .inl ⟨same, here⟩
  · exact .inr here

/-- A pending request was pending before or is made under a nonce drawn now. -/
lemma Step.pending_new (st : Step S random m E E') {nonce : DhtKey} {k : DhtConnection}
    (here : E'.connectionTable nonce = some k) (role : k.isRemote = false) :
    (∃ k', E.connectionTable nonce = some k' ∧ k'.isRemote = false ∧ k'.id = k.id) ∨
      nonce = random E.draws ∧ E'.draws = E.draws + 1 := by
  have old : E.connectionTable nonce = some k →
      ∃ k', E.connectionTable nonce = some k' ∧ k'.isRemote = false ∧ k'.id = k.id :=
    fun here => ⟨k, here, role, rfl⟩
  cases st with
  | idle => exact .inl (old here)
  | listen _ => exact .inl (old here)
  | drop _ =>
    rcases update_eq_some here with ⟨_, e⟩ | here
    · cases e
    · exact .inl (old here)
  | attempt k' foreign own =>
    rcases update_eq_some here with ⟨same, _⟩ | here
    · exact .inr ⟨same.trans own, rfl⟩
    · exact .inl (old here)
  | answer k' socket sockaddr foreign listen secret own =>
    rcases update_eq_some here with ⟨same, _⟩ | here
    · exact .inr ⟨same.trans own, rfl⟩
    · exact .inl (old here)
  | derive k' before role₀ secret id =>
    rcases update_eq_some here with ⟨same, e⟩ | here
    · cases e
      exact .inl ⟨_, same ▸ before, role₀, id.symm⟩
    · exact .inl (old here)
  | finish =>
    rcases update_eq_some here with ⟨_, e⟩ | here
    · cases e
    · exact .inl (old here)
  | accept =>
    rcases update_eq_some here with ⟨_, e⟩ | here
    · cases e
    · exact .inl (old here)

/-- The sessions are those that were answered or derived. -/
lemma mem_sessions {s : Session} : s ∈ E.sessions ↔ .answer s ∈ E.log ∨ .derive s ∈ E.log := by
  rw [sessions, List.mem_filterMap]
  constructor
  · rintro ⟨x, mem, e⟩
    cases x with
    | answer s' =>
      cases e
      exact .inl mem
    | derive s' =>
      cases e
      exact .inr mem
    | _ => cases e
  · rintro (mem | mem)
    · exact ⟨_, mem, rfl⟩
    · exact ⟨_, mem, rfl⟩

/-- A recorded session has the secret of its public key. -/
lemma Recorded.secret (R : E.Recorded S random) {s : Session} (mem : s ∈ E.sessions) :
    DhtKey.makeShared S E.privkey s.pubkey = some s.shared := by
  rcases mem_sessions.mp mem with mem | mem
  · exact (R.log _ mem).2.2
  · exact (R.log _ mem).2

/-- Two entries of the log created different nonces. -/
lemma Traced.created_ne {E₀ : Ends} (T : E₀.Traced S random E)
    (distinct : Set.InjOn random (Set.Iio E.draws)) {x y : Action} (hx : x ∈ E.log) (hy : y ∈ E.log)
    (ne : x ≠ y) {nonce nonce' : DhtKey} (created : x.created = some nonce)
    (created' : y.created = some nonce') : nonce ≠ nonce' := by
  have nodup : E.creates.Nodup := by
    rw [T.creates, List.nodup_reverse]
    refine List.Nodup.map_on ?_ List.nodup_range
    intro a la b lb e
    exact distinct (List.mem_range.mp la) (List.mem_range.mp lb) e
  have apart := List.pairwise_filterMap.mp nodup
  have symmetric : Std.Symm fun x y : Action =>
      ∀ b, x.created = some b → ∀ b', y.created = some b' → b ≠ b' :=
    ⟨fun x y h b hb b' hb' => (h b' hb' b hb).symm⟩
  exact apart.forall hx hy ne _ created _ created'

/-- No nonce was created both for a request and for an answer. -/
lemma Traced.attempt_ne_answer {E₀ : Ends} (T : E₀.Traced S random E)
    (distinct : Set.InjOn random (Set.Iio E.draws)) {id : DhtId} {s : Session}
    (attempted : .attempt id s.nonce ∈ E.log) (answered : .answer s ∈ E.log) : False :=
  T.created_ne distinct attempted answered nofun rfl rfl rfl

/-- No nonce was created for two answers. -/
lemma Traced.answer_unique {E₀ : Ends} (T : E₀.Traced S random E)
    (distinct : Set.InjOn random (Set.Iio E.draws)) {s t : Session} (hs : .answer s ∈ E.log)
    (ht : .answer t ∈ E.log) (nonce : s.nonce = t.nonce) : s = t := by
  by_contra ne
  have different : Action.answer s ≠ .answer t := fun e => ne (Action.answer.inj e)
  exact T.created_ne distinct hs ht different rfl rfl nonce

end Ends

namespace Network

variable {ι : Type} [DecidableEq ι] {S : Sodium} {site : ι → Site} {net : ι → DhtClient}

/-! ## Invariants -/

variable (S site net) in
/-- What holds of the ends in every state of a run that ends with `net`. -/
structure Authentic (E : ι → Ends) : Prop where
  traced : ∀ i, (new S site i).ends.Traced S (site i).random (E i)
  before : ∀ i, (E i).Before (ends net i)
  /-- the nonce of an answered request is not drawn any more -/
  later : ∀ i s, .answer s ∈ (E i).log → ∀ j, ∀ a < (net j).draws, (E j).draws ≤ a →
    (site j).random a ≠ s.peerNonce
  /-- an answer with the secret shared with a client has its public key -/
  answered : ∀ i j s, j ≠ i → .answer s ∈ (E i).log → secret S site i j = some s.shared →
    s.pubkey = pubkey S site j
  /-- so has a completed result -/
  reached : ∀ i j r k s, j ≠ i → .complete r k ∈ (E i).log → k.Keyed S s →
    secret S site i j = some s.shared → s.pubkey = pubkey S site j
  /-- no request is pending to the client whose answered request carried its nonce -/
  pending : ∀ i j s k, j ≠ i → .answer s ∈ (E i).log → s.pubkey = pubkey S site j →
    (E i).connectionTable s.peerNonce = some k → k.isRemote = false →
    k.id ≠ DhtId.fromPubkey S s.pubkey
  /-- no two answers have mirrored nonces -/
  unmirrored : ∀ i j s t, .answer s ∈ (E i).log → .answer t ∈ (E j).log → s.nonce = t.peerNonce →
    s.peerNonce ≠ t.nonce
  completed : ∀ i j r k s, j ≠ i → .complete r k ∈ (E i).log → k.Keyed S s →
    secret S site i j = some s.shared → ∃ t, .answer t ∈ (E j).log ∧ t.pubkey = pubkey S site i ∧
      t.nonce = s.peerNonce ∧ t.peerNonce = s.nonce
  signalled : ∀ i j k s, j ≠ i → .newConnection k ∈ (E i).log → k.Keyed S s →
    secret S site i j = some s.shared →
    .attempt (DhtId.fromPubkey S (pubkey S site i)) s.peerNonce ∈ (E j).log

section Facts

variable {E : ι → Ends} {i j : ι} {s : Session}

omit [DecidableEq ι] in
lemma Authentic.own_pubkey (A : Authentic S site net E) (i : ι) :
    (E i).pubkey = pubkey S site i :=
  (A.traced i).before.pubkey

omit [DecidableEq ι] in
lemma Authentic.own_privkey (A : Authentic S site net E) (i : ι) : (E i).privkey = (site i).key :=
  (A.traced i).before.privkey

omit [DecidableEq ι] in
lemma Authentic.own_id (A : Authentic S site net E) (i : ι) :
    (E i).id = DhtId.fromPubkey S (pubkey S site i) :=
  (A.traced i).before.id

omit [DecidableEq ι] in
/-- A nonce is drawn by one client only. -/
lemma Authentic.drew_unique (A : Authentic S site net E) (fresh : Fresh site net) {nonce : DhtKey}
    (own : (E i).Drew (site i).random nonce) (other : (E j).Drew (site j).random nonce) : i = j := by
  obtain ⟨a, la, ea⟩ := own
  obtain ⟨b, lb, eb⟩ := other
  exact (fresh i j a b (Nat.lt_of_lt_of_le la (A.before i).draws)
    (Nat.lt_of_lt_of_le lb (A.before j).draws) (ea.trans eb.symm)).1

omit [DecidableEq ι] in
lemma Authentic.answer_drew (A : Authentic S site net E) (mem : .answer s ∈ (E i).log) :
    (E i).Drew (site i).random s.nonce :=
  ((A.traced i).recorded.log _ mem).1

omit [DecidableEq ι] in
/-- No nonce is created for a request and for an answer, at one client or at two. -/
lemma Authentic.attempt_ne_answer (A : Authentic S site net E) (fresh : Fresh site net)
    {id : DhtId} (attempted : .attempt id s.nonce ∈ (E i).log) (answered : .answer s ∈ (E j).log) :
    False := by
  have drew := ((A.traced i).recorded.log _ attempted).2
  obtain rfl := A.drew_unique fresh drew (A.answer_drew answered)
  refine (A.traced i).attempt_ne_answer (fun a la b lb e => ?_) attempted answered
  exact (fresh i i a b (Nat.lt_of_lt_of_le la (A.before i).draws)
    (Nat.lt_of_lt_of_le lb (A.before i).draws) e).2

omit [DecidableEq ι] in
/-- A recorded session is recorded in the last state. -/
lemma Authentic.last (A : Authentic S site net E) (mem : s ∈ (E i).sessions) :
    s ∈ (net i).sessions := by
  rw [← DhtClient.ends_sessions]
  exact List.filterMap_subset _ (A.before i).log.subset mem

end Facts

section Step

variable (S site net) in
/-- What is known of a message received in the state `p`. -/
def Heard (p : ι → DhtClient) (i : ι) (env : Env) (msg : Msg) : Prop :=
  (Unforeseen site net p msg ∧ Copied S site net p msg) ∧
    ¬ Reflects S site i (p i) env msg ∧ ¬ Impersonates S site i (p i) env msg

variable {E : ι → Ends} {i : ι} {E' : Ends} {m : Option (Msg × Bool)}
  (A : Authentic S site net E) (P : Primitives S site net)
  (st : Ends.Step S (site i).random m (E i) E')
  (last : ∀ j, (Function.update E i E' j).Before (ends net j))
  (heard : ∀ msg error, m = some (msg, error) →
    ∃ p env, ends p = E ∧ env.socketError = error ∧ Heard S site net p i env msg)

include st in
lemma grows (j : ι) : (E j).Before (Function.update E i E' j) := by
  by_cases same : j = i
  · subst same
    rw [Function.update_self]
    exact st.before
  · rw [Function.update_of_ne same]
    exact .refl _

include A st in
lemma traced_step (j : ι) :
    (new S site j).ends.Traced S (site j).random (Function.update E i E' j) := by
  by_cases same : j = i
  · subst same
    rw [Function.update_self]
    exact st.traced (A.traced j)
  · rw [Function.update_of_ne same]
    exact A.traced j

include A st last heard in
/-- An answer is old or answers a request that was heard, with a nonce drawn for it. -/
lemma answer_cases {j : ι} {s : Session} (mem : .answer s ∈ (Function.update E i E' j).log) :
    .answer s ∈ (E j).log ∨ j = i ∧ s.nonce = (site i).random (E i).draws ∧
      (E i).draws < (net i).draws ∧ ∃ p env, ends p = E ∧ (p i).listen = true ∧
        env.socketError = false ∧ DhtId.fromPubkey S s.pubkey ≠ (p i).id ∧
        DhtKey.makeShared S (p i).privkey s.pubkey = some s.shared ∧
        Heard S site net p i env (.connectionReq s.pubkey s.peerNonce) := by
  by_cases same : j = i
  · subst same
    have T := traced_step A st j
    have within := (last j).draws
    rw [Function.update_self] at mem within T
    rcases st.answer_new mem with old | ⟨msg, listen, own, draws⟩
    · exact .inl old
    · obtain ⟨p, env, rfl, socket, h⟩ := heard _ _ msg
      obtain ⟨_, foreign, made⟩ := T.recorded.log _ mem
      rw [draws] at within
      rw [st.before.id] at foreign
      rw [st.before.privkey] at made
      exact .inr ⟨rfl, own, within, p, env, rfl, listen, socket, foreign, made, h⟩
  · rw [Function.update_of_ne same] at mem
    exact .inl mem

include A st last heard in
/-- The nonce of a request that was heard is not drawn later. -/
lemma later_step (j : ι) (s : Session) (mem : .answer s ∈ (Function.update E i E' j).log) (l : ι)
    (a : Nat) (drawn : a < (net l).draws) (late : (Function.update E i E' l).draws ≤ a) :
    (site l).random a ≠ s.peerNonce := by
  have late := Nat.le_trans (grows st l).draws late
  rcases answer_cases A st last heard mem with old | ⟨_, _, _, p, _, rfl, _, _, _, _, h⟩
  · exact A.later j s old l a drawn late
  · exact h.1.1 s.peerNonce rfl l a drawn late

include A st last heard in
/-- A new answer has the public key, unless it is for an alias. -/
lemma answered_step (j l : ι) (s : Session) (ne : l ≠ j)
    (mem : .answer s ∈ (Function.update E i E' j).log) (shared : secret S site j l = some s.shared) :
    s.pubkey = pubkey S site l := by
  rcases answer_cases A st last heard mem with
    old | ⟨same, _, _, p, _, rfl, listen, socket, foreign, made, h⟩
  · exact A.answered j l s ne old shared
  · subst same
    have key : (p j).privkey = (site j).key := A.own_privkey j
    rw [key] at made
    by_contra other
    exact h.2.2 ⟨listen, socket, foreign, l, ne, other, by simp [shared], made.trans shared.symm⟩

include A st heard in
lemma reached_step (j l : ι) (r : Nat) (k : DhtConnection) (s : Session) (ne : l ≠ j)
    (mem : .complete r k ∈ (Function.update E i E' j).log) (keyed : k.Keyed S s)
    (shared : secret S site j l = some s.shared) : s.pubkey = pubkey S site l := by
  by_cases same : j = i
  · subst same
    have T := traced_step A st j
    rw [Function.update_self] at mem T
    rcases st.complete_new mem with old | ⟨s', k', keyed', derived, msg, here, role, id⟩
    · exact A.reached j l r k s ne old keyed shared
    · obtain rfl := keyed.unique keyed'
      obtain ⟨p, env, rfl, socket, h⟩ := heard _ _ msg
      have made := (T.recorded.log _ derived).2
      have key : (p j).privkey = (site j).key := A.own_privkey j
      rw [T.before.privkey] at made
      by_contra other
      refine h.2.2 ⟨socket, ⟨k', here, role, id⟩, ⟨s.shared, ?_, rfl⟩, l, ne, other, by simp [shared],
        made.trans shared.symm⟩
      rw [key]
      exact made
  · rw [Function.update_of_ne same] at mem
    exact A.reached j l r k s ne mem keyed shared

include A st last heard in
/-- The nonce of a new answer is not the nonce of any peer. -/
lemma drawn_ne_peer {j : ι} {s : Session} (within : (E i).draws < (net i).draws)
    (mem : .answer s ∈ (Function.update E i E' j).log) :
    (site i).random (E i).draws ≠ s.peerNonce := by
  rcases answer_cases A st last heard mem with old | ⟨_, _, _, p, _, rfl, _, _, _, _, h⟩
  · exact A.later j s old i _ within (Nat.le_refl _)
  · exact h.1.1 s.peerNonce rfl i _ within (Nat.le_refl _)

include A st last heard in
/-- A new answer meets no request that it reflects, and a new request has a new nonce. -/
lemma pending_step (j l : ι) (s : Session) (k : DhtConnection) (ne : l ≠ j)
    (mem : .answer s ∈ (Function.update E i E' j).log) (key : s.pubkey = pubkey S site l)
    (here : (Function.update E i E' j).connectionTable s.peerNonce = some k)
    (role : k.isRemote = false) : k.id ≠ DhtId.fromPubkey S s.pubkey := by
  by_cases same : j = i
  · subst same
    have within := (last j).draws
    rw [Function.update_self] at here within
    rcases st.pending_new here role with ⟨k', here, role, id⟩ | ⟨drawn, draws⟩
    · rw [← id]
      rcases answer_cases A st last heard mem with
        old | ⟨_, _, _, p, _, rfl, listen, socket, _, made, h⟩
      · exact A.pending j l s k' ne old key here role
      · exact fun e => h.2.1 ⟨listen, socket, by simp [made], ⟨l, ne, key⟩, k', here, role, e⟩
    · rw [draws] at within
      exact absurd drawn.symm (drawn_ne_peer A st last heard within mem)
  · rw [Function.update_of_ne same] at mem here
    exact A.pending j l s k ne mem key here role

include A st last heard in
/-- A new answer has a new nonce, which no peer has used. -/
lemma unmirrored_step (j l : ι) (s t : Session)
    (mem : .answer s ∈ (Function.update E i E' j).log)
    (mem' : .answer t ∈ (Function.update E i E' l).log) (mirrored : s.nonce = t.peerNonce) :
    s.peerNonce ≠ t.nonce := by
  rcases answer_cases A st last heard mem with old | ⟨_, own, within, _⟩
  · rcases answer_cases A st last heard mem' with old' | ⟨_, own, within, _⟩
    · exact A.unmirrored j l s t old old' mirrored
    · rw [own]
      exact (drawn_ne_peer A st last heard within mem).symm
  · rw [own] at mirrored
    exact absurd mirrored (drawn_ne_peer A st last heard within mem')

omit [DecidableEq ι] in
include A P in
/-- The tag of a session with the secret of two clients comes from an answer or a completed result of
    one of them that has the mirrored nonces. -/
lemma origin {p : ι → DhtClient} (e : ends p = E) {j : ι} (ne : j ≠ i) {s : Session}
    (mem : s ∈ (net i).sessions) (shared : secret S site i j = some s.shared)
    {msg : Msg} (copied : Copied S site net p msg)
    (tag : msg.authTag = some (DhtKey.derive S s.shared s.peerNonce s.nonce).2) :
    ∃ l t, (l = i ∨ l = j) ∧ t.shared = s.shared ∧ t.nonce = s.peerNonce ∧ t.peerNonce = s.nonce ∧
      (.answer t ∈ (E l).log ∨ ∃ r k, .complete r k ∈ (E l).log ∧ k.Keyed S t ∧
        .derive t ∈ (E l).log) := by
  subst e
  have call : (s.shared, s.peerNonce, s.nonce) ∈ s.calls := .tail _ (.head _)
  obtain ⟨l, sent, logged, same⟩ := copied _ tag i s mem _ call ⟨i, j, ne.symm, shared⟩ rfl
  -- where the tag was derived, the arguments were the same
  have mirrored : ∀ t ∈ (ends p l).sessions,
      (DhtKey.derive S s.shared s.peerNonce s.nonce).2 =
        (DhtKey.derive S t.shared t.nonce t.peerNonce).2 →
      (l = i ∨ l = j) ∧ t.shared = s.shared ∧ t.nonce = s.peerNonce ∧ t.peerNonce = s.nonce := by
    intro t mem' eq
    have recorded := A.last mem'
    have args := P.tag ⟨i, s, mem, call⟩ ⟨l, t, recorded, .head _⟩ eq
    simp only [Prod.mk.injEq] at args
    obtain ⟨hs, hn, hp⟩ := args
    exact ⟨P.secrecy i j ne.symm l t recorded (shared.trans (congrArg some hs)), hs.symm, hn.symm,
      hp.symm⟩
  have R := (A.traced l).recorded
  obtain ⟨socket, dest, logged⟩ := DhtClient.mem_sent (by rw [same]; rfl) logged
  have accounted := R.log _ logged
  cases sent with
  | connectionRes1 _ _ _ authTag =>
    cases same
    obtain ⟨t, answered, eq⟩ := accounted
    obtain ⟨party, hs, hn, hp⟩ := mirrored t (Ends.mem_sessions.mpr (.inl answered)) eq
    exact ⟨l, t, party, hs, hn, hp, .inl answered⟩
  | connectionRes2 _ authTag =>
    cases same
    obtain ⟨r, k, t, completed, keyed, eq⟩ := accounted
    obtain ⟨t', keyed', derived⟩ := R.log _ completed
    obtain rfl := keyed.unique keyed'
    obtain ⟨party, hs, hn, hp⟩ := mirrored t (Ends.mem_sessions.mpr (.inr derived)) eq
    exact ⟨l, t, party, hs, hn, hp, .inr ⟨r, k, completed, keyed, derived⟩⟩
  | _ => cases same

include A P st last heard in
/-- The tag of a new result was sent by the peer, in an answer. -/
lemma completed_step (j l : ι) (r : Nat) (k : DhtConnection) (s : Session) (ne : l ≠ j)
    (mem : .complete r k ∈ (Function.update E i E' j).log) (keyed : k.Keyed S s)
    (shared : secret S site j l = some s.shared) :
    ∃ t, .answer t ∈ (Function.update E i E' l).log ∧ t.pubkey = pubkey S site j ∧
      t.nonce = s.peerNonce ∧ t.peerNonce = s.nonce := by
  have old : .complete r k ∈ (E j).log → ∃ t, .answer t ∈ (Function.update E i E' l).log ∧
      t.pubkey = pubkey S site j ∧ t.nonce = s.peerNonce ∧ t.peerNonce = s.nonce := by
    intro mem
    obtain ⟨t, answered, rest⟩ := A.completed j l r k s ne mem keyed shared
    exact ⟨t, (grows st l).mem answered, rest⟩
  by_cases same : j = i
  · subst same
    have before := last j
    have reached := reached_step A st heard j l r k s ne mem keyed shared
    rw [Function.update_self] at mem before
    rcases st.complete_new mem with mem | ⟨s', k', keyed', derived, msg, here, role, id⟩
    · exact old mem
    · obtain rfl := keyed.unique keyed'
      obtain ⟨p, _, e, _, ⟨_, copied⟩, _⟩ := heard _ _ msg
      have session := Ends.mem_sessions.mpr (.inr derived)
      have recorded : s ∈ (net j).sessions := by
        rw [← DhtClient.ends_sessions]
        exact List.filterMap_subset _ before.log.subset session
      obtain ⟨z, t, party, hs, hn, hp, source⟩ := origin A P e ne recorded shared copied rfl
      rcases source with answered | ⟨r', k'', completed, keyed'', _⟩
      · rcases party with rfl | rfl
        · -- the answer would be one of the client itself, to its own pending request
          have key := A.answered z l t ne answered (shared.trans (congrArg some hs.symm))
          rw [← hp] at here
          rw [reached, ← key] at id
          exact absurd id (A.pending z l t k' ne answered key here role)
        · have key := A.answered z j t ne.symm answered
            ((P.symmetric z j).trans (shared.trans (congrArg some hs.symm)))
          exact ⟨t, (grows st z).mem answered, key, hn, hp⟩
      · -- the nonce of the request would be that of an answer
        obtain ⟨own, backed⟩ := (A.traced j).recorded.table _ _ here
        have attempted := backed.initiator role
        rw [own, ← hp] at attempted
        have shared' := shared.trans (congrArg some hs.symm)
        rcases party with rfl | rfl
        · obtain ⟨t', answered, _, hn', _⟩ := A.completed z l r' k'' t ne completed keyed'' shared'
          rw [← hn'] at attempted
          exact (A.attempt_ne_answer P.fresh attempted answered).elim
        · obtain ⟨t', answered, _, hn', _⟩ := A.completed z j r' k'' t ne.symm completed keyed''
            ((P.symmetric z j).trans shared')
          rw [← hn'] at attempted
          exact (A.attempt_ne_answer P.fresh attempted answered).elim
  · rw [Function.update_of_ne same] at mem
    exact old mem

include A P st last heard in
/-- The tag of a new connection was sent by the peer, for a request. -/
lemma signalled_step (j l : ι) (k : DhtConnection) (s : Session) (ne : l ≠ j)
    (mem : .newConnection k ∈ (Function.update E i E' j).log) (keyed : k.Keyed S s)
    (shared : secret S site j l = some s.shared) :
    .attempt (DhtId.fromPubkey S (pubkey S site j)) s.peerNonce ∈
      (Function.update E i E' l).log := by
  by_cases same : j = i
  · subst same
    rw [Function.update_self] at mem
    rcases st.newConnection_new mem with mem | ⟨nonce, tag, error, msg, verified, here, role⟩
    · exact (grows st l).mem (A.signalled j l k s ne mem keyed shared)
    · obtain ⟨p, _, e, _, ⟨_, copied⟩, _⟩ := heard _ _ msg
      obtain ⟨_, backed⟩ := (A.traced j).recorded.table _ _ here
      obtain ⟨s', keyed', answered⟩ := backed.responder role
      obtain rfl := keyed.unique keyed'
      rw [keyed.authTag] at verified
      have recorded := A.last (Ends.mem_sessions.mpr (.inl answered))
      obtain ⟨z, t, party, hs, hn, hp, source⟩ := origin A P e ne recorded shared copied verified.symm
      rcases source with answered' | ⟨r', k'', completed, keyed'', derived⟩
      · exact absurd hn.symm (A.unmirrored j z s t answered answered' hp.symm)
      · have shared' := shared.trans (congrArg some hs.symm)
        rcases party with rfl | rfl
        · -- the peer would have answered with the nonce of this client
          obtain ⟨t', answered', _, hn', _⟩ := A.completed z l r' k'' t ne completed keyed'' shared'
          have drew := A.answer_drew answered'
          rw [hn', hp] at drew
          exact absurd (A.drew_unique P.fresh drew (A.answer_drew answered)) ne
        · have key := A.reached z j r' k'' t ne.symm completed keyed''
            ((P.symmetric z j).trans shared')
          have attempted := ((A.traced z).recorded.log _ derived).1
          rw [key, hn] at attempted
          exact (grows st z).mem attempted
  · rw [Function.update_of_ne same] at mem
    exact (grows st l).mem (A.signalled j l k s ne mem keyed shared)

include A P st last heard in
/-- What every step of the ends keeps. -/
theorem Authentic.step : Authentic S site net (Function.update E i E') where
  traced := traced_step A st
  before := last
  later := later_step A st last heard
  answered := answered_step A st last heard
  reached := reached_step A st heard
  pending := pending_step A st last heard
  unmirrored := unmirrored_step A st last heard
  completed := completed_step A P st last heard
  signalled := signalled_step A P st last heard

end Step

/-! ## Runs -/

variable (S site) in
lemma new_authentic (schedule : List (ι × Env × Event)) :
    Authentic S site (run S site schedule) (ends (new S site)) where
  traced i := DhtClient.new_traced S (site i).random (site i).key
  before i := by
    have C : ∀ i, (new S site i).books.Consistent none := fun _ => Books.Consistent.init
    exact run_before C schedule i
  later _ _ mem := absurd mem List.not_mem_nil
  answered _ _ _ _ mem := absurd mem List.not_mem_nil
  reached _ _ _ _ _ _ mem := absurd mem List.not_mem_nil
  pending _ _ _ _ _ mem := absurd mem List.not_mem_nil
  unmirrored _ _ _ _ mem := absurd mem List.not_mem_nil
  completed _ _ _ _ _ _ mem := absurd mem List.not_mem_nil
  signalled _ _ _ _ _ mem := absurd mem List.not_mem_nil

omit [DecidableEq ι] in
/-- The invariant in the last state of a run says what was to be shown. -/
lemma Authentic.authenticated (P : Primitives S site net) (A : Authentic S site net (ends net)) :
    Authenticated S net where
  completed i j r k mem id := by
    have logged : .complete r k ∈ (ends net i).log := List.mem_filter.mpr ⟨mem, rfl⟩
    obtain ⟨s, keyed, derived⟩ := (A.traced i).recorded.log _ logged
    obtain ⟨attempted, made⟩ := (A.traced i).recorded.log _ derived
    have foreign := ((A.traced i).recorded.log _ attempted).1
    have peer : DhtId.fromPubkey S s.pubkey = DhtId.fromPubkey S (pubkey S site j) :=
      keyed.id.symm.trans (id.trans (A.own_id j))
    have ne : j ≠ i := by
      rintro rfl
      exact foreign (peer.trans (A.own_id j).symm)
    have key := P.identity i j s (A.last (Ends.mem_sessions.mpr (.inr derived))) peer
    rw [A.own_privkey, key] at made
    obtain ⟨t, answered, own, rest⟩ := A.completed i j r k s ne logged keyed made
    exact ⟨s, t, keyed, (List.mem_filter.mp answered).1, own.trans (A.own_pubkey i).symm, rest⟩
  signalled i j k mem id := by
    have logged : .newConnection k ∈ (ends net j).log := List.mem_filter.mpr ⟨mem, rfl⟩
    obtain ⟨s, keyed, answered⟩ := (A.traced j).recorded.log _ logged
    obtain ⟨_, foreign, made⟩ := (A.traced j).recorded.log _ answered
    have peer : DhtId.fromPubkey S s.pubkey = DhtId.fromPubkey S (pubkey S site i) :=
      keyed.id.symm.trans (id.trans (A.own_id i))
    have ne : i ≠ j := by
      rintro rfl
      exact foreign (peer.trans (A.own_id i).symm)
    have key := P.identity j i s (A.last (Ends.mem_sessions.mpr (.inl answered))) peer
    rw [A.own_privkey, key] at made
    have attempted := A.signalled j i k s ne logged keyed made
    rw [← A.own_id j] at attempted
    exact ⟨s, keyed, (List.mem_filter.mp attempted).1⟩

/-- In every run in which no client answers a request that reflects a pending one of its own to another
    client, or derives keys for an alias of another client's public key, all connections between clients
    are authenticated. -/
theorem authentication (schedule : List (ι × Env × Event))
    (P : Primitives S site (run S site schedule))
    (attacker : Received S site (fun p _ _ msg => Unforeseen site (run S site schedule) p msg ∧
      Copied S site (run S site schedule) p msg) schedule)
    (condition : Received S site (fun p i env msg => ¬ Reflects S site i (p i) env msg ∧
      ¬ Impersonates S site i (p i) env msg) schedule) :
    Authenticated S (run S site schedule) := by
  have A : Authentic S site (run S site schedule) (ends (run S site schedule)) := by
    refine run_invariant rfl (attacker.and condition) ?_ ?_ ?_
    · intro E i E' st last A
      exact A.step P st last nofun
    · intro p i env msg E' heard st last A
      refine A.step P st last fun msg' error e => ?_
      cases e
      exact ⟨p, env, rfl, rfl, heard⟩
    · exact new_authentic S site schedule
  exact A.authenticated P

/-! ## Two runs -/

section Decidable

variable {ι : Type} [Fintype ι] [DecidableEq ι] (S : Sodium) (site : ι → Site)
  (net p : ι → DhtClient) (i : ι) (c : DhtClient) (env : Env)

instance instDecidableUnforeseen (msg : Msg) : Decidable (Unforeseen site net p msg) :=
  inferInstanceAs (Decidable (∀ nonce ∈ msg.nonce, _))

instance instDecidableCopied (msg : Msg) : Decidable (Copied S site net p msg) :=
  inferInstanceAs (Decidable (∀ tag ∈ msg.authTag, _))

instance instDecidableReflects (msg : Msg) : Decidable (Reflects S site i c env msg) :=
  match msg with
  | .connectionReq _ _ => inferInstanceAs (Decidable (_ ∧ _))
  | .connectionRes1 .. | .connectionRes2 .. | .lookupReq .. | .lookupRes .. => .isFalse id

instance instDecidableAlias (key : DhtKey) : Decidable (Alias S site i key) :=
  inferInstanceAs (Decidable (∃ _, _))

instance instDecidableImpersonates (msg : Msg) : Decidable (Impersonates S site i c env msg) :=
  match msg with
  | .connectionReq _ _ => inferInstanceAs (Decidable (_ ∧ _))
  | .connectionRes1 .. => inferInstanceAs (Decidable (_ ∧ _))
  | .connectionRes2 .. | .lookupReq .. | .lookupRes .. => .isFalse id

end Decidable

/-- A listening client looks up its peer. A request with the peer's public key brings back the client's
    own nonce, and its answer comes back as the response to its own request. -/
def reflection : List (Bool × Env × Input) :=
  let peer : GSocketAddress := ⟨.ipv4 fun _ => 7, 5004⟩
  let env : Env := ⟨0, 0, false⟩
  let id := DhtId.fromPubkey Sodium.transparent (byteKey 2)
  [(false, env, .event (.setListen true)),
    (false, env, .message (.lookupReq id id) peer),
    (false, env, .event (.lookupAsync id)),
    (false, env, .message (.connectionReq (byteKey 2) (byteKey 10)) peer),
    (false, env, .message (.connectionRes1 (byteKey 2) (byteKey 11) (byteKey 10)
      (DhtKey.derive Sodium.transparent (byteKey 3) (byteKey 11) (byteKey 10)).2) peer)]

/-- Mutual authentication without the condition fails in the run of `reflection`: the lookup completes,
    and the peer answered nothing. -/
theorem reflection_completes : ¬ ∀ (S : Sodium) (site : Bool → Site)
    (schedule : List (Bool × Env × Event)), Primitives S site (run S site schedule) →
      Received S site (fun p _ _ msg => Unforeseen site (run S site schedule) p msg ∧
        Copied S site (run S site schedule) p msg) schedule →
      Authenticated S (run S site schedule) := by
  intro claim
  have short : ∀ e ∈ reflection, e.2.2.Short := by
    simp +decide [reflection, Input.Short, Msg.bytes_length]
  have authenticated := claim Sodium.transparent pair (schedule reflection)
  rw [received_schedule short, run_schedule short] at authenticated
  have failed := authenticated
    { symmetric := by decide +kernel
      secrecy := by decide +kernel
      identity := by decide +kernel
      tag := by
        rw [injOn_derived]
        decide +kernel
      fresh := by
        rw [fresh_iff]
        decide +kernel }
    (by decide +kernel)
  have delivered : ∃ x ∈ (runInputs Sodium.transparent pair reflection false).log,
      ∃ k ∈ x.delivery, k.id = (runInputs Sodium.transparent pair reflection true).id := by
    decide +kernel
  have silent : (runInputs Sodium.transparent pair reflection true).log = [] := by
    rw [← List.isEmpty_iff]
    decide +kernel
  obtain ⟨x, logged, k, delivers, id⟩ := delivered
  cases x with
  | complete r k' =>
    cases delivers
    obtain ⟨_, _, _, answered, _⟩ := failed.completed false true r k logged id
    rw [silent] at answered
    cases answered
  | newConnection k' =>
    cases delivers
    obtain ⟨_, _, attempted⟩ := failed.signalled true false k logged id
    rw [silent] at attempted
    cases attempted
  | _ => cases delivers

/-- The handshake meets the assumptions and the condition, and both clients have a connection. -/
theorem handshake_authenticated :
    Authenticated Sodium.transparent (run Sodium.transparent pair (schedule handshake)) ∧
      (run Sodium.transparent pair (schedule handshake) false).deliveries.length = 1 ∧
      (run Sodium.transparent pair (schedule handshake) true).deliveries.length = 1 := by
  refine ⟨authentication (schedule handshake) ?_ ?_ ?_, ?_⟩
  · rw [handshake_run]
    exact
      { symmetric := by decide +kernel
        secrecy := by decide +kernel
        identity := by decide +kernel
        tag := by
          rw [injOn_derived]
          decide +kernel
        fresh := by
          rw [fresh_iff]
          decide +kernel }
  · rw [received_schedule handshake_short, handshake_run]
    decide +kernel
  · rw [received_schedule handshake_short]
    decide +kernel
  · rw [handshake_run]
    decide +kernel

end Network

end Nanotalk
