import Nanotalk.Dht.Authentication
import Nanotalk.Dht.Ownership
import Nanotalk.Dht.Requests

/-!
# Agreement

Honest clients on a network that loses, delays, duplicates and reorders their datagrams: every
message of the handshake that is received was sent before by one of the clients. Where it arrives is
not restricted.

* `Connected`: the invariant of all states of a run: what is received goes back to what the sender
  recorded.
* `agreement`: what the two ends of an attempt to connect have in common.
-/

namespace Nanotalk
open DhtClient (Env)

/-- A message of the handshake. -/
def Msg.connecting : Msg → Bool
  | connectionReq .. => true
  | connectionRes1 .. => true
  | connectionRes2 .. => true
  | _ => false

/-- A result is completed with the connection that was requested with a nonce. -/
def Action.succeeds (nonce : DhtKey) : Action → Bool
  | complete _ k => k.nonce = nonce
  | _ => false

/-- A new connection is signalled for the request with a nonce. -/
def Action.signals (nonce : DhtKey) : Action → Bool
  | newConnection k => k.session.any (·.peerNonce = nonce)
  | _ => false

/-- What is asked of an attempt to connect: `a` requested the connection with a nonce, and `b` may have
    answered. -/
structure Agreed (S : Sodium) (nonce : DhtKey) (a b : DhtClient) : Prop where
  /-- there is at most one success -/
  success : a.log.countP (·.succeeds nonce) ≤ 1
  /-- there is at most one new connection -/
  signal : b.log.countP (·.signals nonce) ≤ 1
  /-- the callback that gets the success gets nothing else, no timeout in particular -/
  callback : ∀ r k, .complete r k ∈ a.log → k.nonce = nonce →
    a.completions.count r = 1 ∧ ∀ error, .completeInIdle r error ∉ a.log
  /-- when the new connection is signalled, `a` has sent its last message and completed the result,
      with the same nonces and the same keys the other way round -/
  keys : ∀ k, .newConnection k ∈ b.log → (Action.newConnection k).signals nonce →
    ∃ r e s t, .complete r e ∈ a.log ∧ e.Keyed S s ∧ k.Keyed S t ∧
      (∃ socket dest tag, .sendTo socket dest (.connectionRes2 k.nonce tag) ∈ a.log) ∧
      s.nonce = nonce ∧ t.peerNonce = nonce ∧ s.peerNonce = t.nonce ∧
      e.encKey = k.decKey ∧ e.decKey = k.encKey

namespace Ends

variable {S : Sodium} {random : Nat → DhtKey} {m : Option (Msg × Bool)} {E E' : Ends}

/-! ## What a message says -/

variable (S) in
/-- What is recorded where a message is sent. -/
def Spoke (E : Ends) : Action → Prop
  | .sendTo _ _ (.connectionRes1 pubkey nonce peerNonce _) =>
    pubkey = E.pubkey ∧ ∃ s, .answer s ∈ E.log ∧ s.nonce = nonce ∧ s.peerNonce = peerNonce
  | .sendTo _ _ (.connectionRes2 peerNonce _) =>
    ∃ r k s, .complete r k ∈ E.log ∧ k.Keyed S s ∧ s.peerNonce = peerNonce
  | .complete _ k => ∀ s, k.Keyed S s →
    ∃ socket dest tag, .sendTo socket dest (.connectionRes2 s.peerNonce tag) ∈ E.log
  | _ => True

lemma Before.spoke (h : E.Before E') {x : Action} (spoke : E.Spoke S x) : E'.Spoke S x := by
  unfold Spoke at spoke ⊢
  split at spoke
  · obtain ⟨own, s, answered, rest⟩ := spoke
    exact ⟨own.trans h.pubkey.symm, s, h.mem answered, rest⟩
  · obtain ⟨r, k, s, completed, rest⟩ := spoke
    exact ⟨r, k, s, h.mem completed, rest⟩
  · intro s keyed
    obtain ⟨socket, dest, tag, sent⟩ := spoke s keyed
    exact ⟨socket, dest, tag, h.mem sent⟩
  · trivial

/-- New entries of the log. -/
lemma Before.spoken (h : E.Before E') (old : ∀ x ∈ E.log, E.Spoke S x) (new : List Action)
    (log : E'.log = new ++ E.log) (spoke : ∀ x ∈ new, E'.Spoke S x) : ∀ x ∈ E'.log, E'.Spoke S x := by
  intro x mem
  rw [log, List.mem_append] at mem
  rcases mem with mem | mem
  · exact spoke x mem
  · exact h.spoke (old x mem)

/-- What an end speaks of in its log is spoken. -/
lemma Step.spoken (st : Step S random m E E') (old : ∀ x ∈ E.log, E.Spoke S x) :
    ∀ x ∈ E'.log, E'.Spoke S x := by
  have h := st.before
  cases st with
  | idle => exact old
  | listen _ => exact h.spoken old [] rfl (List.forall_mem_nil _)
  | drop _ => exact h.spoken old [] rfl (List.forall_mem_nil _)
  | attempt k => exact h.spoken old [_] rfl ((List.forall_mem_singleton).mpr trivial)
  | answer k socket sockaddr foreign listen secret own role keyed =>
    refine h.spoken old [_, _] rfl ?_
    rw [List.forall_mem_cons, List.forall_mem_singleton]
    exact ⟨⟨rfl, _, List.mem_cons_of_mem _ List.mem_cons_self, rfl, rfl⟩, trivial⟩
  | derive => exact h.spoken old [_] rfl ((List.forall_mem_singleton).mpr trivial)
  | finish k' socket result sockaddr here role secret id own keyed =>
    refine h.spoken old [_, _, _] rfl ?_
    rw [List.forall_mem_cons, List.forall_mem_cons, List.forall_mem_singleton]
    refine ⟨fun s keyed' => ?_, ⟨result, k', _, List.mem_cons_self, keyed, rfl⟩, trivial⟩
    obtain rfl := keyed.unique keyed'
    exact ⟨socket, sockaddr, _, List.mem_cons_of_mem _ List.mem_cons_self⟩
  | accept => exact h.spoken old [_] rfl ((List.forall_mem_singleton).mpr trivial)

end Ends

namespace Network

variable {ι : Type} [DecidableEq ι] {S : Sodium} {site : ι → Site} {E F : ι → Ends}

/-! ## What goes back to another client -/

/-- What a message of the handshake goes back to. -/
def Genuine {ι : Type} (E : ι → Ends) : Msg → Prop
  | .connectionReq pubkey nonce => ∃ i id, pubkey = (E i).pubkey ∧ .attempt id nonce ∈ (E i).log
  | .connectionRes1 pubkey nonce peerNonce authTag => ∃ i socket dest,
    .sendTo socket dest (.connectionRes1 pubkey nonce peerNonce authTag) ∈ (E i).log
  | .connectionRes2 peerNonce authTag => ∃ i socket dest,
    .sendTo socket dest (.connectionRes2 peerNonce authTag) ∈ (E i).log
  | _ => True

variable (S) in
/-- What an entry of a log goes back to. -/
def Vouched {ι : Type} (E : ι → Ends) : Action → Prop
  | .answer t => ∃ i id, t.pubkey = (E i).pubkey ∧ .attempt id t.peerNonce ∈ (E i).log
  | .derive s => ∃ j t, s.pubkey = (E j).pubkey ∧ .answer t ∈ (E j).log ∧ t.nonce = s.peerNonce ∧
      t.peerNonce = s.nonce
  | .newConnection k => ∃ i r e s, .complete r e ∈ (E i).log ∧ e.Keyed S s ∧ s.peerNonce = k.nonce
  | _ => True

omit [DecidableEq ι] in
lemma Vouched.mono (h : ∀ i, (E i).Before (F i)) {x : Action} (vouched : Vouched S E x) :
    Vouched S F x := by
  unfold Vouched at vouched ⊢
  split at vouched
  · obtain ⟨i, id, own, attempted⟩ := vouched
    exact ⟨i, id, own.trans (h i).pubkey.symm, (h i).mem attempted⟩
  · obtain ⟨j, t, own, answered, rest⟩ := vouched
    exact ⟨j, t, own.trans (h j).pubkey.symm, (h j).mem answered, rest⟩
  · obtain ⟨i, r, e, s, completed, rest⟩ := vouched
    exact ⟨i, r, e, s, (h i).mem completed, rest⟩
  · trivial

variable (S site) in
/-- What holds of the ends in every state of a run. -/
structure Connected (E : ι → Ends) : Prop where
  traced : ∀ i, (new S site i).ends.Traced S (site i).random (E i)
  spoken : ∀ i, ∀ x ∈ (E i).log, (E i).Spoke S x
  vouched : ∀ i, ∀ x ∈ (E i).log, Vouched S E x

omit [DecidableEq ι] in
/-- What a step adds to the log goes back to what is there. -/
lemma Connected.new_vouched (C : Connected S site E) {i : ι} {E' : Ends} {m : Option (Msg × Bool)}
    (st : Ends.Step S (site i).random m (E i) E')
    (genuine : ∀ msg error, m = some (msg, error) → Genuine E msg) :
    ∀ x ∈ E'.log, Vouched S E x := by
  have old := C.vouched i
  have responded : ∀ {pubkey nonce peerNonce tag shared : DhtKey},
      Genuine E (.connectionRes1 pubkey nonce peerNonce tag) →
      Vouched S E (.derive ⟨pubkey, shared, peerNonce, nonce⟩) := by
    rintro pubkey nonce peerNonce tag shared ⟨j, socket, dest, sent⟩
    obtain ⟨own, t, answered, nonces⟩ := C.spoken j _ sent
    exact ⟨j, t, own, answered, nonces⟩
  cases st with
  | idle => exact old
  | listen _ => exact old
  | drop _ => exact old
  | attempt => exact List.forall_mem_cons.mpr ⟨trivial, old⟩
  | answer =>
    rw [List.forall_mem_cons, List.forall_mem_cons]
    exact ⟨trivial, genuine _ _ rfl, old⟩
  | derive => exact List.forall_mem_cons.mpr ⟨responded (genuine _ _ rfl), old⟩
  | finish =>
    rw [List.forall_mem_cons, List.forall_mem_cons, List.forall_mem_cons]
    exact ⟨trivial, trivial, responded (genuine _ _ rfl), old⟩
  | accept here role verified =>
    refine List.forall_mem_cons.mpr ⟨?_, old⟩
    obtain ⟨l, socket, dest, sent⟩ := genuine _ _ rfl
    obtain ⟨r, e, s, completed, keyed, nonce⟩ := C.spoken l _ sent
    obtain ⟨own, -⟩ := (C.traced i).recorded.table _ _ here
    exact ⟨l, r, e, s, completed, keyed, nonce.trans own.symm⟩

/-- What every step of the ends keeps. -/
theorem Connected.step (C : Connected S site E) {i : ι} {E' : Ends} {m : Option (Msg × Bool)}
    (st : Ends.Step S (site i).random m (E i) E')
    (genuine : ∀ msg error, m = some (msg, error) → Genuine E msg) :
    Connected S site (Function.update E i E') where
  traced j := by
    by_cases same : j = i
    · subst same
      rw [Function.update_self]
      exact st.traced (C.traced j)
    · rw [Function.update_of_ne same]
      exact C.traced j
  spoken j := by
    by_cases same : j = i
    · subst same
      rw [Function.update_self]
      exact st.spoken (C.spoken j)
    · rw [Function.update_of_ne same]
      exact C.spoken j
  vouched j x mem := by
    refine Vouched.mono (grows st) ?_
    by_cases same : j = i
    · subst same
      rw [Function.update_self] at mem
      exact C.new_vouched st genuine x mem
    · rw [Function.update_of_ne same] at mem
      exact C.vouched j x mem

/-! ## Runs -/

omit [DecidableEq ι] in
/-- A message that was sent goes back to its sender. -/
lemma genuine_of_sent {p : ι → DhtClient} {i : ι} {msg : Msg} (mem : msg ∈ (p i).sent)
    (requested : Requested (p i).pubkey (p i).requests) : Genuine (ends p) msg := by
  cases msg with
  | connectionReq pubkey nonce =>
    obtain ⟨socket, dest, logged⟩ := (p i).sent_log mem
    obtain ⟨own, id, attempted⟩ :=
      requested socket dest pubkey nonce (List.mem_filter.mpr ⟨logged, rfl⟩)
    exact ⟨i, id, own, List.mem_filter.mpr ⟨(List.mem_filter.mp attempted).1, rfl⟩⟩
  | connectionRes1 => exact ⟨i, DhtClient.mem_sent rfl mem⟩
  | connectionRes2 => exact ⟨i, DhtClient.mem_sent rfl mem⟩
  | _ => trivial

variable (S site) in
/-- All connection requests are genuine wherever a message is received. -/
lemma received_requested (schedule : List (ι × Env × Event)) :
    Received S site (fun p _ _ _ => ∀ i, Requested (p i).pubkey (p i).requests) schedule := by
  have through : Parties.Throughout (step S site) (fun p _ _ => ∀ i,
      (p i).books.Consistent none ∧ Requested (p i).pubkey (p i).requests) (new S site) schedule := by
    refine Parties.throughout_invariant
      (I := fun _ (c : DhtClient) => c.books.Consistent none ∧ Requested c.pubkey c.requests)
      ?_ ?_ schedule
    · rintro i c e ⟨C, R⟩
      have before := DhtClient.step_invariant S (site i).wordSize (site i).random (P := c.ends.Before)
        (fun _ _ _ st before => before.trans st.before) C e.1 e.2 (.refl _)
      have key : (step S site i c e).pubkey = c.pubkey := before.pubkey
      refine ⟨DhtClient.step_consistent S _ _ e.1 e.2 C, ?_⟩
      rw [key]
      exact DhtClient.step_requested S _ _ e.1 e.2 R rfl
    · exact fun i => ⟨Books.Consistent.init, fun _ _ _ _ mem => absurd mem List.not_mem_nil⟩
  exact through.mono fun p i e h msg _ j => (h j).2

/-- Every message of the handshake that is received was sent by one of the clients. -/
def Relayed {ι : Type} (p : ι → DhtClient) (msg : Msg) : Prop :=
  msg.connecting = true → ∃ i, msg ∈ (p i).sent

/-- The ends of a run with relayed messages are connected. -/
theorem run_connected {schedule : List (ι × Env × Event)}
    (relayed : Received S site (fun p _ _ msg => Relayed p msg) schedule) :
    Connected S site (ends (run S site schedule)) := by
  refine run_invariant rfl (relayed.and (received_requested S site schedule)) ?_ ?_ ?_
  · intro E i E' st _ C
    exact C.step st nofun
  · intro p i env msg E' ⟨sent, requested⟩ st _ C
    refine C.step st fun msg' error e => ?_
    cases e
    cases kind : msg.connecting with
    | true =>
      obtain ⟨j, mem⟩ := sent kind
      exact genuine_of_sent mem (requested j)
    | false => cases msg <;> trivial
  · exact ⟨fun i => DhtClient.new_traced S (site i).random (site i).key,
      fun _ _ mem => absurd mem List.not_mem_nil, fun _ _ mem => absurd mem List.not_mem_nil⟩

/-! ## What the ends have in common -/

section Ends

variable {net : ι → DhtClient}

omit [DecidableEq ι] in
/-- A nonce is drawn by one client only. -/
lemma Fresh.owner (fresh : Fresh site net) {i j : ι} {nonce : DhtKey}
    (own : (net i).ends.Drew (site i).random nonce)
    (other : (net j).ends.Drew (site j).random nonce) : i = j := by
  obtain ⟨a, la, ea⟩ := own
  obtain ⟨b, lb, eb⟩ := other
  exact (fresh i j a b la lb (ea.trans eb.symm)).1

omit [DecidableEq ι] in
lemma Fresh.distinct (fresh : Fresh site net) (i : ι) :
    Set.InjOn (site i).random (Set.Iio (net i).ends.draws) :=
  fun a la b lb e => (fresh i i a b la lb e).2

omit [DecidableEq ι] in
/-- Behind a new connection is a client that requested it, with the mirrored nonces. -/
lemma Connected.mirrored (C : Connected S site (ends net)) (fresh : Fresh site net) {j : ι}
    {k : DhtConnection} (signalled : .newConnection k ∈ (ends net j).log) :
    ∃ i id r e s t, .complete r e ∈ (ends net i).log ∧ e.Keyed S s ∧ k.Keyed S t ∧
      .attempt id s.nonce ∈ (ends net i).log ∧ s.nonce = t.peerNonce ∧ s.peerNonce = t.nonce ∧
      secret S site i j = some s.shared ∧ secret S site j i = some t.shared := by
  have R := fun i => (C.traced i).recorded
  obtain ⟨t, keyed', answered⟩ := (R j).log _ signalled
  obtain ⟨drew, -, shared'⟩ := (R j).log _ answered
  obtain ⟨i, r, e, s, completed, keyed, nonce⟩ := C.vouched j _ signalled
  obtain ⟨s', keyed'', derived⟩ := (R i).log _ completed
  obtain rfl := keyed.unique keyed''
  obtain ⟨attempted, shared⟩ := (R i).log _ derived
  -- the response came from the client that drew its nonce, which is `j`
  obtain ⟨j', t', pubkey, answered', own, peer⟩ := C.vouched i _ derived
  have own : t'.nonce = t.nonce := own.trans (nonce.trans keyed'.nonce.symm)
  obtain rfl := fresh.owner ((R j').log _ answered').1 (own ▸ drew)
  obtain rfl := (C.traced j').answer_unique (fresh.distinct j') answered' answered own
  -- the request came from the client that drew its nonce, which is `i`
  obtain ⟨i', id, pubkey', attempted'⟩ := C.vouched j' _ answered
  obtain rfl := fresh.owner ((R i').log _ attempted').2 (peer ▸ ((R i).log _ attempted).2)
  refine ⟨i', _, r, e, s, t', completed, keyed, keyed', attempted, peer.symm,
    nonce.trans keyed'.nonce.symm, ?_, ?_⟩
  · rw [(C.traced i').before.privkey, pubkey, (C.traced j').before.pubkey] at shared
    exact shared
  · rw [(C.traced j').before.privkey, pubkey', (C.traced i').before.pubkey] at shared'
    exact shared'

/-- The deliveries of a client under one nonce are the same. -/
lemma delivered_apart {schedule : List (ι × Env × Event)} (fresh : Fresh site (run S site schedule))
    (i : ι) : (run S site schedule i).log.Pairwise fun x y =>
      ∀ k ∈ x.delivery, ∀ k' ∈ y.delivery, k.nonce ≠ k'.nonce := by
  have single := (run_traced S site schedule i).single (fresh.distinct i)
  have nodup := single.nodup
  rw [DhtClient.ends_deliveries] at nodup
  exact List.pairwise_filterMap.mp (List.pairwise_map.mp nodup)

lemma delivered_unique {schedule : List (ι × Env × Event)} (fresh : Fresh site (run S site schedule))
    {i : ι} {x y : Action} (hx : x ∈ (run S site schedule i).log)
    (hy : y ∈ (run S site schedule i).log) {k k' : DhtConnection} (delivers : x.delivery = some k)
    (delivers' : y.delivery = some k') (nonce : k.nonce = k'.nonce) : x = y := by
  by_contra ne
  have symmetric : Std.Symm fun x y : Action =>
      ∀ k ∈ x.delivery, ∀ k' ∈ y.delivery, k.nonce ≠ k'.nonce :=
    ⟨fun x y h k hk k' hk' => (h k' hk' k hk).symm⟩
  exact (delivered_apart fresh i).forall hx hy ne k delivers k' delivers' nonce

end Ends

/-! ## Attempts -/

/-- A predicate that no two elements share holds of one at most. -/
lemma countP_le_one {α : Type} {p : α → Bool} {xs : List α}
    (apart : xs.Pairwise fun x y => ¬ (p x ∧ p y)) : xs.countP p ≤ 1 := by
  induction xs with
  | nil => exact Nat.zero_le _
  | cons x xs ih =>
    obtain ⟨first, rest⟩ := List.pairwise_cons.mp apart
    rw [List.countP_cons]
    split
    · rename_i here
      have none : xs.countP p = 0 := List.countP_eq_zero.mpr fun y mem there => first y mem ⟨here, there⟩
      omega
    · exact ih rest

section Attempt

variable {schedule : List (ι × Env × Event)} (fresh : Fresh site (run S site schedule))
  (relayed : Received S site (fun p _ _ msg => Relayed p msg) schedule) {i j : ι}
  (symmetric : secret S site i j = secret S site j i) {id : DhtId} {nonce : DhtKey}
  (attempted : .attempt id nonce ∈ (run S site schedule i).log)

include fresh relayed symmetric attempted in
/-- A new connection for an attempt goes back to the client that made it. -/
lemma signal_mirrored {k : DhtConnection}
    (signalled : .newConnection k ∈ (run S site schedule j).log)
    (signals : (Action.newConnection k).signals nonce) :
    ∃ r e s t, .complete r e ∈ (run S site schedule i).log ∧ e.Keyed S s ∧ k.Keyed S t ∧
      (∃ socket dest tag,
        .sendTo socket dest (.connectionRes2 k.nonce tag) ∈ (run S site schedule i).log) ∧
      s.nonce = nonce ∧ t.peerNonce = nonce ∧ s.peerNonce = t.nonce ∧ s.shared = t.shared := by
  have C := run_connected relayed
  have logged : ∀ {i x}, x ∈ (run S site schedule i).log → x.traced = true →
      x ∈ (ends (run S site schedule) i).log := fun mem traced => List.mem_filter.mpr ⟨mem, traced⟩
  have recorded : ∀ {i x}, x ∈ (ends (run S site schedule) i).log →
      x ∈ (run S site schedule i).log := fun mem => (List.mem_filter.mp mem).1
  obtain ⟨i', id', r, e, s, t, completed, keyed, keyed', attempted', mirrored, peer, shared, shared'⟩ :=
    C.mirrored fresh (logged signalled rfl)
  have own : t.peerNonce = nonce := by simpa [Action.signals, keyed'.session] using signals
  have R := fun i => (C.traced i).recorded
  -- the nonce was drawn by one client only
  obtain rfl := fresh.owner ((R i').log _ attempted').2
    (mirrored.trans own ▸ ((R i).log _ (logged attempted rfl)).2)
  obtain ⟨socket, dest, tag, sent⟩ := C.spoken i' _ completed s keyed
  rw [symmetric, shared'] at shared
  refine ⟨r, e, s, t, recorded completed, keyed, keyed', ⟨socket, dest, tag, ?_⟩,
    mirrored.trans own, own, peer, (Option.some.inj shared).symm⟩
  rw [peer, keyed'.nonce] at sent
  exact recorded sent

include fresh relayed symmetric attempted in
/-- Two clients on a network that delivers only what was sent agree on every attempt to connect. -/
theorem agreement : Agreed S nonce (run S site schedule i) (run S site schedule j) where
  success := by
    refine countP_le_one ((delivered_apart fresh i).imp fun {x y} apart both => ?_)
    cases x with
    | complete r k =>
      cases y with
      | complete r' k' =>
        have nonces : k.nonce = nonce ∧ k'.nonce = nonce := by simpa [Action.succeeds] using both
        exact apart k rfl k' rfl (nonces.1.trans nonces.2.symm)
      | _ => exact Bool.false_ne_true both.2
    | _ => exact Bool.false_ne_true both.1
  signal := by
    refine countP_le_one ((delivered_apart fresh j).imp_of_mem fun {x y} hx hy apart both => ?_)
    cases x with
    | newConnection k₁ =>
      cases y with
      | newConnection k₂ =>
        obtain ⟨_, e₁, s₁, t₁, completed₁, keyed₁, answered₁, _, own₁, _, peer₁, _⟩ :=
          signal_mirrored fresh relayed symmetric attempted hx both.1
        obtain ⟨_, e₂, s₂, t₂, completed₂, keyed₂, answered₂, _, own₂, _, peer₂, _⟩ :=
          signal_mirrored fresh relayed symmetric attempted hy both.2
        -- both go back to the one success, which has one nonce of the peer
        have nonces : e₁.nonce = e₂.nonce := by
          rw [← keyed₁.nonce, ← keyed₂.nonce, own₁, own₂]
        cases delivered_unique fresh completed₁ completed₂ rfl rfl nonces
        obtain rfl := keyed₁.unique keyed₂
        refine apart k₁ rfl k₂ rfl ?_
        rw [← answered₁.nonce, ← answered₂.nonce, ← peer₁, ← peer₂]
      | _ => exact Bool.false_ne_true both.2
    | _ => exact Bool.false_ne_true both.1
  callback r k completed _ := by
    rw [run, Parties.run_apply] at completed ⊢
    exact DhtClient.completed_once S _ _ _ _ completed
  keys k signalled signals := by
    obtain ⟨r, e, s, t, completed, keyed, keyed', sent, own, own', peer, shared⟩ :=
      signal_mirrored fresh relayed symmetric attempted signalled signals
    refine ⟨r, e, s, t, completed, keyed, keyed', sent, own, own', peer, ?_, ?_⟩
    · rw [keyed.encKey, keyed'.decKey, own, own', peer, shared]
    · rw [keyed.decKey, keyed'.encKey, own, own', peer, shared]

end Attempt

instance instDecidableRelayed {ι : Type} [Fintype ι] (p : ι → DhtClient) (msg : Msg) :
    Decidable (Relayed p msg) :=
  inferInstanceAs (Decidable (_ → _))

/-- The ends of the handshake agree, and a new connection is signalled. -/
theorem handshake_agreed : ∃ k,
    .newConnection k ∈ (run Sodium.transparent pair (schedule handshake) true).log ∧
    (Action.newConnection k).signals (byteKey 10) ∧
    Agreed Sodium.transparent (byteKey 10) (run Sodium.transparent pair (schedule handshake) false)
      (run Sodium.transparent pair (schedule handshake) true) := by
  have attempted : .attempt (DhtId.fromPubkey Sodium.transparent (byteKey 2)) (byteKey 10) ∈
      (run Sodium.transparent pair (schedule handshake) false).log := by
    rw [handshake_run]
    decide +kernel
  have relayed : Received Sodium.transparent pair (fun p _ _ msg => Relayed p msg)
      (schedule handshake) := by
    rw [received_schedule handshake_short]
    decide +kernel
  have signalled : ∃ x ∈ (run Sodium.transparent pair (schedule handshake) true).log,
      x.signals (byteKey 10) := by
    rw [handshake_run]
    decide +kernel
  obtain ⟨x, mem, signals⟩ := signalled
  cases x with
  | newConnection k =>
    exact ⟨k, mem, signals, agreement handshake_fresh relayed (by decide +kernel) attempted⟩
  | _ => cases signals

end Network

end Nanotalk
