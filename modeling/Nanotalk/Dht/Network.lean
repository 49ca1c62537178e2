import Nanotalk.Dht.Sessions
import Nanotalk.Lib.Parties

/-!
# Clients on a network

Any number of clients, each with its own platform, keys and random numbers. What arrives where and
when is up to the schedule, so that it can hold back, alter, replay and make up any datagram.

* `run_invariant`: what the steps of the ends keep, a run of the clients keeps.
* `delivery_keys`: the keys of two deliveries are equal only where they have to be.
-/

namespace Nanotalk
open DhtClient (Env)

/-- What a client is given: the platform, its private key and the keys it will draw. -/
structure Site where
  wordSize : WordSize
  key : DhtKey
  random : Nat → DhtKey

/-- The arguments of the two calls of `dht_key_derive` for a session. -/
def Session.calls (s : Session) : List (DhtKey × DhtKey × DhtKey) :=
  [(s.shared, s.nonce, s.peerNonce), (s.shared, s.peerNonce, s.nonce)]

namespace Network

variable {ι : Type} [DecidableEq ι] (S : Sodium) (site : ι → Site)

/-- A client takes an event. -/
def step (i : ι) (c : DhtClient) (e : Env × Event) : DhtClient :=
  c.step S (site i).wordSize (site i).random e.1 e.2

/-- The clients as they are made. -/
def new (i : ι) : DhtClient := .new S (site i).key

/-- The clients after a schedule. -/
def run (schedule : List (ι × Env × Event)) : ι → DhtClient :=
  Parties.run (step S site) (new S site) schedule

/-- No number drawn by the clients repeats. -/
def Fresh {ι : Type} (site : ι → Site) (net : ι → DhtClient) : Prop :=
  ∀ i j a b, a < (net i).draws → b < (net j).draws → (site i).random a = (site j).random b →
    i = j ∧ a = b

/-- The arguments that the clients called `dht_key_derive` with. -/
def derived {ι : Type} (net : ι → DhtClient) : Set (DhtKey × DhtKey × DhtKey) :=
  {x | ∃ i, ∃ s ∈ (net i).sessions, x ∈ s.calls}

/-- `Q` holds of every message that a client receives, in the state and the environment where it
    arrives. -/
def Received (Q : (ι → DhtClient) → ι → Env → Msg → Prop) (schedule : List (ι × Env × Event)) :
    Prop :=
  Parties.Throughout (step S site)
    (fun net i e => ∀ msg ∈ e.2.msg (site i).wordSize, Q net i e.1 msg) (new S site) schedule

/-- The ends of the handshake that the clients are. -/
def ends {ι : Type} (net : ι → DhtClient) (i : ι) : Ends := (net i).ends

variable {S site}

/-- Two properties of the messages received. -/
lemma Received.and {Q R : (ι → DhtClient) → ι → Env → Msg → Prop}
    {schedule : List (ι × Env × Event)} (q : Received S site Q schedule)
    (r : Received S site R schedule) :
    Received S site (fun net i env msg => Q net i env msg ∧ R net i env msg) schedule := by
  have both := Parties.Throughout.and q r
  refine both.mono fun net i e h msg read => ?_
  exact ⟨h.1 msg read, h.2 msg read⟩

/-! ## Invariants -/

/-- The ends after an event. -/
lemma ends_act (net : ι → DhtClient) (i : ι) (e : Env × Event) :
    ends (Parties.act (step S site) net (i, e)) =
      Function.update (ends net) i (step S site i (net i) e).ends := by
  funext j
  exact Function.apply_update (fun _ c => DhtClient.ends c) net i _ j

/-- The books stay consistent and nothing leaves the log. -/
lemma run_before {net : ι → DhtClient} (C : ∀ i, (net i).books.Consistent none)
    (schedule : List (ι × Env × Event)) (i : ι) :
    (net i).ends.Before (Parties.run (step S site) net schedule i).ends := by
  have related : (net i).books.Consistent none →
      (Parties.run (step S site) net schedule i).books.Consistent none ∧
      (net i).ends.Before (Parties.run (step S site) net schedule i).ends := by
    refine Parties.run_related (R := fun c c' : DhtClient => c.books.Consistent none →
      c'.books.Consistent none ∧ c.ends.Before c'.ends) (fun c C => ⟨C, .refl _⟩) ?_ ?_ schedule i
    · intro c c' c'' h h' C
      obtain ⟨C', before⟩ := h C
      obtain ⟨C'', before'⟩ := h' C'
      exact ⟨C'', before.trans before'⟩
    · intro i c e C
      refine ⟨DhtClient.step_consistent S (site i).wordSize (site i).random e.1 e.2 C, ?_⟩
      exact DhtClient.step_invariant S (site i).wordSize (site i).random
        (fun _ _ _ st before => before.trans st.before) C e.1 e.2 (.refl _)
  exact (related (C i)).2

/-- What one step of an end on its own keeps, a sequence of them keeps. -/
lemma own_steps {P : (ι → Ends) → Prop} {F : ι → Ends}
    (own : ∀ E i E', Ends.Step S (site i).random none (E i) E' →
      (∀ j, (Function.update E i E' j).Before (F j)) → P E → P (Function.update E i E'))
    {E : ι → Ends} {i : ι} {E' : Ends} (st : Ends.Steps S (site i).random (E i) E')
    (before : ∀ j, (Function.update E i E' j).Before (F j)) (holds : P E) :
    P (Function.update E i E') := by
  induction st with
  | refl => rwa [Function.update_eq_self]
  | @tail E₁ E₂ _ last ih =>
    have earlier : ∀ j, (Function.update E i E₁ j).Before (F j) := by
      intro j
      have h := before j
      by_cases same : j = i
      · subst same
        rw [Function.update_self] at h ⊢
        exact last.before.trans h
      · rwa [Function.update_of_ne same] at h ⊢
    have next := own (Function.update E i E₁) i E₂ (by rwa [Function.update_self])
    rw [Function.update_idem] at next
    exact next before (ih earlier)

/-- An invariant of the ends holds after a run when their steps keep it: those that answer no message,
    and those that answer a message of which `Q` holds. Every state is before the last one. -/
theorem run_invariant {P : (ι → Ends) → Prop} {Q : (ι → DhtClient) → ι → Env → Msg → Prop}
    {schedule : List (ι × Env × Event)} {net : ι → DhtClient} (last : run S site schedule = net)
    (received : Received S site Q schedule)
    (own : ∀ E i E', Ends.Step S (site i).random none (E i) E' →
      (∀ j, (Function.update E i E' j).Before (ends net j)) → P E → P (Function.update E i E'))
    (answer : ∀ p i env msg E', Q p i env msg →
      Ends.Step S (site i).random (some (msg, env.socketError)) (ends p i) E' →
      (∀ j, (Function.update (ends p) i E' j).Before (ends net j)) → P (ends p) →
        P (Function.update (ends p) i E'))
    (initial : P (ends (new S site))) : P (ends net) := by
  refine (Parties.run_induct (P := fun p => (∀ i, (p i).books.Consistent none) ∧ P (ends p)) ?_
    received last ⟨fun _ => Books.Consistent.init, initial⟩).2
  rintro p i e rest q reached ⟨C, holds⟩
  have C' : ∀ j, (Parties.act (step S site) p (i, e) j).books.Consistent none := by
    intro j
    rw [Parties.act, Function.update_apply]
    split
    · exact DhtClient.step_consistent S (site i).wordSize (site i).random e.1 e.2 (C i)
    · exact C j
  have before : ∀ j, (ends (Parties.act (step S site) p (i, e)) j).Before (ends net j) := by
    intro j
    rw [← reached]
    exact run_before C' rest j
  refine ⟨C', ?_⟩
  rw [ends_act] at before ⊢
  rcases DhtClient.step_refines S (site i).wordSize (site i).random (C i) e.1 e.2 with
    st | ⟨msg, read, st⟩
  · exact own_steps own st before holds
  · exact answer p i e.1 msg _ (q msg read) st before holds

/-! ## Deliveries -/

variable (S site) in
/-- The end of every client is traced. -/
lemma run_traced (schedule : List (ι × Env × Event)) (i : ι) :
    (new S site i).ends.Traced S (site i).random (run S site schedule i).ends := by
  rw [run, Parties.run_apply]
  exact DhtClient.run_traced S _ _ _ _

/-- A delivery has the keys of a session that its client recorded, under a nonce drawn by the
    client. -/
lemma delivery_session {schedule : List (ι × Env × Event)} {i : ι} {k : DhtConnection}
    (mem : k ∈ (run S site schedule i).deliveries) :
    ∃ s ∈ (run S site schedule i).sessions, k.Keyed S s ∧
      DhtKey.makeShared S (site i).key s.pubkey = some s.shared ∧
      ∃ a < (run S site schedule i).draws, (site i).random a = s.nonce := by
  have T := run_traced S site schedule i
  rw [← DhtClient.ends_deliveries] at mem
  obtain ⟨s, recorded, keyed, drew, secret⟩ := T.recorded.delivery mem
  rw [T.before.privkey] at secret
  rw [DhtClient.ends_sessions] at recorded
  exact ⟨s, recorded, keyed, secret, drew⟩

/-- At one client, two deliveries under one nonce are the same. -/
lemma delivery_single {schedule : List (ι × Env × Event)} (fresh : Fresh site (run S site schedule))
    {i : ι} {a b : Nat} {e f : DhtConnection}
    (he : (run S site schedule i).deliveries[a]? = some e)
    (hf : (run S site schedule i).deliveries[b]? = some f) (nonce : e.nonce = f.nonce) : a = b := by
  have T := run_traced S site schedule i
  have single := T.single fun a la b lb eq => (fresh i i a b la lb eq).2
  have nodup := single.nodup
  rw [DhtClient.ends_deliveries] at nodup
  have first : ((run S site schedule i).deliveries.map DhtConnection.nonce)[a]? = some e.nonce := by
    rw [List.getElem?_map, he]
    rfl
  have second : ((run S site schedule i).deliveries.map DhtConnection.nonce)[b]? = some f.nonce := by
    rw [List.getElem?_map, hf]
    rfl
  have bound := (List.getElem?_eq_some_iff.mp first).1
  exact (List.getElem?_inj bound nodup).mp (first.trans (nonce ▸ second.symm))

/-- Two deliveries of a network, `e` as number `a` of client `i` and `f` as number `b` of client `j`:
    they have the same encryption key only if they are the same delivery, and one encrypts with the
    key that the other decrypts with exactly if they have the same secret and mirrored nonces. -/
theorem delivery_keys (schedule : List (ι × Env × Event))
    (fresh : Fresh site (run S site schedule))
    (injective : Set.InjOn (fun x : DhtKey × DhtKey × DhtKey => (DhtKey.derive S x.1 x.2.1 x.2.2).1)
      (derived (run S site schedule)))
    {i j : ι} {a b : Nat} {e f : DhtConnection}
    (he : (run S site schedule i).deliveries[a]? = some e)
    (hf : (run S site schedule j).deliveries[b]? = some f) :
    ∃ s t : Session,
      (e.Keyed S s ∧ DhtKey.makeShared S (site i).key s.pubkey = some s.shared) ∧
      (f.Keyed S t ∧ DhtKey.makeShared S (site j).key t.pubkey = some t.shared) ∧
      (e.encKey = f.encKey → i = j ∧ a = b) ∧
      (e.encKey = f.decKey ↔
        s.shared = t.shared ∧ s.nonce = t.peerNonce ∧ s.peerNonce = t.nonce) := by
  obtain ⟨s, hs, keyed, secret, c, lc, drew⟩ := delivery_session (List.mem_of_getElem? he)
  obtain ⟨t, ht, keyed', secret', d, ld, drew'⟩ := delivery_session (List.mem_of_getElem? hf)
  refine ⟨s, t, ⟨keyed, secret⟩, ⟨keyed', secret'⟩, ?_, ?_⟩
  · intro same
    rw [keyed.encKey, keyed'.encKey, Option.some_inj] at same
    have args := injective ⟨i, s, hs, .head _⟩ ⟨j, t, ht, .head _⟩ same
    have nonce : s.nonce = t.nonce := congrArg (·.2.1) args
    obtain ⟨rfl, _⟩ := fresh i j c d lc ld (drew.trans (nonce.trans drew'.symm))
    exact ⟨rfl, delivery_single fresh he hf
      (keyed.nonce.symm.trans (nonce.trans keyed'.nonce))⟩
  · rw [keyed.encKey, keyed'.decKey, Option.some_inj]
    constructor
    · intro same
      have args := injective ⟨i, s, hs, .head _⟩ ⟨j, t, ht, .tail _ (.head _)⟩ same
      simpa using args
    · rintro ⟨shared, nonce, peerNonce⟩
      rw [shared, nonce, peerNonce]

/-! ## Messages as they were sent -/

variable (S site) in
/-- A client takes an input. -/
def deliver (i : ι) (c : DhtClient) (e : Env × Input) : DhtClient :=
  match e.2 with
  | .event event => step S site i c (e.1, event)
  | .message msg sockaddr => c.receiveMsg S (site i).random e.1 sockaddr msg

omit [DecidableEq ι] in
/-- An input that fits into a datagram is taken as its event. -/
lemma step_toEvent {e : Env × Input} (short : e.2.Short) (i : ι) (c : DhtClient) :
    step S site i c (e.1, e.2.toEvent) = deliver S site i c e := by
  obtain ⟨env, input⟩ := e
  cases input with
  | event event => rfl
  | message msg sockaddr => exact DhtClient.step_message S _ _ env short sockaddr

/-- The schedule of inputs. -/
def schedule {ι : Type} (inputs : List (ι × Env × Input)) : List (ι × Env × Event) :=
  inputs.map fun e => (e.1, e.2.1, e.2.2.toEvent)

variable (S site) in
/-- The clients after inputs. -/
def runInputs (inputs : List (ι × Env × Input)) : ι → DhtClient :=
  Parties.run (deliver S site) (new S site) inputs

/-- A run of inputs is one of events. -/
theorem run_schedule {inputs : List (ι × Env × Input)} (short : ∀ e ∈ inputs, e.2.2.Short) :
    run S site (schedule inputs) = runInputs S site inputs :=
  Parties.run_translate (fun e : Env × Input => (e.1, e.2.toEvent)) inputs
    fun e mem i c => step_toEvent (short e mem) i c

/-- What a run of inputs receives. -/
theorem received_schedule {Q : (ι → DhtClient) → ι → Env → Msg → Prop}
    {inputs : List (ι × Env × Input)} (short : ∀ e ∈ inputs, e.2.2.Short) :
    Received S site Q (schedule inputs) ↔
      Parties.Throughout (deliver S site)
        (fun net i e => ∀ msg ∈ e.2.msg (site i).wordSize, Q net i e.1 msg) (new S site) inputs := by
  refine Parties.throughout_translate (fun e : Env × Input => (e.1, e.2.toEvent)) inputs
    (fun e mem i c => step_toEvent (short e mem) i c) fun e mem p i => ?_
  rw [Input.toEvent_msg (short e mem)]

/-! ## A handshake -/

/-- That numbers do not repeat can be checked up to the draws. -/
lemma fresh_iff {ι : Type} {site : ι → Site} {net : ι → DhtClient} : Fresh site net ↔
    ∀ i j, ∀ a < (net i).draws, ∀ b < (net j).draws,
      (site i).random a = (site j).random b → i = j ∧ a = b :=
  ⟨fun h i j a la b lb => h i j a b la lb, fun h i j a b la lb => h i j a la b lb⟩

/-- That tags have no collisions can be checked call by call. -/
lemma injOn_derived {ι : Type} {net : ι → DhtClient} {f : DhtKey × DhtKey × DhtKey → DhtKey} :
    Set.InjOn f (derived net) ↔ ∀ i j, ∀ s ∈ (net i).sessions, ∀ t ∈ (net j).sessions,
      ∀ x ∈ s.calls, ∀ y ∈ t.calls, f x = f y → x = y := by
  constructor
  · intro h i j s hs t ht x hx y hy
    exact h ⟨i, s, hs, hx⟩ ⟨j, t, ht, hy⟩
  · rintro h x ⟨i, s, hs, hx⟩ y ⟨j, t, ht, hy⟩
    exact h i j s hs t ht x hx y hy

/-- A key with one byte set. -/
def byteKey (b : UInt8) : DhtKey := ⟨fun i => if i.val = 0 then b else 0⟩

/-- Two clients; the first one draws 10, 11, …, the second one 20, 21, … -/
def pair (i : Bool) : Site where
  wordSize := .w64
  key := byteKey (if i then 2 else 1)
  random a := byteKey ((if i then 20 else 10) + UInt8.ofNat a)

/-- The first client looks up the second one, which listens, and all messages of the handshake
    arrive. -/
def handshake : List (Bool × Env × Input) :=
  let peer : GSocketAddress := ⟨.ipv4 fun _ => 7, 5004⟩
  let env : Env := ⟨0, 0, false⟩
  let id := DhtId.fromPubkey Sodium.transparent (byteKey 2)
  [(true, env, .event (.setListen true)),
    (false, env, .message (.lookupReq id id) peer),
    (false, env, .event (.lookupAsync id)),
    (true, env, .message (.connectionReq (byteKey 1) (byteKey 10)) peer),
    (false, env, .message (.connectionRes1 (byteKey 2) (byteKey 20) (byteKey 10)
      (DhtKey.derive Sodium.transparent (byteKey 3) (byteKey 20) (byteKey 10)).2) peer),
    (true, env, .message (.connectionRes2 (byteKey 20)
      (DhtKey.derive Sodium.transparent (byteKey 3) (byteKey 10) (byteKey 20)).2) peer)]

/-- The messages fit into a datagram. -/
lemma handshake_short : ∀ e ∈ handshake, e.2.2.Short := by
  simp +decide [handshake, Input.Short, Msg.bytes_length]

/-- The run as one of messages. -/
lemma handshake_run : run Sodium.transparent pair (schedule handshake) =
    runInputs Sodium.transparent pair handshake :=
  run_schedule handshake_short

/-- The draws do not repeat. -/
lemma handshake_fresh : Fresh pair (run Sodium.transparent pair (schedule handshake)) := by
  rw [handshake_run, fresh_iff]
  decide +kernel

/-- The keys have no collisions. -/
lemma handshake_injective : Set.InjOn
    (fun x : DhtKey × DhtKey × DhtKey => (DhtKey.derive Sodium.transparent x.1 x.2.1 x.2.2).1)
    (derived (run Sodium.transparent pair (schedule handshake))) := by
  rw [handshake_run, injOn_derived]
  decide +kernel

/-- In the handshake, the first client encrypts with the key that the second one decrypts with: they
    have the same secret and mirrored nonces. -/
theorem handshake_delivers : ∃ e f : DhtConnection, ∃ s t : Session,
    e.Keyed Sodium.transparent s ∧ f.Keyed Sodium.transparent t ∧ e.encKey = f.decKey ∧
      s.shared = t.shared ∧ s.nonce = t.peerNonce ∧ s.peerNonce = t.nonce := by
  have first : (runInputs Sodium.transparent pair handshake false).deliveries[0]?.isSome := by
    decide +kernel
  have second : (runInputs Sodium.transparent pair handshake true).deliveries[0]?.isSome := by
    decide +kernel
  have same : (runInputs Sodium.transparent pair handshake false).deliveries[0]?.bind (·.encKey) =
      (runInputs Sodium.transparent pair handshake true).deliveries[0]?.bind (·.decKey) := by
    decide +kernel
  obtain ⟨e, he⟩ := Option.isSome_iff_exists.mp first
  obtain ⟨f, hf⟩ := Option.isSome_iff_exists.mp second
  rw [he, hf, Option.bind_some, Option.bind_some] at same
  rw [← handshake_run] at he hf
  obtain ⟨s, t, ⟨keyed, _⟩, ⟨keyed', _⟩, _, mirrored⟩ :=
    delivery_keys (schedule handshake) handshake_fresh handshake_injective he hf
  exact ⟨e, f, s, t, keyed, keyed', same, mirrored.mp same⟩

end Network

end Nanotalk
