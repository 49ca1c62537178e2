import Mathlib.Data.Fintype.Basic
import Nanotalk.App.Partners
import Nanotalk.Dht.Agreement

/-!
# Phones on a network

Any number of phones, the clients of which are the clients of `Network`: a run of the phones leads
these through a run of their own (`run_clients`).

On a network that loses, delays, duplicates and reorders what the clients send, a phone has a session
only for a call that its user made, or that the user of another phone made to it, whose session has
the keys the other way round (`peers_run`).
-/

namespace Nanotalk
open DhtClient (Env)

/-- The message that an event brings to the client. -/
def Phone.Event.msg (w : WordSize) : Phone.Event → Option Msg
  | .client _ e _ => e.msg w
  | _ => none

/-! ## Both ends -/

namespace Network

variable {ι : Type} {S : Sodium} {site : ι → Site} {net : ι → DhtClient}

/-- A client has the id that belongs to its public key. -/
lemma Connected.id (C : Connected S site (ends net)) (i : ι) :
    (net i).id = DhtId.fromPubkey S (net i).pubkey := by
  have before := (C.traced i).before
  have id : (net i).id = (new S site i).id := before.id
  have pubkey : (net i).pubkey = (new S site i).pubkey := before.pubkey
  rw [id, pubkey]
  rfl

/-- The other end of a connection that completed a call is a client. -/
lemma Connected.callee (C : Connected S site (ends net)) {i : ι} {r : Nat} {e : DhtConnection}
    (completed : .complete r e ∈ (net i).log) : ∃ j, e.id = (net j).id := by
  have R := fun i => (C.traced i).recorded
  obtain ⟨s, keyed, derived⟩ := (R i).log _ (List.mem_filter.mpr ⟨completed, rfl⟩)
  obtain ⟨j, t, pubkey, -⟩ := C.vouched i _ derived
  refine ⟨j, ?_⟩
  rw [C.id j, keyed.id, pubkey]
  rfl

/-- The other end of a new connection is a client that completed a call to this one, with the keys the
    other way round. -/
lemma Connected.caller (C : Connected S site (ends net)) (fresh : Fresh site net)
    (symmetric : ∀ i j, secret S site i j = secret S site j i) {j : ι} {k : DhtConnection}
    (signalled : .newConnection k ∈ (net j).log) : ∃ i r e, .complete r e ∈ (net i).log ∧
      e.id = (net j).id ∧ k.id = (net i).id ∧ e.encKey = k.decKey ∧ e.decKey = k.encKey := by
  have R := fun i => (C.traced i).recorded
  have logged : .newConnection k ∈ (ends net j).log := List.mem_filter.mpr ⟨signalled, rfl⟩
  obtain ⟨i, id, r, e, s, t, completed, keyed, keyed', attempted, nonce, peer, shared, shared'⟩ :=
    C.mirrored fresh logged
  rw [symmetric, shared'] at shared
  have shared := Option.some.inj shared
  -- the client that drew the nonce of the response is `j`, the one that drew that of the request `i`
  obtain ⟨s', keyed'', derived⟩ := (R i).log _ completed
  obtain rfl := keyed.unique keyed''
  obtain ⟨t', keyed'', answered⟩ := (R j).log _ logged
  obtain rfl := keyed'.unique keyed''
  obtain ⟨j', u, pubkey, answered', own, -⟩ := C.vouched i _ derived
  obtain rfl := fresh.owner ((R j').log _ answered').1 ((own.trans peer) ▸ ((R j).log _ answered).1)
  obtain ⟨i', id', pubkey', attempted'⟩ := C.vouched j' _ answered
  obtain rfl := fresh.owner ((R i').log _ attempted').2 (nonce ▸ ((R i).log _ attempted).2)
  refine ⟨i', r, e, (List.mem_filter.mp completed).1, ?_, ?_, ?_, ?_⟩
  · rw [C.id j', keyed.id, pubkey]
    rfl
  · rw [C.id i', keyed'.id, pubkey']
    rfl
  · rw [keyed.encKey, keyed'.decKey, nonce, peer, shared]
  · rw [keyed.decKey, keyed'.encKey, nonce, peer, shared]

end Network

namespace Phones

variable {ι : Type} [DecidableEq ι] (S : Sodium) (site : ι → Site)

/-- A phone takes an event. -/
def step (i : ι) (phone : Phone) (e : Phone.Event) : Phone :=
  phone.step S (site i).wordSize (site i).random e

/-- The phones as they are started. -/
def new (i : ι) : Phone := .startup S (site i).key

/-- The phones after a schedule. -/
def run (schedule : List (ι × Phone.Event)) : ι → Phone :=
  Parties.run (step S site) (new S site) schedule

/-- The clients of the phones. -/
def clients {ι : Type} (phones : ι → Phone) (i : ι) : DhtClient := (phones i).client

/-- What happens to a phone. -/
def own (schedule : List (ι × Phone.Event)) (i : ι) : List Phone.Event :=
  (schedule.filter fun e => e.1 = i).map Prod.snd

/-- Every message of the handshake that a phone receives was sent by the client of a phone. -/
def Relaying (schedule : List (ι × Phone.Event)) : Prop :=
  Parties.Throughout (step S site)
    (fun phones i e => ∀ msg ∈ e.msg (site i).wordSize, Network.Relayed (clients phones) msg)
    (new S site) schedule

variable {S site}

lemma run_own (schedule : List (ι × Phone.Event)) (i : ι) : run S site schedule i =
    Phone.run S (site i).wordSize (site i).random (site i).key (own schedule i) :=
  Parties.run_apply schedule i

/-! ## The clients -/

/-- The clients start to listen. -/
def starts (ids : List ι) : List (ι × Env × Event) :=
  ids.map fun i => (i, ⟨0, 0, false⟩, .setListen true)

/-- The clients after the starts of some phones. -/
lemma run_starts (ids : List ι) (i : ι) : Network.run S site (starts ids) i =
    if i ∈ ids then clients (new S site) i else Network.new S site i := by
  induction ids using List.reverseRecOn with
  | nil => rfl
  | append_singleton ids j ih =>
    have last : Network.run S site (starts (ids ++ [j])) = Parties.act (Network.step S site)
        (Network.run S site (starts ids)) (j, ⟨0, 0, false⟩, .setListen true) := by
      rw [starts, List.map_append, Network.run, Parties.run, List.foldl_append]
      rfl
    rw [last, Parties.act, Function.update_apply]
    split
    · rename_i same
      subst same
      rw [if_pos (List.mem_append_right _ (List.mem_singleton_self i))]
      have here : Network.run S site (starts ids) i = clients (new S site) i ∨
          Network.run S site (starts ids) i = Network.new S site i := by
        rw [ih]
        exact ite_eq_or_eq _ _ _
      rcases here with e | e
      · dsimp only
        rw [e]
        rfl
      · dsimp only
        rw [e]
        rfl
    · rename_i other
      rw [ih]
      simp [other]

omit [DecidableEq ι] in
/-- An event of a phone gives inputs to its client. -/
lemma step_clients (i : ι) (phone : Phone) (e : Phone.Event) : (step S site i phone e).client =
    (phone.inputs S (site i).wordSize (site i).random e).foldl (Network.step S site i) phone.client :=
  Phone.step_client S _ _ phone e

/-- Without messages there is nothing to relay. -/
lemma relayed_silent {net : ι → DhtClient} {events : List (ι × Env × Event)}
    (silent : ∀ e ∈ events, ∀ w, e.2.2.msg w = none) : Parties.Throughout (Network.step S site)
      (fun net i e => ∀ msg ∈ e.2.msg (site i).wordSize, Network.Relayed net msg) net events := by
  refine (Parties.Throughout.of_mem (Q := fun e : Env × Event => ∀ w, e.2.msg w = none) silent).mono
    fun net i e none msg mem => ?_
  rw [none] at mem
  cases mem

/-- Only what is received brings a message to a client. -/
lemma relayed_inputs {phones : ι → Phone} {i : ι} {e : Phone.Event}
    (relayed : ∀ msg ∈ e.msg (site i).wordSize, Network.Relayed (clients phones) msg) :
    Parties.Throughout (Network.step S site)
      (fun net j d => ∀ msg ∈ d.2.msg (site j).wordSize, Network.Relayed net msg) (clients phones)
      (((phones i).inputs S (site i).wordSize (site i).random e).map (i, ·)) := by
  cases e with
  | client env e enableVideo =>
    unfold Phone.inputs
    dsimp only
    split
    · exact ⟨relayed, trivial⟩
    · trivial
  | finished n =>
    refine relayed_silent (List.forall_mem_map.mpr fun d mem w => ?_)
    unfold Phone.inputs at mem
    dsimp only at mem
    split at mem
    · rw [List.mem_singleton.mp mem]
      rfl
    · cases mem
  | app env e =>
    refine relayed_silent (List.forall_mem_map.mpr fun d mem w => ?_)
    unfold Phone.inputs at mem
    dsimp only at mem
    split at mem
    · rcases List.mem_append.mp mem with asked | set
      · obtain ⟨id, -, rfl⟩ := List.mem_map.mp asked
        rfl
      · rw [List.mem_singleton.mp set]
        rfl
    · cases mem

/-- The clients of the phones are clients on a network, on which the same messages arrive. -/
theorem run_clients [Fintype ι] {schedule : List (ι × Phone.Event)}
    (relaying : Relaying S site schedule) : ∃ events,
    Network.run S site events = clients (run S site schedule) ∧
    Network.Received S site (fun net _ _ msg => Network.Relayed net msg) events := by
  have first : Network.run S site (starts Finset.univ.toList) = clients (new S site) := by
    funext i
    rw [run_starts, if_pos (Finset.mem_toList.mpr (Finset.mem_univ i))]
  have inner : Network.run S site (starts Finset.univ.toList ++ Parties.project (step S site)
      (fun i phone e => phone.inputs S (site i).wordSize (site i).random e) (new S site) schedule) =
      Parties.run (Network.step S site) (clients (new S site)) (Parties.project (step S site)
        (fun i phone e => phone.inputs S (site i).wordSize (site i).random e) (new S site) schedule) := by
    rw [← first]
    exact List.foldl_append
  refine ⟨_, inner.trans (Parties.run_project (f := Phone.client) step_clients schedule), ?_⟩
  refine Parties.Throughout.append (relayed_silent ?_) ?_
  · refine List.forall_mem_map.mpr fun i _ w => ?_
    rfl
  · rw [← Network.run, first]
    exact Parties.throughout_project (f := Phone.client) step_clients
      (fun phones i e => relayed_inputs) relaying

/-! ## Calls -/

section Calls

variable [Fintype ι] {schedule : List (ι × Phone.Event)} (relaying : Relaying S site schedule)
  (fresh : Network.Fresh site (clients (run S site schedule)))
  (symmetric : ∀ i j, Network.secret S site i j = Network.secret S site j i)

include relaying in
/-- The clients are connected as those of a network. -/
lemma run_connected : Network.Connected S site (Network.ends (clients (run S site schedule))) := by
  obtain ⟨events, same, received⟩ := run_clients relaying
  rw [← same]
  exact Network.run_connected received

omit [Fintype ι] in
/-- A connection that was handed out has a session, and a session has a connection. -/
lemma mem_keys (i : ι) (enc : Medium → Option DhtKey) (dec : Option DhtKey) :
    (∃ session ∈ (run S site schedule i).app.sessions,
        (fun m => some (session.sinks m).key) = enc ∧ some session.src.key = dec) ↔
      ∃ k ∈ (run S site schedule i).client.deliveries, (fun _ => k.encKey) = enc ∧ k.decKey = dec := by
  have keys := Phone.sessions_keys S (site i).wordSize (site i).random (site i).key (own schedule i)
  rw [← run_own] at keys
  have same := congrArg ((enc, dec) ∈ ·) keys
  simp only [List.mem_map, List.mem_reverse, eq_iff_iff, Prod.mk.injEq] at same
  exact same

omit [Fintype ι] in
/-- A call that was completed was made by the user, to another phone. -/
lemma completed_run {i : ι} {r : Nat} {e : DhtConnection}
    (completed : .complete r e ∈ (run S site schedule i).client.log) :
    Phone.Called (own schedule i) e.id ∧ e.id ≠ (Network.new S site i).id := by
  rw [run_own] at completed
  obtain ⟨s, B, called, -⟩ := Phone.completed_run S _ _ _ completed
  exact ⟨called, B.foreign⟩

include relaying fresh symmetric in
/-- On a network that delivers only what phones have sent, every session of a phone is one with another
    phone, that its user called, or the user of which called it and has a session with the keys the
    other way round. -/
theorem peers_run (j : ι) : ∀ session ∈ (run S site schedule j).app.sessions,
    ∃ k ∈ (run S site schedule j).client.deliveries,
      (∀ m, k.encKey = some (session.sinks m).key) ∧ k.decKey = some session.src.key ∧
      ∃ i ≠ j, k.id = (run S site schedule i).client.id ∧
        (Phone.Called (own schedule j) k.id ∨
          Phone.Called (own schedule i) (run S site schedule j).client.id ∧
          ∃ session' ∈ (run S site schedule i).app.sessions,
          ∃ e ∈ (run S site schedule i).client.deliveries,
            (∀ m, e.encKey = some (session'.sinks m).key) ∧ e.decKey = some session'.src.key ∧
            e.encKey = k.decKey ∧ e.decKey = k.encKey) := by
  intro session mem
  have C := run_connected relaying
  have ids : ∀ i, (run S site schedule i).client.id = (Network.new S site i).id := fun i =>
    (C.traced i).before.id
  obtain ⟨k, handed, encs, key⟩ := (mem_keys j _ _).mp ⟨session, mem, rfl, rfl⟩
  refine ⟨k, handed, congrFun encs, key, ?_⟩
  rcases Phone.delivered handed with ⟨r, completed⟩ | signalled
  · obtain ⟨called, foreign⟩ := completed_run completed
    obtain ⟨i, id⟩ := C.callee completed
    refine ⟨i, ?_, id, .inl called⟩
    rintro rfl
    exact foreign (id.trans (ids i))
  · obtain ⟨i, r, e, completed, id, id', enc, dec⟩ := C.caller fresh symmetric signalled
    obtain ⟨called, foreign⟩ := completed_run completed
    refine ⟨i, ?_, id', .inr ⟨id ▸ called, ?_⟩⟩
    · rintro rfl
      exact foreign (id.trans (ids i))
    · have handed' : e ∈ (run S site schedule i).client.deliveries :=
        List.mem_filterMap.mpr ⟨_, completed, rfl⟩
      obtain ⟨session', mem', encs', key'⟩ := (mem_keys i _ _).mpr ⟨e, handed', rfl, rfl⟩
      exact ⟨session', mem', e, handed', congrFun encs'.symm, key'.symm, enc, dec⟩

end Calls

/-! ## Messages as they were sent -/

/-- An event, or a message that arrives as it was sent. -/
inductive Input where
  | event (e : Phone.Event)
  | message (env : Env) (msg : Msg) (sockaddr : GSocketAddress)

/-- The event that an input is. -/
def Input.toEvent : Input → Phone.Event
  | event e => e
  | message env msg sockaddr => .client env (.message msg sockaddr) false

/-- The message fits into a datagram. -/
def Input.Short : Input → Prop
  | event _ => True
  | message _ msg _ => msg.bytes.length ≤ MSG_MTU

/-- The message that an input brings. -/
def Input.msg (w : WordSize) : Input → Option Msg
  | event e => e.msg w
  | message _ msg _ => some msg

variable (S site) in
/-- A phone takes an input. -/
def take (i : ι) (phone : Phone) : Input → Phone
  | .event e => step S site i phone e
  | .message env msg sockaddr =>
    phone.follow (phone.client.receiveMsg S (site i).random env sockaddr msg) false

omit [DecidableEq ι] in
/-- An input that fits into a datagram is an event. -/
lemma step_toEvent {input : Input} (short : input.Short) (i : ι) (phone : Phone) :
    step S site i phone input.toEvent = take S site i phone input := by
  cases input with
  | event e => rfl
  | message env msg sockaddr =>
    exact congrArg (phone.follow · false) (DhtClient.step_message S _ _ env short sockaddr)

/-- The schedule of inputs. -/
def schedule {ι : Type} (inputs : List (ι × Input)) : List (ι × Phone.Event) :=
  inputs.map fun e => (e.1, e.2.toEvent)

variable {inputs : List (ι × Input)}

theorem run_schedule (short : ∀ e ∈ inputs, e.2.Short) :
    run S site (schedule inputs) = Parties.run (take S site) (new S site) inputs :=
  Parties.run_translate Input.toEvent inputs fun e mem i phone => step_toEvent (short e mem) i phone

theorem relaying_schedule (short : ∀ e ∈ inputs, e.2.Short) : Relaying S site (schedule inputs) ↔
    Parties.Throughout (take S site)
      (fun phones i e => ∀ msg ∈ e.msg (site i).wordSize, Network.Relayed (clients phones) msg)
      (new S site) inputs := by
  refine Parties.throughout_translate Input.toEvent inputs
    (fun e mem i phone => step_toEvent (short e mem) i phone) fun e mem phones i => ?_
  have msg : e.2.toEvent.msg (site i).wordSize = e.2.msg (site i).wordSize := by
    obtain ⟨j, input⟩ := e
    cases input with
    | event e => rfl
    | message env msg sockaddr => exact Event.msg_message _ (short _ mem) sockaddr
  rw [msg]

/-! ## A call -/

/-- The first phone calls the second one, and all messages of the handshake arrive. -/
def ringing : List (Bool × Input) :=
  let peer : GSocketAddress := ⟨.ipv4 fun _ => 7, 5004⟩
  let env : Env := ⟨0, 0, false⟩
  let id := DhtId.fromPubkey Sodium.transparent (Network.byteKey 2)
  [(false, .message env (.lookupReq id id) peer),
    (false, .event (.app env (.start (some id)))),
    (true, .message env (.connectionReq (Network.byteKey 1) (Network.byteKey 10)) peer),
    (false, .message env (.connectionRes1 (Network.byteKey 2) (Network.byteKey 20) (Network.byteKey 10)
      (DhtKey.derive Sodium.transparent (Network.byteKey 3) (Network.byteKey 20)
        (Network.byteKey 10)).2) peer),
    (true, .message env (.connectionRes2 (Network.byteKey 20)
      (DhtKey.derive Sodium.transparent (Network.byteKey 3) (Network.byteKey 10)
        (Network.byteKey 20)).2) peer)]

lemma ringing_short : ∀ e ∈ ringing, e.2.Short := by
  simp +decide [ringing, Input.Short, Msg.bytes_length]

lemma ringing_relaying : Relaying Sodium.transparent Network.pair (schedule ringing) := by
  rw [relaying_schedule ringing_short]
  decide +kernel

lemma ringing_fresh :
    Network.Fresh Network.pair (clients (run Sodium.transparent Network.pair (schedule ringing))) := by
  rw [run_schedule ringing_short, Network.fresh_iff]
  decide +kernel

/-- The secret is the same at both ends. -/
lemma pair_symmetric : ∀ i j, Network.secret Sodium.transparent Network.pair i j =
    Network.secret Sodium.transparent Network.pair j i := by
  decide +kernel

/-- The second phone rings, and its session is with the first one. -/
theorem peers_run_ringing :
    ∃ session ∈ (run Sodium.transparent Network.pair (schedule ringing) true).app.sessions,
      ∃ k ∈ (run Sodium.transparent Network.pair (schedule ringing) true).client.deliveries,
      k.decKey = some session.src.key ∧ ∃ i ≠ true,
        k.id = (run Sodium.transparent Network.pair (schedule ringing) i).client.id := by
  have rings : (run Sodium.transparent Network.pair (schedule ringing) true).app.sessions ≠ [] := by
    rw [run_schedule ringing_short]
    exact List.ne_nil_of_length_pos (by decide +kernel)
  obtain ⟨session, mem⟩ := List.exists_mem_of_ne_nil _ rings
  obtain ⟨k, handed, -, key, i, ne, id, -⟩ :=
    peers_run ringing_relaying ringing_fresh pair_symmetric true session mem
  exact ⟨session, mem, k, handed, key, i, ne, id⟩

end Phones

end Nanotalk
