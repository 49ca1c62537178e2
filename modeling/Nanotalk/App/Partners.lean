import Nanotalk.App.Phone

/-!
# With whom a phone is connected

The sessions of an application are the connections that its client handed out (`sessions_run`): a node
that the user called, or one that requested the connection, and in either case one that confirmed it.
-/

namespace Nanotalk
namespace Phone

open DhtClient (Env)

variable (S : Sodium) (w : WordSize) (random : Nat → DhtKey) (key : DhtKey) {events : List Event}

/-- A message arrived. -/
def Arrived (events : List Event) (sockaddr : GSocketAddress) (msg : Msg) : Prop :=
  ∃ env memory len enableVideo,
    .client env (.receive memory len sockaddr) enableVideo ∈ events ∧ Msg.read w memory len = some msg

variable {w} in
/-- A message that came to the client arrived at the phone. -/
lemma arrived_of_came {es : List (Env × Nanotalk.Event)} {sockaddr : GSocketAddress} {msg : Msg}
    (stems : ∀ e ∈ es, Stems events e) (came : DhtClient.Came w es sockaddr msg) :
    Arrived w events sockaddr msg := by
  obtain ⟨⟨env, e⟩, mem, memory, len, rfl, read⟩ := came
  obtain ⟨enableVideo, here⟩ := stems _ mem
  exact ⟨env, memory, len, enableVideo, here, read⟩

/-- A lookup that the client was asked for was a call of the phone. -/
lemma called_of_asked {es : List (Env × Nanotalk.Event)} {r : Nat} {id : DhtId}
    (stems : ∀ e ∈ es, Stems events e) (asked : DhtClient.Asked es r id) : Called events id := by
  obtain ⟨⟨env, e⟩, mem, asks⟩ := List.mem_filterMap.mp (List.mem_of_getElem? asked)
  cases e with
  | lookupAsync id' =>
    obtain rfl : id' = id := Option.some.inj asks
    exact stems _ mem
  | _ => cases asks

/-- A connection that completed a call is with the node that the user called, which confirmed it. -/
lemma completed_run {events : List Event} {r : Nat} {k : DhtConnection}
    (completed : .complete r k ∈ (run S w random key events).client.log) :
    ∃ s, DhtClient.Belongs S (DhtClient.new S key).id key k s ∧ Called events k.id ∧
      ∃ sockaddr, Arrived w events sockaddr (.connectionRes1 s.pubkey s.peerNonce s.nonce
        (DhtKey.derive S s.shared s.peerNonce s.nonce).2) := by
  obtain ⟨es, same, stems⟩ := (sound_run S w random key events).client
  rw [same] at completed
  obtain ⟨asked, -, s, sockaddr, B, came⟩ := DhtClient.log_fair S w random key es _ completed
  exact ⟨s, B, called_of_asked stems asked, sockaddr, arrived_of_came stems came⟩

/-- A new connection was requested by its peer, and confirmed. -/
lemma signalled_run {events : List Event} {k : DhtConnection}
    (signalled : .newConnection k ∈ (run S w random key events).client.log) :
    ∃ s, DhtClient.Belongs S (DhtClient.new S key).id key k s ∧
      (∃ asker, Arrived w events asker (.connectionReq s.pubkey s.peerNonce)) ∧
      ∃ sockaddr, Arrived w events sockaddr (.connectionRes2 s.nonce
        (DhtKey.derive S s.shared s.peerNonce s.nonce).2) := by
  obtain ⟨es, same, stems⟩ := (sound_run S w random key events).client
  rw [same] at signalled
  obtain ⟨s, asker, sockaddr, B, asked, confirmed⟩ :=
    DhtClient.log_fair S w random key es _ signalled
  exact ⟨s, B, ⟨asker, arrived_of_came stems asked⟩, sockaddr, arrived_of_came stems confirmed⟩

/-- A connection that was handed out completed a call or was signalled. -/
lemma delivered {c : DhtClient} {k : DhtConnection} (mem : k ∈ c.deliveries) :
    (∃ r, .complete r k ∈ c.log) ∨ .newConnection k ∈ c.log := by
  obtain ⟨action, here, delivers⟩ := List.mem_filterMap.mp mem
  cases action with
  | complete r k' =>
    obtain rfl : k' = k := Option.some.inj delivers
    exact .inl ⟨r, here⟩
  | newConnection k' =>
    obtain rfl : k' = k := Option.some.inj delivers
    exact .inr here
  | _ => cases delivers

/-- The connections that were handed out, in order. -/
lemma deliveries_handed (c : DhtClient) :
    c.deliveries.reverse = (c.log.reverse.filterMap Action.handed).map Prod.fst := by
  rw [DhtClient.deliveries, ← List.filterMap_reverse, List.map_filterMap]
  congr 1
  funext action
  cases action <;> rfl

/-- The keys of a connection that was handed out were written. -/
lemma handed_keys {events : List Event} {k : DhtConnection}
    (mem : k ∈ (run S w random key events).client.deliveries) :
    k.encKey = some k.encrypts ∧ k.decKey = some k.decrypts := by
  have keyed : ∃ s, DhtClient.Belongs S (DhtClient.new S key).id key k s := by
    rcases delivered mem with ⟨r, completed⟩ | signalled
    · obtain ⟨s, B, -⟩ := completed_run S w random key completed
      exact ⟨s, B⟩
    · obtain ⟨s, B, -⟩ := signalled_run S w random key signalled
      exact ⟨s, B⟩
  obtain ⟨s, B⟩ := keyed
  rw [DhtConnection.encrypts, DhtConnection.decrypts, B.keyed.encKey, B.keyed.decKey]
  exact ⟨rfl, rfl⟩

/-- The keys of the sessions are those of the connections. -/
lemma sessions_keys (events : List Event) :
    (run S w random key events).app.sessions.map
        (fun session => (fun m => some (session.sinks m).key, some session.src.key)) =
      (run S w random key events).client.deliveries.reverse.map fun k => (fun _ => k.encKey, k.decKey) := by
  let keys (o : Origin) : (Medium → Option DhtKey) × Option DhtKey :=
    (fun m => some (o.encKey m), some o.decKey)
  have origins := congrArg (List.map keys) (sound_run S w random key events).origins
  rw [Application.origins, List.map_map, List.map_map] at origins
  rw [deliveries_handed, List.map_map]
  refine origins.trans (List.map_congr_left fun handed mem => ?_)
  have delivered : handed.1 ∈ (run S w random key events).client.deliveries := by
    rw [← List.mem_reverse, deliveries_handed]
    exact List.mem_map_of_mem mem
  obtain ⟨enc, dec⟩ := handed_keys S w random key delivered
  rw [Function.comp_apply, Function.comp_apply, enc, dec]
  rfl

/-- The sessions of the application are the connections that its client handed out, one for each and in
    their order, with their keys; the other side of each is a node that the user called and that
    confirmed the connection, or one that requested the connection and confirmed it. -/
theorem sessions_run (events : List Event) :
    let phone := run S w random key events
    phone.app.sessions.map
        (fun session => (fun m => some (session.sinks m).key, some session.src.key)) =
      phone.client.deliveries.reverse.map (fun k => (fun _ => k.encKey, k.decKey)) ∧
    ∀ k ∈ phone.client.deliveries, ∃ s, DhtClient.Belongs S (DhtClient.new S key).id key k s ∧
      (Called events k.id ∧ (∃ sockaddr, Arrived w events sockaddr (.connectionRes1 s.pubkey s.peerNonce
          s.nonce (DhtKey.derive S s.shared s.peerNonce s.nonce).2)) ∨
        (∃ asker, Arrived w events asker (.connectionReq s.pubkey s.peerNonce)) ∧
        ∃ sockaddr, Arrived w events sockaddr (.connectionRes2 s.nonce
          (DhtKey.derive S s.shared s.peerNonce s.nonce).2)) := by
  refine ⟨sessions_keys S w random key events, fun k mem => ?_⟩
  rcases delivered mem with ⟨r, completed⟩ | signalled
  · obtain ⟨s, B, made⟩ := completed_run S w random key completed
    exact ⟨s, B, .inl made⟩
  · obtain ⟨s, B, requested⟩ := signalled_run S w random key signalled
    exact ⟨s, B, .inr requested⟩

end Phone

end Nanotalk
