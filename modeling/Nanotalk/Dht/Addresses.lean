import Nanotalk.Dht.Search

/-!
# Addresses on the wire

C `dht_client_bootstrap` takes every `GInetSocketAddress`, and C `dht_address_serialize` keeps four
bytes of its host. What is left of an IPv6 address denotes another host (`survives_iff`), and the
request of the lookup goes there.
-/

namespace Nanotalk
open Glib
open DhtClient (Env)

/-- `g_socket_address_get_family` is `DHT_ADDRESS_FAMILY`. -/
def GSocketAddress.IsIpv4 (sockaddr : GSocketAddress) : Prop := ∃ bytes, sockaddr.address = .ipv4 bytes

namespace DhtAddress

lemma serialize_port (sockaddr : GSocketAddress) :
    (serialize sockaddr).deserialize.port = sockaddr.port := by
  have lt := sockaddr.port.toNat_lt
  apply UInt16.toNat_inj.mp
  show (((serialize sockaddr).data.get 0).toUInt16 <<< 8 |||
    ((serialize sockaddr).data.get 1).toUInt16).toNat = _
  rw [Bytes.be16_toNat]
  show (sockaddr.port >>> 8).toUInt8.toNat * 2 ^ 8 + (sockaddr.port &&& 0xFF).toUInt8.toNat = _
  have high : (sockaddr.port >>> 8).toNat = sockaddr.port.toNat / 2 ^ 8 := by
    rw [UInt16.toNat_shiftRight, Nat.shiftRight_eq_div_pow]
    rfl
  have low : (sockaddr.port &&& 0xFF).toNat = sockaddr.port.toNat % 2 ^ 8 := by
    rw [UInt16.toNat_and]
    exact Nat.and_two_pow_sub_one_eq_mod _ 8
  rw [UInt16.toNat_toUInt8, UInt16.toNat_toUInt8, high, low]
  omega

/-- What comes back of an address is an IPv4 address. -/
theorem deserialize_serialize_iff (sockaddr : GSocketAddress) :
    (serialize sockaddr).deserialize = sockaddr ↔ sockaddr.IsIpv4 := by
  constructor
  · intro same
    exact ⟨_, congrArg GSocketAddress.address same.symm⟩
  · rintro ⟨bytes, e⟩
    obtain ⟨address, port⟩ := sockaddr
    have e : address = .ipv4 bytes := e
    subst e
    refine GSocketAddress.mk.injEq .. ▸ ⟨congrArg _ (funext fun i => ?_), serialize_port _⟩
    match i with
    | 0 => rfl
    | 1 => rfl
    | 2 => rfl
    | 3 => rfl

/-- Distinct IPv4 addresses stay so. -/
lemma serialize_inj {a b : GSocketAddress} (v4 : a.IsIpv4) (v4' : b.IsIpv4)
    (e : serialize a = serialize b) : a = b := by
  rw [← (deserialize_serialize_iff a).mpr v4, e, (deserialize_serialize_iff b).mpr v4']

end DhtAddress

namespace DhtClient

/-- The first node of a lookup is asked. -/
lemma log_bootstrap {c : DhtClient} (random : Nat → DhtKey) (free : c.lookupTable c.id = none)
    (ne : c.id ≠ ⟨fun _ => 0⟩) (address : GSocketAddress) :
    let node : MsgNode := ⟨⟨fun _ => 0⟩, .serialize address⟩
    let query := (DhtLookup.new c.id []).newQuery node
    (c.bootstrap random address).log =
      .sendTo 0 (some node.addr.deserialize) (.lookupReq c.id c.id) ::
        .request c.id query [query] :: .offered c.id [node] :: .lookupNew c.id :: c.log := by
  intro node query
  have inserted : c.bootstrap random address =
      ((((c.act (.lookupNew c.id)).putLookup (.new c.id [])).act (.offered c.id [node])).putLookup
        ((DhtLookup.new c.id []).insertQuery node)).lookupDispatch
          ((DhtLookup.new c.id []).insertQuery node) := by
    unfold bootstrap
    rw [free]
    exact (if_neg ne.symm).trans (if_neg ne.symm)
  rw [inserted]
  rfl

/-- The request goes to what is left of the address. -/
lemma sends_bootstrap {c : DhtClient} (random : Nat → DhtKey) (free : c.lookupTable c.id = none)
    (ne : c.id ≠ ⟨fun _ => 0⟩) (address : GSocketAddress) :
    sends (life c.id (c.bootstrap random address).log) =
      [some (DhtAddress.serialize address).deserialize] := by
  rw [log_bootstrap random free ne]
  simp [life, Action.subject, sends, Action.dest]

/-- What an address should go through: it comes back as it was, the requests to its query go there,
    and so does the first request of a lookup that it bootstraps. -/
structure Survives (c : DhtClient) (random : Nat → DhtKey) (address : GSocketAddress) : Prop where
  same : (DhtAddress.serialize address).deserialize = address
  asked : ∀ (id : DhtId) (i : Nat) (q : DhtQuery), (Nanotalk.requests (life id c.log))[i]? = some q →
    q.addr = .serialize address →
    (sends (life id c.log))[i]? = some (some address)
  bootstrap : c.lookupTable c.id = none → c.id ≠ ⟨fun _ => 0⟩ →
    sends (life c.id (c.bootstrap random address).log) = [some address]

variable (S : Sodium) (w : WordSize) (random : Nat → DhtKey) (key : DhtKey)
  (events : List (Env × Event))

/-- An IPv4 address survives. -/
lemma survives_of_ipv4 {address : GSocketAddress} (v4 : address.IsIpv4) :
    (run S w random key events).Survives random address where
  same := (DhtAddress.deserialize_serialize_iff address).mpr v4
  asked id i q here addr := by
    have same : life id ((run S w random key events).log.filter _) = _ := life_filter _
    have A : Asked _ (life id (run S w random key events).log) :=
      same ▸ (run_searched S w random key events).asked id
    rw [A.sends, List.getElem?_map, here, Option.map_some, addr,
      (DhtAddress.deserialize_serialize_iff address).mpr v4]
  bootstrap free ne := by
    rw [sends_bootstrap random free ne, (DhtAddress.deserialize_serialize_iff address).mpr v4]

/-- Two addresses that bootstrap a client, in whatever state it is, survive and are kept apart if and
    only if both are IPv4 addresses. -/
theorem survives_iff (a b : GSocketAddress) :
    ((run S w random key events).Survives random a ∧ (run S w random key events).Survives random b ∧
      (a ≠ b → DhtAddress.serialize a ≠ .serialize b)) ↔ a.IsIpv4 ∧ b.IsIpv4 := by
  constructor
  · rintro ⟨sa, sb, -⟩
    exact ⟨(DhtAddress.deserialize_serialize_iff a).mp sa.same,
      (DhtAddress.deserialize_serialize_iff b).mp sb.same⟩
  · rintro ⟨v4, v4'⟩
    refine ⟨survives_of_ipv4 S w random key events v4, survives_of_ipv4 S w random key events v4', ?_⟩
    exact fun ne same => ne (DhtAddress.serialize_inj v4 v4' same)

/-- Two IPv6 hosts of one network. -/
def ipv6Host (n : UInt8) : GSocketAddress :=
  ⟨.ipv6 fun i => [0x20, 0x01, 0x0d, 0xb8, 0, 0, 0, 0, 0, 0, 0, 0, 0, 0, 0, n].getD i 0, 5004⟩

/-- Both are taken for the same IPv4 host, to which a client that starts with one of them sends its
    request. -/
theorem survives_ipv6_fails :
    let key : DhtKey := ⟨fun i => if i.val = 0 then 1 else 0⟩
    let c := run Sodium.transparent .w64 (fun _ => key) key
      [(⟨0, 0, false⟩, .bootstrap (ipv6Host 1))]
    ipv6Host 1 ≠ ipv6Host 2 ∧
    DhtAddress.serialize (ipv6Host 1) = .serialize (ipv6Host 2) ∧
    (DhtAddress.serialize (ipv6Host 1)).deserialize ≠ ipv6Host 1 ∧
    sends (life c.id c.log) =
      [some ⟨.ipv4 fun i => [0x20, 0x01, 0x0d, 0xb8].getD i 0, 5004⟩] := by
  intro key c
  refine ⟨?_, by decide +kernel, ?_, ?_⟩
  · intro e
    have last := congrFun (GInetAddress.ipv6.inj (congrArg GSocketAddress.address e)) 15
    exact absurd last (by decide)
  · intro e
    cases congrArg GSocketAddress.address e
  · have id : c.id ≠ ⟨fun _ => 0⟩ := by decide +kernel
    have asked := sends_bootstrap (c := new Sodium.transparent key) (fun _ => key) rfl id (ipv6Host 1)
    have left : (DhtAddress.serialize (ipv6Host 1)).deserialize =
        ⟨.ipv4 fun i => [0x20, 0x01, 0x0d, 0xb8].getD i 0, 5004⟩ := by
      have bytes : (DhtAddress.serialize (ipv6Host 1)).data.slice 2 4 =
          (fun i => [0x20, 0x01, 0x0d, 0xb8].getD i.val 0 : Bytes 4) := by decide +kernel
      rw [GSocketAddress.mk.injEq]
      exact ⟨congrArg GInetAddress.ipv4 bytes, DhtAddress.serialize_port _⟩
    rw [left] at asked
    exact asked

end DhtClient

end Nanotalk
