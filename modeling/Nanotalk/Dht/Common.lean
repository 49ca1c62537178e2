import Nanotalk.Lib.Bytes
import Mathlib.Tactic.DeriveFintype
import Mathlib.Data.List.Lex

/-!
# Keys, identifiers, addresses and primitives

Model of `src/dht-common.h` and `src/dht-common.c`: the three byte-array structures, the address
codec, and the key-agreement and stream functions. What these functions call in libsodium is not
part of the sources; it is the structure `Sodium`, a parameter of everything that follows, and
nothing about it is assumed here.

C functions appear under their own words, the structure they work on being the namespace:
`dht_id_xor` is `DhtId.xor`, `dht_key_make_shared` is `DhtKey.makeShared`.
-/

namespace Nanotalk
open Glib

/-- C `DHT_KEY_SIZE`. -/
abbrev DHT_KEY_SIZE : Nat := 32

/-- C `DHT_ID_SIZE`. -/
abbrev DHT_ID_SIZE : Nat := 20

/-- C `DHT_ADDRESS_SIZE`: port and IPv4 address. -/
abbrev DHT_ADDRESS_SIZE : Nat := 2 + 4

/-- C `struct _DhtKey`. -/
@[ext] structure DhtKey where
  data : Bytes DHT_KEY_SIZE

/-- C `struct _DhtId`. -/
@[ext] structure DhtId where
  data : Bytes DHT_ID_SIZE

/-- C `struct _DhtAddress`. -/
@[ext] structure DhtAddress where
  data : Bytes DHT_ADDRESS_SIZE

/-- C `dht_key_equal`. -/
instance : DecidableEq DhtKey := fun a b => decidable_of_iff (a.data = b.data) DhtKey.ext_iff.symm

/-- C `dht_id_equal`. -/
instance : DecidableEq DhtId := fun a b => decidable_of_iff (a.data = b.data) DhtId.ext_iff.symm

/-- C `dht_address_equal`. -/
instance : DecidableEq DhtAddress := fun a b =>
  decidable_of_iff (a.data = b.data) DhtAddress.ext_iff.symm

/-- GIO's `GInetAddress` in its two families. -/
inductive GInetAddress where
  | ipv4 (bytes : Bytes 4)
  | ipv6 (bytes : Bytes 16)
  deriving DecidableEq

/-- GIO's `GInetSocketAddress`. -/
structure GSocketAddress where
  address : GInetAddress
  port : UInt16
  deriving DecidableEq

/-- The libsodium functions called by `dht-common.c`.

    * `scalarmultBase`, `scalarmult`: `crypto_scalarmult_curve25519_base` and
      `crypto_scalarmult_curve25519`, the latter `none` where it returns `-1`;
    * `blake2b n key input`: `crypto_generichash_blake2b` with an output of `n` bytes;
    * `chacha20 key nonce i`: byte `i` of the `crypto_stream_chacha20_ietf` key stream, 64 bytes
      for each value of the block counter;
    * `poly1305 key data`: `crypto_onetimeauth_poly1305`. -/
structure Sodium where
  scalarmultBase : Bytes 32 → Bytes 32
  scalarmult : Bytes 32 → Bytes 32 → Option (Bytes 32)
  blake2b : (n : Nat) → List UInt8 → List UInt8 → Bytes n
  chacha20 : Bytes 32 → Bytes 12 → Nat → UInt8
  poly1305 : Bytes 32 → List UInt8 → Bytes 16

/-- A transparent instance, for examples: keys are their own public keys, the hash keeps the first
    byte of every 32, and key stream and tag repeat the nonce. -/
def Sodium.transparent : Sodium where
  scalarmultBase k := k
  scalarmult a b := some (a.xor b)
  blake2b _ key input := fun i => (key ++ input).getD (32 * (i.val % 32)) 0
  chacha20 _ nonce i := nonce.get i
  poly1305 key _ := key.slice 0 16

namespace DhtKey

variable (S : Sodium)

/-- C `dht_key_make_public`. -/
def makePublic (privkey : DhtKey) : DhtKey := ⟨S.scalarmultBase privkey.data⟩

/-- C `dht_key_make_shared`, `none` where it returns `FALSE`. -/
def makeShared (privkey pubkey : DhtKey) : Option DhtKey :=
  (S.scalarmult privkey.data pubkey.data).map DhtKey.mk

/-- C `dht_key_derive`: the key and the authentication tag. -/
def derive (shared txNonce rxNonce : DhtKey) : DhtKey × DhtKey :=
  let result := S.blake2b (2 * DHT_KEY_SIZE) shared.data.toList
    (txNonce.data.toList ++ rxNonce.data.toList)
  (⟨result.slice 0 DHT_KEY_SIZE⟩, ⟨result.slice DHT_KEY_SIZE DHT_KEY_SIZE⟩)

end DhtKey

namespace DhtId

/-- C `dht_id_from_pubkey`. -/
def fromPubkey (S : Sodium) (pubkey : DhtKey) : DhtId :=
  ⟨S.blake2b DHT_ID_SIZE [] pubkey.data.toList⟩

/-- C `dht_id_xor`. -/
def xor (a b : DhtId) : DhtId := ⟨a.data.xor b.data⟩

/-- C `data[n / 8] & (0x80 >> n % 8)`. -/
abbrev bit (a : DhtId) (n : Nat) : Bool := a.data.bit n

/-- `a` comes before `b` for C `dht_id_compare`, a `memcmp`. -/
instance : LT DhtId := ⟨fun a b => a.data.toList < b.data.toList⟩

instance : DecidableLT DhtId := fun a b =>
  inferInstanceAs (Decidable (a.data.toList < b.data.toList))

/-- No id is less than itself. -/
lemma lt_irrefl (a : DhtId) : ¬ a < a := List.lt_irrefl a.data.toList

/-- The order of ids is asymmetric. -/
lemma not_lt_of_lt {a b : DhtId} (h : a < b) : ¬ b < a := fun k => List.lt_asymm h k

/-- The order of ids is transitive, and total. -/
lemma lt_of_not_lt_of_lt {a b c : DhtId} (h : ¬ b < a) (k : b < c) : a < c := by
  have h : a.data.toList ≤ b.data.toList := List.not_lt.mp h
  exact List.lt_of_le_of_lt h k

/-- The bits of a distance. -/
@[simp] lemma bit_xor (a b : DhtId) (n : Nat) : (a.xor b).bit n = (a.bit n ^^ b.bit n) :=
  Bytes.bit_xor a.data b.data n

/-- The distance is symmetric. -/
lemma xor_comm (a b : DhtId) : a.xor b = b.xor a :=
  congrArg DhtId.mk (funext fun _ => UInt8.xor_comm _ _)

end DhtId

namespace DhtAddress

/-- C `dht_address_serialize`: the port, then the first four bytes of the host address. -/
def serialize (sockaddr : GSocketAddress) : DhtAddress :=
  let bytes : Nat → UInt8 := match sockaddr.address with
    | .ipv4 b => b.get
    | .ipv6 b => b.get
  ⟨fun i =>
    if i.val = 0 then (sockaddr.port >>> 8).toUInt8
    else if i.val = 1 then (sockaddr.port &&& 0xFF).toUInt8
    else bytes (i.val - 2)⟩

/-- C `dht_address_deserialize`. -/
def deserialize (addr : DhtAddress) : GSocketAddress where
  address := .ipv4 (addr.data.slice 2 4)
  port := (addr.data.get 0).toUInt16 <<< 8 ||| (addr.data.get 1).toUInt16

/-- Different addresses are deserialized to different ones. -/
lemma deserialize_injective : Function.Injective deserialize := by
  intro a b e
  have address : a.data.slice 2 4 = b.data.slice 2 4 :=
    GInetAddress.ipv4.inj (congrArg GSocketAddress.address e)
  have port := congrArg (fun s : GSocketAddress => s.port.toNat) e
  dsimp only [deserialize] at port
  rw [Bytes.be16_toNat, Bytes.be16_toNat] at port
  have low := (a.data.get 1).toNat_lt
  have low' := (b.data.get 1).toNat_lt
  have first : a.data.get 0 = b.data.get 0 := UInt8.toNat_inj.mp (by omega)
  have second : a.data.get 1 = b.data.get 1 := UInt8.toNat_inj.mp (by omega)
  ext1
  funext i
  match i with
  | 0 => exact first
  | 1 => exact second
  | 2 => exact congrFun address 0
  | 3 => exact congrFun address 1
  | 4 => exact congrFun address 2
  | 5 => exact congrFun address 3

end DhtAddress

/-! ## Stream functions -/

section Stream

variable (S : Sodium)

/-- C `dht_stream_xor`: the key stream from block counter 1 on. -/
def dhtStreamXor (input : List UInt8) (nonce : Bytes 12) (key : DhtKey) : List UInt8 :=
  input.mapIdx fun i b => b ^^^ S.chacha20 key.data nonce (64 + i)

/-- C `dht_stream_auth`: the one-time key is the key stream of block counter 0. -/
def dhtStreamAuth (data : List UInt8) (nonce : Bytes 12) (key : DhtKey) : Bytes 16 :=
  S.poly1305 (fun i => S.chacha20 key.data nonce i) data

/-- C `dht_stream_verify`. -/
def dhtStreamVerify (mac : Bytes 16) (data : List UInt8) (nonce : Bytes 12) (key : DhtKey) : Bool :=
  mac = dhtStreamAuth S data nonce key

/-- Encryption keeps the length. -/
@[simp] lemma dhtStreamXor_length (input : List UInt8) (nonce : Bytes 12) (key : DhtKey) :
    (dhtStreamXor S input nonce key).length = input.length := by
  simp [dhtStreamXor]

/-- Decryption is encryption. -/
@[simp] lemma dhtStreamXor_xor (input : List UInt8) (nonce : Bytes 12) (key : DhtKey) :
    dhtStreamXor S (dhtStreamXor S input nonce key) nonce key = input := by
  apply List.ext_getElem (by simp)
  intro i _ _
  simp only [dhtStreamXor, List.getElem_mapIdx]
  rw [UInt8.xor_assoc, UInt8.xor_self, UInt8.xor_zero]

end Stream

end Nanotalk
