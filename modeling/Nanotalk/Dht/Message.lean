import Nanotalk.Dht.Table

/-!
# Messages

The datagrams of `src/dht-client.c`: the packed structures `_msg_lookup` and `_msg_connection1` to
`_msg_connection3`, how `dht_client_receive_cb` recognises them in the receive buffer, and how they
lie on the wire.

The receive buffer is the memory from `buffer[0]` on, without an end: `Msg.read` reads where the
sources read, whether or not the datagram reaches that far. The arithmetic on the received length is
that of C on a platform with `WordSize.bits` bits in a `gsize`.

* `read_eq_some_iff`: the messages recognised in a datagram are those that lie in memory and whose
  size passes the check of the length.
* `read_bytes`: a message is recognised in its own bytes.
* `read_length`: no message is longer than its datagram, one length on 32-bit platforms apart.
-/

namespace Nanotalk
open Glib

/-- Size of C `gsize` and `gssize`. -/
inductive WordSize where
  | w32
  | w64
  deriving DecidableEq

/-- Number of bits. -/
def WordSize.bits : WordSize → Nat
  | w32 => 32
  | w64 => 64

/-- C `MSG_MTU`: message buffer size. -/
abbrev MSG_MTU : Nat := 1500

/-- C `MSG_LOOKUP_REQ`. -/
abbrev MSG_LOOKUP_REQ : UInt8 := 0xC0

/-- C `MSG_LOOKUP_RES`. -/
abbrev MSG_LOOKUP_RES : UInt8 := 0xC1

/-- C `MSG_CONNECTION_REQ`. -/
abbrev MSG_CONNECTION_REQ : UInt8 := 0xC2

/-- C `MSG_CONNECTION_RES`. -/
abbrev MSG_CONNECTION_RES : UInt8 := 0xC3

/-- C `sizeof(MsgNode)`. -/
abbrev sizeofMsgNode : Nat := DHT_ID_SIZE + DHT_ADDRESS_SIZE

/-- C `sizeof(MsgLookup)`: the nodes are not counted. -/
abbrev sizeofMsgLookup : Nat := 1 + 2 * DHT_ID_SIZE

/-- C `sizeof(MsgConnection1)`. -/
abbrev sizeofMsgConnection1 : Nat := 1 + 2 * DHT_KEY_SIZE

/-- C `sizeof(MsgConnection2)`. -/
abbrev sizeofMsgConnection2 : Nat := 1 + 4 * DHT_KEY_SIZE

/-- C `sizeof(MsgConnection3)`. -/
abbrev sizeofMsgConnection3 : Nat := 1 + 2 * DHT_KEY_SIZE

/-- A message. The two structures under `MSG_CONNECTION_RES` are told apart by their length. -/
inductive Msg where
  /-- `_msg_lookup` under `MSG_LOOKUP_REQ` -/
  | lookupReq (srcid dstid : DhtId)
  /-- `_msg_lookup` under `MSG_LOOKUP_RES` -/
  | lookupRes (srcid dstid : DhtId) (nodes : List MsgNode)
  /-- `_msg_connection1` -/
  | connectionReq (pubkey nonce : DhtKey)
  /-- `_msg_connection2` -/
  | connectionRes1 (pubkey nonce peerNonce authTag : DhtKey)
  /-- `_msg_connection3` -/
  | connectionRes2 (peerNonce authTag : DhtKey)
  deriving DecidableEq

/-- The bytes of C `struct _msg_node`. -/
def MsgNode.bytes (node : MsgNode) : List UInt8 := node.id.data.toList ++ node.addr.data.toList

/-- C `struct _msg_node` at address `o`. -/
def MsgNode.read (memory : Nat → UInt8) (o : Nat) : MsgNode where
  id := ⟨Bytes.read memory o DHT_ID_SIZE⟩
  addr := ⟨Bytes.read memory (o + DHT_ID_SIZE) DHT_ADDRESS_SIZE⟩

@[simp] lemma MsgNode.bytes_length (node : MsgNode) : node.bytes.length = sizeofMsgNode := by
  simp [MsgNode.bytes]

/-- Memory holds exactly the nodes read from it. -/
lemma holds_nodes {memory : Nat → UInt8} {o : Nat} {nodes : List MsgNode} :
    Holds memory o (nodes.flatMap MsgNode.bytes) ↔
      (List.range nodes.length).map (fun i => MsgNode.read memory (o + sizeofMsgNode * i)) =
        nodes := by
  induction nodes generalizing o with
  | nil => simp
  | cons node nodes ih =>
    have shift : ∀ i, o + sizeofMsgNode * (i + 1) = o + sizeofMsgNode + sizeofMsgNode * i := by
      intro i
      rw [Nat.mul_add, Nat.mul_one]
      omega
    have head : Holds memory o node.bytes ↔ MsgNode.read memory o = node := by
      cases node with
      | mk id addr =>
        simp only [MsgNode.bytes, holds_append, holds_toList, Bytes.toList_length, MsgNode.read,
          MsgNode.mk.injEq, DhtId.ext_iff, DhtAddress.ext_iff]
    rw [List.flatMap_cons, holds_append, head, MsgNode.bytes_length, ih, List.length_cons,
      List.range_succ_eq_map, List.map_cons, List.map_map, List.cons.injEq]
    simp only [Function.comp_def, Nat.succ_eq_add_one, shift, Nat.mul_zero, Nat.add_zero]

namespace Msg

/-- A message on the wire. -/
def bytes : Msg → List UInt8
  | lookupReq srcid dstid => MSG_LOOKUP_REQ :: (srcid.data.toList ++ dstid.data.toList)
  | lookupRes srcid dstid nodes =>
    MSG_LOOKUP_RES :: (srcid.data.toList ++ dstid.data.toList ++ nodes.flatMap MsgNode.bytes)
  | connectionReq pubkey nonce => MSG_CONNECTION_REQ :: (pubkey.data.toList ++ nonce.data.toList)
  | connectionRes1 pubkey nonce peerNonce authTag =>
    MSG_CONNECTION_RES :: (pubkey.data.toList ++ nonce.data.toList ++ peerNonce.data.toList ++
      authTag.data.toList)
  | connectionRes2 peerNonce authTag =>
    MSG_CONNECTION_RES :: (peerNonce.data.toList ++ authTag.data.toList)

/-- C `(len - sizeof(MsgLookup)) / sizeof(MsgNode)`: unsigned, then truncated to a `guint`. -/
def lookupCount (w : WordSize) (len : Nat) : Nat :=
  (len + (2 ^ w.bits - sizeofMsgLookup)) % 2 ^ w.bits / sizeofMsgNode % 2 ^ 32

/-- What `dht_client_receive_cb` takes for its message, in a buffer with `len` bytes received. -/
def read (w : WordSize) (memory : Nat → UInt8) (len : Nat) : Option Msg :=
  if len < 1 then none
  else if memory 0 = MSG_LOOKUP_REQ then
    if len ≠ sizeofMsgLookup then none
    else some (lookupReq ⟨Bytes.read memory 1 _⟩ ⟨Bytes.read memory (1 + DHT_ID_SIZE) _⟩)
  else if memory 0 = MSG_LOOKUP_RES then
    let count := lookupCount w len
    if len ≠ (sizeofMsgLookup + sizeofMsgNode * count) % 2 ^ w.bits then none
    else some (lookupRes ⟨Bytes.read memory 1 _⟩ ⟨Bytes.read memory (1 + DHT_ID_SIZE) _⟩
      ((List.range count).map fun i =>
        MsgNode.read memory (1 + DHT_ID_SIZE + DHT_ID_SIZE + sizeofMsgNode * i)))
  else if memory 0 = MSG_CONNECTION_REQ then
    if len ≠ sizeofMsgConnection1 then none
    else some (connectionReq ⟨Bytes.read memory 1 _⟩ ⟨Bytes.read memory (1 + DHT_KEY_SIZE) _⟩)
  else if memory 0 = MSG_CONNECTION_RES then
    if len = sizeofMsgConnection2 then
      some (connectionRes1 ⟨Bytes.read memory 1 _⟩ ⟨Bytes.read memory (1 + DHT_KEY_SIZE) _⟩
        ⟨Bytes.read memory (1 + DHT_KEY_SIZE + DHT_KEY_SIZE) _⟩
        ⟨Bytes.read memory (1 + DHT_KEY_SIZE + DHT_KEY_SIZE + DHT_KEY_SIZE) _⟩)
    else if len = sizeofMsgConnection3 then
      some (connectionRes2 ⟨Bytes.read memory 1 _⟩ ⟨Bytes.read memory (1 + DHT_KEY_SIZE) _⟩)
    else none
  else none

/-! ## What is recognised -/

/-- The size of a message passes the check of the received length. -/
def Fits (w : WordSize) (len : Nat) : Msg → Prop
  | lookupReq .. => len = sizeofMsgLookup
  | lookupRes _ _ nodes =>
    1 ≤ len ∧ nodes.length = lookupCount w len ∧
      len = (sizeofMsgLookup + sizeofMsgNode * lookupCount w len) % 2 ^ w.bits
  | connectionReq .. => len = sizeofMsgConnection1
  | connectionRes1 .. => len = sizeofMsgConnection2
  | connectionRes2 .. => len = sizeofMsgConnection3

variable {w : WordSize} {memory : Nat → UInt8} {len : Nat} {m : Msg}

/-- The messages recognised are those that lie in memory and whose size fits. -/
theorem read_eq_some_iff : read w memory len = some m ↔ Holds memory 0 m.bytes ∧ m.Fits w len := by
  constructor
  · intro e
    unfold read at e
    split at e
    · cases e
    · rename_i pos
      split at e
      · split at e <;> cases e
        rename_i type fit
        exact ⟨by simp [bytes, type], not_not.mp fit⟩
      split at e
      · dsimp only at e
        split at e <;> cases e
        rename_i type fit
        exact ⟨by simp [bytes, type, holds_nodes], Nat.not_lt.mp pos, by simp, not_not.mp fit⟩
      split at e
      · split at e <;> cases e
        rename_i type fit
        exact ⟨by simp [bytes, type], not_not.mp fit⟩
      split at e
      · rename_i type
        split at e
        · rename_i fit
          cases e
          refine ⟨?_, fit⟩
          simp [bytes, type]
        · split at e <;> cases e
          rename_i fit
          exact ⟨by simp [bytes, type], fit⟩
      · cases e
  · rintro ⟨holds, fits⟩
    cases m with
    | lookupReq srcid dstid =>
      simp [bytes, Fits] at holds fits
      simp +decide [read, holds, fits]
    | lookupRes srcid dstid nodes =>
      obtain ⟨pos, count, fit⟩ := fits
      simp [bytes, holds_nodes, count] at holds
      simp +decide [read, holds, ← fit, Nat.not_lt.mpr pos]
    | connectionReq pubkey nonce =>
      simp [bytes, Fits] at holds fits
      simp +decide [read, holds, fits]
    | connectionRes1 pubkey nonce peerNonce authTag =>
      simp [bytes, Fits] at holds fits
      simp +decide [read, holds, fits]
    | connectionRes2 peerNonce authTag =>
      simp [bytes, Fits] at holds fits
      simp +decide [read, holds, fits]

/-- The size of a message on the wire. -/
lemma bytes_length : m.bytes.length = match m with
    | lookupReq .. => sizeofMsgLookup
    | lookupRes _ _ nodes => sizeofMsgLookup + sizeofMsgNode * nodes.length
    | connectionReq .. => sizeofMsgConnection1
    | connectionRes1 .. => sizeofMsgConnection2
    | connectionRes2 .. => sizeofMsgConnection3 := by
  have nodes_length : ∀ nodes : List MsgNode,
      (nodes.flatMap MsgNode.bytes).length = sizeofMsgNode * nodes.length := by
    intro nodes
    simp [List.length_flatMap, Nat.mul_comm]
  cases m with
  | lookupRes _ _ nodes =>
    simp only [bytes, List.length_cons, List.length_append, Bytes.toList_length, nodes_length]
    exact Nat.add_right_comm (DHT_ID_SIZE + DHT_ID_SIZE) _ 1
  | _ => simp +decide [bytes]

/-- The unsigned difference of a length and the size of a `MsgLookup`. -/
lemma length_sub (short : len ≤ MSG_MTU) :
    (len + (2 ^ w.bits - sizeofMsgLookup)) % 2 ^ w.bits =
      if len < sizeofMsgLookup then len + (2 ^ w.bits - sizeofMsgLookup)
      else len - sizeofMsgLookup := by
  change len ≤ 1500 at short
  change (len + (2 ^ w.bits - 41)) % 2 ^ w.bits =
    if len < 41 then len + (2 ^ w.bits - 41) else len - 41
  have big : 1500 + 41 < 2 ^ w.bits := by cases w <;> decide
  generalize 2 ^ w.bits = n at big ⊢
  split
  · exact Nat.mod_eq_of_lt (by omega)
  · rw [show len + (n - 41) = len - 41 + n by omega, Nat.add_mod_right]
    exact Nat.mod_eq_of_lt (by omega)

/-- The lengths at which node counts are exact. -/
lemma lookupCount_exact (k : Nat) (short : sizeofMsgLookup + sizeofMsgNode * k ≤ MSG_MTU) :
    lookupCount w (sizeofMsgLookup + sizeofMsgNode * k) = k := by
  rw [lookupCount, length_sub short, if_neg (Nat.not_lt.mpr (Nat.le_add_right _ _)),
    Nat.add_sub_cancel_left, Nat.mul_div_cancel_left k (by decide)]
  change 41 + 26 * k ≤ 1500 at short
  exact Nat.mod_eq_of_lt (by omega)

/-- The check of the length of a `MSG_LOOKUP_RES`: on a 32-bit platform it lets a length pass that
    is shorter than the structure. -/
lemma lookupCount_check (short : len ≤ MSG_MTU) :
    len = (sizeofMsgLookup + sizeofMsgNode * lookupCount w len) % 2 ^ w.bits ↔
      (∃ k, len = sizeofMsgLookup + sizeofMsgNode * k) ∨ w = .w32 ∧ len = 19 := by
  constructor
  · intro e
    rw [lookupCount, length_sub short] at e
    change len ≤ 1500 at short
    change len = (41 + 26 * ((if len < 41 then len + (2 ^ w.bits - 41) else len - 41) / 26 % 2 ^ 32))
      % 2 ^ w.bits at e
    change (∃ k, len = 41 + 26 * k) ∨ _
    split at e
    · rename_i lt
      right
      cases w with
      | w32 =>
        -- one of the 41 lengths is congruent to `2 ^ 32 + len - 41`
        dsimp only [WordSize.bits] at e
        refine ⟨rfl, ?_⟩
        interval_cases len <;> simp at e
        rfl
      | w64 =>
        dsimp only [WordSize.bits] at e
        interval_cases len <;> simp at e
    · rename_i ge
      left
      have small : (len - 41) / 26 % 2 ^ 32 = (len - 41) / 26 := Nat.mod_eq_of_lt (by omega)
      have big : 1500 + 41 < 2 ^ w.bits := by cases w <;> decide
      rw [small, Nat.mod_eq_of_lt (by omega)] at e
      exact ⟨(len - 41) / 26, e⟩
  · rintro (⟨k, rfl⟩ | ⟨rfl, rfl⟩)
    · rw [lookupCount_exact k short, Nat.mod_eq_of_lt]
      apply Nat.lt_of_le_of_lt short
      cases w <;> decide
    · decide

/-- Every buffer with the type and length of a lookup request holds one. -/
lemma read_lookupReq (type : memory 0 = MSG_LOOKUP_REQ) :
    ∃ srcid dstid, read w memory sizeofMsgLookup = some (lookupReq srcid dstid) := by
  refine ⟨⟨Bytes.read memory 1 _⟩, ⟨Bytes.read memory (1 + DHT_ID_SIZE) _⟩, ?_⟩
  rw [read_eq_some_iff]
  exact ⟨by simp [bytes, type], rfl⟩

/-- Every buffer with the type of a lookup response, and a length that passes the check, holds one
    with the computed number of nodes. -/
lemma read_lookupRes (memory : Nat → UInt8) (type : memory 0 = MSG_LOOKUP_RES) (pos : 1 ≤ len)
    (fit : len = (sizeofMsgLookup + sizeofMsgNode * lookupCount w len) % 2 ^ w.bits) :
    ∃ srcid dstid nodes, nodes.length = lookupCount w len ∧
      read w memory len = some (lookupRes srcid dstid nodes) := by
  refine ⟨⟨Bytes.read memory 1 _⟩, ⟨Bytes.read memory (1 + DHT_ID_SIZE) _⟩,
    (List.range (lookupCount w len)).map fun i =>
      MsgNode.read memory (1 + DHT_ID_SIZE + DHT_ID_SIZE + sizeofMsgNode * i), by simp, ?_⟩
  rw [read_eq_some_iff]
  exact ⟨by simp [bytes, type, holds_nodes], pos, by simp, fit⟩

/-- A message that fits into the buffer is recognised in its own bytes. -/
theorem read_bytes (holds : Holds memory 0 m.bytes) (short : m.bytes.length ≤ MSG_MTU) :
    read w memory m.bytes.length = some m := by
  rw [read_eq_some_iff]
  refine ⟨holds, ?_⟩
  rw [bytes_length] at short ⊢
  cases m with
  | lookupRes _ _ nodes =>
    refine ⟨Nat.le_add_right_of_le (by decide), (lookupCount_exact _ short).symm, ?_⟩
    exact (lookupCount_check short).mpr (.inl ⟨_, rfl⟩)
  | _ => rfl

/-- A length that only the 32-bit check lets pass. -/
def Wraps (w : WordSize) (type : UInt8) (len : Nat) : Prop :=
  w = .w32 ∧ type = MSG_LOOKUP_RES ∧ len = 19

/-- The bytes of the message are the bytes received. -/
theorem read_length (e : read w memory len = some m) (short : len ≤ MSG_MTU)
    (nowrap : ¬ Wraps w (memory 0) len) : m.bytes.length = len := by
  obtain ⟨holds, fits⟩ := read_eq_some_iff.mp e
  rw [bytes_length]
  cases m with
  | lookupRes srcid dstid nodes =>
    obtain ⟨_, count, fit⟩ := fits
    have type : memory 0 = MSG_LOOKUP_RES := by
      simp only [bytes, holds_cons] at holds
      exact holds.1
    rcases (lookupCount_check short).mp fit with ⟨k, rfl⟩ | wrap
    · rw [lookupCount_exact k short] at count
      simp only [count]
    · exact absurd ⟨wrap.1, type, wrap.2⟩ nowrap
  | _ => exact fits.symm

/-- What is recognised depends on the bytes received only. -/
theorem read_congr {memory' : Nat → UInt8} (same : ∀ i < len, memory i = memory' i)
    (short : len ≤ MSG_MTU) (nowrap : ¬ Wraps w (memory 0) len) :
    read w memory len = read w memory' len := by
  have transfer : ∀ {memory memory' : Nat → UInt8}, (∀ i < len, memory i = memory' i) →
      ¬ Wraps w (memory 0) len → ∀ {m}, read w memory len = some m →
      read w memory' len = some m := by
    intro memory memory' same nowrap m e
    have length := read_length e short nowrap
    obtain ⟨holds, fits⟩ := read_eq_some_iff.mp e
    rw [read_eq_some_iff]
    refine ⟨fun i lt => ?_, fits⟩
    rw [← holds i lt, same _ (by omega)]
  cases e : read w memory len with
  | some m => exact (transfer same nowrap e).symm
  | none =>
    cases e' : read w memory' len with
    | none => rfl
    | some m =>
      have pos : 0 < len := by
        by_contra h
        simp [read, show len < 1 by omega] at e'
      rw [transfer (fun i lt => (same i lt).symm) (same 0 pos ▸ nowrap) e'] at e
      cases e

end Msg

end Nanotalk
