import Nanotalk.Dht.Client

/-!
# Datagrams and the client

What `dht_client_receive_cb` does with a datagram, given its first byte and its length only.

* `parsesReceived_iff`: on both word sizes and for every first byte and length, the client acts on
  datagrams of the documented shapes only, reads nothing behind their end and counts nodes exactly,
  unless a `MSG_LOOKUP_RES` of 19 bytes reaches a 32-bit platform.
* `zeroResponse_updates`: there, the table is updated from bytes that were not received.
-/

namespace Nanotalk
open Glib

/-- The documented shapes: first byte and length. -/
def Shape (type : UInt8) (len : Nat) : Prop :=
  type = MSG_LOOKUP_REQ ∧ len = sizeofMsgLookup ∨
  (type = MSG_LOOKUP_RES ∧ ∃ k, len = sizeofMsgLookup + sizeofMsgNode * k) ∨
  type = MSG_CONNECTION_REQ ∧ len = sizeofMsgConnection1 ∨
  type = MSG_CONNECTION_RES ∧ (len = sizeofMsgConnection2 ∨ len = sizeofMsgConnection3)

/-- What is asked of datagrams with this first byte and length, for every content of the buffer and
    every client. -/
structure ParsesReceived (S : Sodium) (w : WordSize) (type : UInt8) (len : Nat) : Prop where
  /-- the client changes, or sends, only on one of the shapes -/
  shape : ∀ (random : Nat → DhtKey) (env : DhtClient.Env) (c : DhtClient) (memory : Nat → UInt8)
    (sockaddr : GSocketAddress), memory 0 = type →
    c.receive S random env w memory len sockaddr ≠ c → Shape type len
  /-- the number of nodes handed to `dht_lookup_update` -/
  count : ∀ k, type = MSG_LOOKUP_RES → len = sizeofMsgLookup + sizeofMsgNode * k →
    ∀ memory : Nat → UInt8, memory 0 = type → ∃ srcid dstid nodes, nodes.length = k ∧
      Msg.read w memory len = some (.lookupRes srcid dstid nodes) ∧
      ∀ random env c sockaddr, DhtClient.receive S random env w c memory len sockaddr =
        c.lookupRes random env sockaddr srcid dstid nodes
  /-- the message that is handled lies below `len` -/
  below : ∀ (memory : Nat → UInt8) (m : Msg), memory 0 = type → Msg.read w memory len = some m →
    Holds memory 0 m.bytes ∧ m.bytes.length ≤ len
  /-- nothing depends on what lies behind it -/
  depends : ∀ (random : Nat → DhtKey) (env : DhtClient.Env) (c : DhtClient)
    (memory memory' : Nat → UInt8) (sockaddr : GSocketAddress), memory 0 = type →
    (∀ i < len, memory i = memory' i) → c.receive S random env w memory len sockaddr =
      c.receive S random env w memory' len sockaddr
  /-- the nodes in a reply are read as `dht_client_search` found them -/
  reply : type = MSG_LOOKUP_REQ → len = sizeofMsgLookup →
    ∀ memory : Nat → UInt8, memory 0 = type → ∃ srcid dstid,
      Msg.read w memory len = some (.lookupReq srcid dstid) ∧
      ∀ random env c sockaddr, srcid ≠ c.id → ∃ found msg,
        found = ((c.update env.updateTime srcid (DhtAddress.serialize sockaddr) true).search
          env.searchTime dstid).1 ∧
        (DhtClient.receive S random env w c memory len sockaddr).log =
          .sendTo 0 (some sockaddr) msg :: c.log ∧
        ∀ (w' : WordSize) (memory' : Nat → UInt8), Holds memory' 0 msg.bytes →
          Msg.read w' memory' msg.bytes.length = some (.lookupRes c.id dstid found)

/-! ## Replies fit into the buffer -/

namespace DhtTable

variable {t : DhtTable} {nodes : List MsgNode}

/-- Visiting a bucket fills the reply up to its size, and says when it is full. -/
lemma visit_length (t : DhtTable) (now : Int) (nbits fuel : Nat) (link : Option Nat)
    (lt : nodes.length < DHT_NODE_COUNT) :
    (visit now nbits fuel t nodes link).2.1.length ≤ DHT_NODE_COUNT ∧
      ((visit now nbits fuel t nodes link).2.2 = false →
        (visit now nbits fuel t nodes link).2.1.length < DHT_NODE_COUNT) := by
  induction fuel generalizing t nodes link with
  | zero => exact ⟨Nat.le_of_lt lt, fun _ => lt⟩
  | succ fuel ih =>
    cases link with
    | none => exact ⟨Nat.le_of_lt lt, fun _ => lt⟩
    | some link =>
      unfold visit
      split
      · split
        · dsimp only
          split
          · rename_i full
            exact ⟨Nat.le_of_eq full, nofun⟩
          · rename_i more
            apply ih
            rw [List.length_append, List.length_singleton] at more ⊢
            exact Nat.lt_of_le_of_ne lt more
        · exact ih _ _ lt
      · exact ⟨Nat.le_of_lt lt, fun _ => lt⟩

/-- The reply has room for all that is found. -/
lemma searchLoop_length (metric : DhtId) (now : Int) (fuel nbits : Nat) (dir : Bool)
    (lt : nodes.length < DHT_NODE_COUNT) :
    (searchLoop metric now fuel t nodes nbits dir).2.length ≤ DHT_NODE_COUNT := by
  induction fuel generalizing t nodes nbits dir with
  | zero => exact Nat.le_of_lt lt
  | succ fuel ih =>
    obtain ⟨⟨t', nodes', full⟩, er⟩ : ∃ r, r = if metric.bit nbits = dir then
      visit now nbits t.heap.fresh t nodes (t.data nbits) else (t, nodes, false) := ⟨_, rfl⟩
    have visited : nodes'.length ≤ DHT_NODE_COUNT ∧
        (full = false → nodes'.length < DHT_NODE_COUNT) := by
      split at er
      · have visited := visit_length t now nbits t.heap.fresh (t.data nbits) lt
        rwa [← er] at visited
      · cases er
        exact ⟨Nat.le_of_lt lt, fun _ => lt⟩
    obtain ⟨le, more⟩ := visited
    rw [searchLoop_succ er]
    cases en : if full then none else nextBucket t'.buckets.length nbits dir with
    | none => exact le
    | some next =>
      obtain ⟨notFull, -⟩ := Option.ite_none_left_eq_some.mp en
      exact ih _ _ (more (Bool.eq_false_of_not_eq_true notFull))

/-- A search reports no more nodes than fit into a bucket. -/
theorem search_length (own : DhtId) (now : Int) (t : DhtTable) (id : DhtId) :
    (t.search own now id).2.length ≤ DHT_NODE_COUNT :=
  searchLoop_length _ _ _ _ _ (by decide)

end DhtTable

namespace DhtClient

variable {S : Sodium} {random : Nat → DhtKey} {env : Env} {w : WordSize} {c : DhtClient}
  {memory : Nat → UInt8} {len : Nat} {sockaddr : GSocketAddress}

/-- A datagram that changes the client has one of the shapes. -/
lemma receive_shape (short : len ≤ MSG_MTU) (nowrap : ¬ Msg.Wraps w (memory 0) len)
    (change : c.receive S random env w memory len sockaddr ≠ c) : Shape (memory 0) len := by
  unfold receive at change
  cases e : Msg.read w memory len with
  | none =>
    rw [e] at change
    exact absurd rfl change
  | some m =>
    have length := Msg.read_length e short nowrap
    have holds := (Msg.read_eq_some_iff.mp e).1
    rw [Msg.bytes_length] at length
    cases m with
    | lookupReq srcid dstid =>
      simp only [Msg.bytes, holds_cons] at holds
      exact .inl ⟨holds.1, length.symm⟩
    | lookupRes srcid dstid nodes =>
      simp only [Msg.bytes, holds_cons] at holds
      exact .inr (.inl ⟨holds.1, _, length.symm⟩)
    | connectionReq pubkey nonce =>
      simp only [Msg.bytes, holds_cons] at holds
      exact .inr (.inr (.inl ⟨holds.1, length.symm⟩))
    | connectionRes1 pubkey nonce peerNonce authTag =>
      simp only [Msg.bytes, holds_cons] at holds
      exact .inr (.inr (.inr ⟨holds.1, .inl length.symm⟩))
    | connectionRes2 peerNonce authTag =>
      simp only [Msg.bytes, holds_cons] at holds
      exact .inr (.inr (.inr ⟨holds.1, .inr length.symm⟩))

/-- The reply to a lookup request. -/
lemma lookupReq_log {srcid dstid : DhtId} (ne : srcid ≠ c.id) :
    (c.lookupReq env sockaddr srcid dstid).log =
      .sendTo 0 (some sockaddr) (.lookupRes c.id dstid
        ((c.update env.updateTime srcid (DhtAddress.serialize sockaddr) true).search
          env.searchTime dstid).1) :: c.log := by
  rw [lookupReq, if_neg ne]
  rfl

end DhtClient

section Parses

variable {S : Sodium} {w : WordSize} {type : UInt8} {len : Nat}

/-- A datagram that does not wrap is parsed as it was received. -/
lemma parsesReceived (short : len ≤ MSG_MTU) (nowrap : ¬ Msg.Wraps w type len) :
    ParsesReceived S w type len where
  shape random env c memory sockaddr e change := by
    subst e
    exact DhtClient.receive_shape short nowrap change
  count k type_eq len_eq memory e := by
    subst len_eq
    have fit := (Msg.lookupCount_check (w := w) short).mpr (.inl ⟨k, rfl⟩)
    obtain ⟨srcid, dstid, nodes, length, read⟩ := Msg.read_lookupRes memory (e.trans type_eq)
      (Nat.le_add_right_of_le (by decide)) fit
    refine ⟨srcid, dstid, nodes, length.trans (Msg.lookupCount_exact k short), read, ?_⟩
    intro random env c sockaddr
    rw [DhtClient.receive, read]
    rfl
  below memory m e read := by
    subst e
    exact ⟨(Msg.read_eq_some_iff.mp read).1, Nat.le_of_eq (Msg.read_length read short nowrap)⟩
  depends random env c memory memory' sockaddr e same := by
    subst e
    simp only [DhtClient.receive, Msg.read_congr same short nowrap]
  reply type_eq len_eq memory e := by
    subst len_eq
    obtain ⟨srcid, dstid, read⟩ := Msg.read_lookupReq (w := w) (e.trans type_eq)
    refine ⟨srcid, dstid, read, ?_⟩
    intro random env c sockaddr ne
    have handled : DhtClient.receive S random env w c memory sizeofMsgLookup sockaddr =
        c.lookupReq env sockaddr srcid dstid := by
      rw [DhtClient.receive, read]
      rfl
    refine ⟨_, _, rfl, (congrArg DhtClient.log handled).trans (DhtClient.lookupReq_log ne), ?_⟩
    intro w' memory' holds
    apply Msg.read_bytes holds
    rw [Msg.bytes_length]
    have le := DhtTable.search_length c.id env.searchTime
      (c.update env.updateTime srcid (DhtAddress.serialize sockaddr) true).table dstid
    calc sizeofMsgLookup + sizeofMsgNode * _
      _ ≤ sizeofMsgLookup + sizeofMsgNode * DHT_NODE_COUNT :=
        Nat.add_le_add_left (Nat.mul_le_mul_left _ le) _
      _ ≤ MSG_MTU := by decide

/-- Datagrams are parsed as documented, with a single exception: a `MSG_LOOKUP_RES` of 19 bytes on
    a 32-bit platform. -/
theorem parsesReceived_iff (S : Sodium) (w : WordSize) (type : UInt8) (len : Nat)
    (pos : 1 ≤ len) (short : len ≤ MSG_MTU) :
    ParsesReceived S w type len ↔ ¬ (w = .w32 ∧ type = MSG_LOOKUP_RES ∧ len = 19) := by
  constructor
  · rintro parses ⟨rfl, rfl, rfl⟩
    -- the multiply-back test holds modulo `2 ^ 32`
    obtain ⟨srcid, dstid, nodes, _, read⟩ :=
      Msg.read_lookupRes (w := .w32) (fun _ => MSG_LOOKUP_RES) rfl pos (by decide)
    have le := (parses.below _ _ rfl read).2
    rw [Msg.bytes_length] at le
    exact absurd (Nat.le_trans (Nat.le_add_right _ _) le) (by decide)
  · exact parsesReceived short

/-- Lookup requests are parsed as documented on 32-bit platforms. -/
theorem parsesReceived_lookupReq :
    ParsesReceived Sodium.transparent .w32 MSG_LOOKUP_REQ sizeofMsgLookup :=
  (parsesReceived_iff Sodium.transparent .w32 MSG_LOOKUP_REQ sizeofMsgLookup (by decide)
    (by decide)).mpr (by decide)

/-- A buffer of zeros under the type of a lookup response. -/
def zeroResponse : Nat → UInt8 := fun i => if i = 0 then MSG_LOOKUP_RES else 0

/-- The exception: 19 bytes are received, none of the shapes has that length, and the client enters
    a node into its table. -/
theorem zeroResponse_updates :
    let c := DhtClient.new Sodium.transparent ⟨fun _ => 1⟩
    let c' := c.receive Sodium.transparent (fun _ => ⟨fun _ => 0⟩) ⟨0, 0, false⟩ .w32 zeroResponse 19
      ⟨.ipv4 fun _ => 7, 5004⟩
    ¬ Shape MSG_LOOKUP_RES 19 ∧ c.table.numPeers = 0 ∧ c'.table.numPeers = 1 ∧
      ¬ ParsesReceived Sodium.transparent .w32 MSG_LOOKUP_RES 19 := by
  intro c c'
  have noshape : ¬ Shape MSG_LOOKUP_RES 19 := by
    rintro (h | ⟨_, k, e⟩ | h | h)
    · exact absurd h (by decide)
    · change 19 = 41 + 26 * k at e
      omega
    · exact absurd h (by decide)
    · exact absurd h (by decide)
  have peers : c'.table.numPeers = 1 := by decide +kernel
  refine ⟨noshape, rfl, peers, fun parses => noshape ?_⟩
  apply parses.shape _ _ c zeroResponse _ rfl
  intro same
  exact absurd (peers.symm.trans (congrArg (·.table.numPeers) same)) (by decide)

end Parses

end Nanotalk
