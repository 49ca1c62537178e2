import Nanotalk.Dht.Authentication
import Nanotalk.Dht.Correspondents
import Nanotalk.Dht.Receive

/-!
# The dissector

`test/wireshark-plugin.lua` reads the datagrams for Wireshark. It knows the sizes of the messages as
numbers and does its own arithmetic on the length.

* `dissect_bytes`: a message on the wire is shown with its fields.
* `dissect_iff`: the dissector shows what `dht_client_receive_cb` takes for its message, two kinds of
  datagrams apart.
* `sends_readable`: every datagram of a client is read and shown as the message it is.
-/

namespace Nanotalk
open Glib

namespace Dissector

/-- What Wireshark provides: the texts of `tostring` for a range of bytes and for an IPv4 address. -/
structure Wireshark where
  tostring : List UInt8 → String
  ipv4 : List UInt8 → String

/-- An error of Lua: the range does not lie in the buffer. -/
inductive RangeError where
  | outOfBounds
  deriving DecidableEq

/-- Lua `buffer(offset, length)`. -/
def range (buffer : List UInt8) (offset length : Nat) : Except RangeError (List UInt8) :=
  if offset + length ≤ buffer.length then .ok ((buffer.drop offset).take length)
  else .error .outOfBounds

/-- Lua `uint`: big-endian. -/
def uint (bytes : List UInt8) : Nat := bytes.foldl (fun n byte => 2 ^ 8 * n + byte.toNat) 0

/-- Lua `s:sub(0, 16)`. -/
def sub16 (s : String) : String := String.ofList (s.toList.take 16)

/-- The values of `for i = start, stop, step`. -/
def loop (start stop step : Nat) : List Nat := List.range' start ((stop + step - start) / step) step

/-- An item of the tree: how deep it is in it, the range that it marks, its text. -/
structure Item where
  depth : Nat
  offset : Nat
  length : Nat
  text : String
  deriving DecidableEq

/-- The columns of the packet list, and the items in the order they are added. -/
structure Shown where
  protocol : String
  info : String
  items : List Item
  deriving DecidableEq

/-- Lua `tree:add(nanotalk_proto, buffer())`. -/
def root (length : Nat) : Item := ⟨0, 0, length, "Nanotalk distributed multimedia service"⟩

variable (W : Wireshark)

/-- The body of the loop over the nodes. -/
def node (buffer : List UInt8) (i : Nat) : Except RangeError (List Item) := do
  let _ ← range buffer i 26
  let id ← range buffer i 20
  let port ← range buffer (i + 20) 2
  let address ← range buffer (i + 22) 4
  return [⟨1, i, 26, "Node"⟩,
    ⟨2, i, 20, "ID: " ++ W.tostring id⟩,
    ⟨2, i + 20, 2, "Port: " ++ toString (uint port)⟩,
    ⟨2, i + 22, 4, "Address: " ++ W.ipv4 address⟩]

/-- The branch for `0xC0`. -/
def lookupRequest (buffer : List UInt8) : Except RangeError (Option Shown) :=
  if buffer.length = 41 then do
    let srcid := W.tostring (← range buffer 1 20)
    let dstid := W.tostring (← range buffer 21 20)
    return some ⟨"NANOTALK", "Lookup request " ++ sub16 srcid ++ " -> " ++ sub16 dstid,
      [root buffer.length,
        ⟨1, 0, 1, "Type: Lookup request (0xC0)"⟩,
        ⟨1, 1, 20, "Source ID: " ++ srcid⟩,
        ⟨1, 21, 20, "Destination ID: " ++ dstid⟩]⟩
  else return none

/-- The branch for `0xC1`. -/
def lookupResponse (buffer : List UInt8) : Except RangeError (Option Shown) :=
  if buffer.length ≥ 41 ∧ (buffer.length - 41) % 26 = 0 then do
    let srcid := W.tostring (← range buffer 1 20)
    let dstid := W.tostring (← range buffer 21 20)
    let nodes ← (loop 41 (buffer.length - 1) 26).mapM (node W buffer)
    return some ⟨"NANOTALK", "Lookup response " ++ sub16 srcid ++ " -> " ++ sub16 dstid,
      [root buffer.length,
        ⟨1, 0, 1, "Type: Lookup response (0xC1)"⟩,
        ⟨1, 1, 20, "Source ID: " ++ srcid⟩,
        ⟨1, 21, 20, "Destination ID: " ++ dstid⟩] ++ nodes.flatten⟩
  else return none

/-- The branch for `0xC2`. -/
def connectionRequest (buffer : List UInt8) : Except RangeError (Option Shown) :=
  if buffer.length = 65 then do
    let pubkey ← range buffer 1 32
    let nonce ← range buffer 33 32
    return some ⟨"NANOTALK", "Connection request",
      [root buffer.length,
        ⟨1, 0, 1, "Type: Connection request (0xC2)"⟩,
        ⟨1, 1, 32, "Public key: " ++ W.tostring pubkey⟩,
        ⟨1, 33, 32, "Nonce: " ++ W.tostring nonce⟩]⟩
  else return none

/-- The branch for `0xC3`. -/
def connectionResponse (buffer : List UInt8) : Except RangeError (Option Shown) :=
  if buffer.length = 129 then do
    let pubkey ← range buffer 1 32
    let nonce ← range buffer 33 32
    let peerNonce ← range buffer 65 32
    let tag ← range buffer 97 32
    return some ⟨"NANOTALK", "Connection response 1",
      [root buffer.length,
        ⟨1, 0, 1, "Type: Connection response (0xC3)"⟩,
        ⟨1, 1, 32, "Public key: " ++ W.tostring pubkey⟩,
        ⟨1, 33, 32, "Nonce: " ++ W.tostring nonce⟩,
        ⟨1, 65, 32, "Peer nonce: " ++ W.tostring peerNonce⟩,
        ⟨1, 97, 32, "Authentication tag: " ++ W.tostring tag⟩]⟩
  else if buffer.length = 65 then do
    let peerNonce ← range buffer 1 32
    let tag ← range buffer 33 32
    return some ⟨"NANOTALK", "Connection response 2",
      [root buffer.length,
        ⟨1, 0, 1, "Type: Connection response (0xC3)"⟩,
        ⟨1, 1, 32, "Peer nonce: " ++ W.tostring peerNonce⟩,
        ⟨1, 33, 32, "Authentication tag: " ++ W.tostring tag⟩]⟩
  else return none

/-- Lua `nanotalk_proto.dissector`: what it shows, if anything. -/
def dissect (buffer : List UInt8) : Except RangeError (Option Shown) :=
  if buffer.length > 1 then do
    let msgtype := uint (← range buffer 0 1)
    if msgtype = 0xC0 then lookupRequest W buffer
    else if msgtype = 0xC1 then lookupResponse W buffer
    else if msgtype = 0xC2 then connectionRequest W buffer
    else if msgtype = 0xC3 then connectionResponse W buffer
    else return none
  else return none

/-! ## What is to be shown -/

/-- A field of the message. -/
def field {n : Nat} (offset : Nat) (label : String) (data : Bytes n) : Item :=
  ⟨1, offset, n, label ++ W.tostring data.toList⟩

/-- The `i`-th node of a response. -/
def describeNode (n : MsgNode) (i : Nat) : List Item :=
  let o := sizeofMsgLookup + sizeofMsgNode * i
  [⟨1, o, sizeofMsgNode, "Node"⟩,
    ⟨2, o, DHT_ID_SIZE, "ID: " ++ W.tostring n.id.data.toList⟩,
    ⟨2, o + DHT_ID_SIZE, 2, "Port: " ++ toString n.addr.deserialize.port.toNat⟩,
    ⟨2, o + DHT_ID_SIZE + 2, 4, "Address: " ++ W.ipv4 (n.addr.data.slice 2 4).toList⟩]

/-- The fields of a message, where they lie on the wire. -/
def describe (m : Msg) : Shown :=
  let type (text : String) : List Item := [root m.bytes.length, ⟨1, 0, 1, "Type: " ++ text⟩]
  match m with
  | .lookupReq srcid dstid =>
    ⟨"NANOTALK", "Lookup request " ++ sub16 (W.tostring srcid.data.toList) ++ " -> " ++
        sub16 (W.tostring dstid.data.toList),
      type "Lookup request (0xC0)" ++
        [field W 1 "Source ID: " srcid.data, field W 21 "Destination ID: " dstid.data]⟩
  | .lookupRes srcid dstid nodes =>
    ⟨"NANOTALK", "Lookup response " ++ sub16 (W.tostring srcid.data.toList) ++ " -> " ++
        sub16 (W.tostring dstid.data.toList),
      type "Lookup response (0xC1)" ++
        [field W 1 "Source ID: " srcid.data, field W 21 "Destination ID: " dstid.data] ++
        (nodes.zipIdx.map fun n => describeNode W n.1 n.2).flatten⟩
  | .connectionReq pubkey nonce =>
    ⟨"NANOTALK", "Connection request",
      type "Connection request (0xC2)" ++
        [field W 1 "Public key: " pubkey.data, field W 33 "Nonce: " nonce.data]⟩
  | .connectionRes1 pubkey nonce peerNonce authTag =>
    ⟨"NANOTALK", "Connection response 1",
      type "Connection response (0xC3)" ++
        [field W 1 "Public key: " pubkey.data, field W 33 "Nonce: " nonce.data,
          field W 65 "Peer nonce: " peerNonce.data,
          field W 97 "Authentication tag: " authTag.data]⟩
  | .connectionRes2 peerNonce authTag =>
    ⟨"NANOTALK", "Connection response 2",
      type "Connection response (0xC3)" ++
        [field W 1 "Peer nonce: " peerNonce.data, field W 33 "Authentication tag: " authTag.data]⟩

/-! ## Ranges of the buffer -/

variable {W} {buffer : List UInt8} {memory : Nat → UInt8}

/-- A range that lies in the buffer is a field of the memory. -/
lemma range_field {o n : Nat} {data : Bytes n} (holds : Holds memory 0 buffer)
    (here : Bytes.read memory o n = data) (le : o + n ≤ buffer.length) :
    range buffer o n = .ok data.toList := by
  subst here
  rw [range, if_pos le]
  refine congrArg Except.ok (List.ext_getElem ?_ fun i lt _ => ?_)
  · rw [List.length_take, List.length_drop, Bytes.toList_length]
    omega
  · rw [List.getElem_take, List.getElem_drop, ← holds, Nat.zero_add]
    simp [Bytes.toList, Bytes.read]

/-- The memory holds one list of a length. -/
lemma eq_of_holds {l : List UInt8} (holds : Holds memory 0 buffer) (other : Holds memory 0 l)
    (length : buffer.length = l.length) : buffer = l := by
  refine List.ext_getElem length fun i lt lt' => ?_
  rw [← holds i lt, other i lt']

/-- Memory that holds a buffer. -/
lemma exists_holds (buffer : List UInt8) : ∃ memory, Holds memory 0 buffer := by
  refine ⟨fun i => buffer.getD i 0, fun i lt => ?_⟩
  show buffer.getD (0 + i) 0 = buffer[i]
  rw [Nat.zero_add, List.getD_eq_getElem _ _ lt]

/-- The dissector reads the type from the first byte. -/
lemma dissect_eq (holds : Holds memory 0 buffer) (pos : 1 < buffer.length) :
    dissect W buffer =
      if memory 0 = MSG_LOOKUP_REQ then lookupRequest W buffer
      else if memory 0 = MSG_LOOKUP_RES then lookupResponse W buffer
      else if memory 0 = MSG_CONNECTION_REQ then connectionRequest W buffer
      else if memory 0 = MSG_CONNECTION_RES then connectionResponse W buffer
      else .ok none := by
  have first : uint (Bytes.read memory 0 1).toList = (memory 0).toNat := by
    simp [uint, Bytes.toList, Bytes.read]
  rw [dissect, if_pos pos, range_field holds rfl (Nat.le_of_lt pos)]
  simp only [bind, Except.bind, first, ← UInt8.toNat_inj]
  rfl

/-! ## Nodes -/

lemma uint_port (addr : DhtAddress) :
    uint [addr.data.get 0, addr.data.get 1] = addr.deserialize.port.toNat := by
  show _ = UInt16.toNat (_ ||| _)
  rw [Bytes.be16_toNat, uint, List.foldl_cons, List.foldl_cons, List.foldl_nil, Nat.mul_zero,
    Nat.zero_add, Nat.mul_comm]

/-- A node that lies in the buffer is shown. -/
lemma node_read {i : Nat} (holds : Holds memory 0 buffer)
    (le : sizeofMsgLookup + sizeofMsgNode * i + sizeofMsgNode ≤ buffer.length) :
    node W buffer (sizeofMsgLookup + sizeofMsgNode * i) =
      .ok (describeNode W (MsgNode.read memory (sizeofMsgLookup + sizeofMsgNode * i)) i) := by
  generalize e : sizeofMsgLookup + sizeofMsgNode * i = o at le
  change o + 26 ≤ _ at le
  have port : uint (Bytes.read memory (o + 20) 2).toList =
      (MsgNode.read memory o).addr.deserialize.port.toNat := by
    rw [← uint_port]
    rfl
  rw [node, range_field holds rfl le, range_field holds rfl (by omega),
    range_field holds rfl (by omega), range_field holds rfl (by omega)]
  simp only [bind, Except.bind, port]
  rw [describeNode]
  simp only [e]
  rfl

/-- The loop runs over the offsets of the nodes. -/
lemma loop_nodes (k : Nat) :
    loop 41 (sizeofMsgLookup + sizeofMsgNode * k - 1) 26 =
      (List.range k).map (fun i => sizeofMsgLookup + sizeofMsgNode * i) := by
  have count : (sizeofMsgLookup + sizeofMsgNode * k - 1 + 26 - 41) / 26 = k := by
    change (41 + 26 * k - 1 + 26 - 41) / 26 = k
    omega
  rw [loop, count]
  refine List.ext_getElem (by simp) fun i lt lt' => ?_
  rw [List.getElem_range', List.getElem_map, List.getElem_range]
  rfl

lemma mapM_ok {α β : Type} {f : α → Except RangeError β} {g : α → β} {l : List α}
    (each : ∀ x ∈ l, f x = .ok (g x)) : l.mapM f = .ok (l.map g) := by
  induction l with
  | nil => rfl
  | cons x l ih =>
    rw [List.mapM_cons, each x List.mem_cons_self,
      ih fun y mem => each y (List.mem_cons_of_mem _ mem)]
    rfl

/-- The loop shows each node. -/
lemma nodes_read {nodes : List MsgNode} (holds : Holds memory 0 buffer)
    (length : buffer.length = sizeofMsgLookup + sizeofMsgNode * nodes.length)
    (here : Holds memory sizeofMsgLookup (nodes.flatMap MsgNode.bytes)) :
    (loop 41 (buffer.length - 1) 26).mapM (node W buffer) =
      .ok (nodes.zipIdx.map fun n => describeNode W n.1 n.2) := by
  have each : ∀ i ∈ List.range nodes.length, node W buffer (sizeofMsgLookup + sizeofMsgNode * i) =
      .ok (describeNode W (MsgNode.read memory (sizeofMsgLookup + sizeofMsgNode * i)) i) := by
    intro i mem
    have lt := List.mem_range.mp mem
    apply node_read holds
    change 41 + 26 * i + 26 ≤ _
    change buffer.length = 41 + 26 * nodes.length at length
    omega
  have read := holds_nodes.mp here
  rw [length, loop_nodes, List.mapM_map, mapM_ok (f := node W buffer ∘ _) each]
  refine congrArg Except.ok (List.ext_getElem (by simp) fun i lt _ => ?_)
  have lt : i < nodes.length := by simpa using lt
  rw [List.getElem_map, List.getElem_map, List.getElem_range, List.getElem_zipIdx, Nat.zero_add,
    ← List.getElem_of_eq read (by simpa using lt), List.getElem_map, List.getElem_range]

/-! ## What is shown -/

lemma lookupRequest_read (holds : Holds memory 0 buffer) (length : buffer.length = sizeofMsgLookup)
    {srcid dstid : DhtId} (src : Bytes.read memory 1 DHT_ID_SIZE = srcid.data)
    (dst : Bytes.read memory (1 + DHT_ID_SIZE) DHT_ID_SIZE = dstid.data) :
    lookupRequest W buffer = .ok (some (describe W (.lookupReq srcid dstid))) := by
  have size : (Msg.lookupReq srcid dstid).bytes.length = buffer.length :=
    Msg.bytes_length.trans length.symm
  have fits : buffer.length = 41 := length
  have srcid : range buffer 1 20 = .ok srcid.data.toList := range_field holds src (by omega)
  have dstid : range buffer 21 20 = .ok dstid.data.toList := range_field holds dst (by omega)
  rw [lookupRequest, if_pos fits, srcid, dstid, describe, size]
  rfl

/-- A lookup response is shown with its nodes. -/
lemma lookupResponse_read (holds : Holds memory 0 buffer) {srcid dstid : DhtId}
    {nodes : List MsgNode}
    (length : buffer.length = sizeofMsgLookup + sizeofMsgNode * nodes.length)
    (src : Bytes.read memory 1 DHT_ID_SIZE = srcid.data)
    (dst : Bytes.read memory (1 + DHT_ID_SIZE) DHT_ID_SIZE = dstid.data)
    (here : Holds memory sizeofMsgLookup (nodes.flatMap MsgNode.bytes)) :
    lookupResponse W buffer = .ok (some (describe W (.lookupRes srcid dstid nodes))) := by
  have size : (Msg.lookupRes srcid dstid nodes).bytes.length = buffer.length :=
    Msg.bytes_length.trans length.symm
  have fits : buffer.length ≥ 41 ∧ (buffer.length - 41) % 26 = 0 := by
    change buffer.length = 41 + 26 * nodes.length at length
    omega
  have srcid : range buffer 1 20 = .ok srcid.data.toList := range_field holds src (by omega)
  have dstid : range buffer 21 20 = .ok dstid.data.toList := range_field holds dst (by omega)
  rw [lookupResponse, if_pos fits, srcid, dstid, nodes_read holds length here, describe, size]
  rfl

lemma connectionRequest_read (holds : Holds memory 0 buffer)
    (length : buffer.length = sizeofMsgConnection1) {pubkey nonce : DhtKey}
    (first : Bytes.read memory 1 DHT_KEY_SIZE = pubkey.data)
    (second : Bytes.read memory (1 + DHT_KEY_SIZE) DHT_KEY_SIZE = nonce.data) :
    connectionRequest W buffer = .ok (some (describe W (.connectionReq pubkey nonce))) := by
  have size : (Msg.connectionReq pubkey nonce).bytes.length = buffer.length :=
    Msg.bytes_length.trans length.symm
  have fits : buffer.length = 65 := length
  have pubkey : range buffer 1 32 = .ok pubkey.data.toList := range_field holds first (by omega)
  have nonce : range buffer 33 32 = .ok nonce.data.toList := range_field holds second (by omega)
  rw [connectionRequest, if_pos fits, pubkey, nonce, describe, size]
  rfl

lemma connectionResponse_read1 (holds : Holds memory 0 buffer)
    (length : buffer.length = sizeofMsgConnection2) {pubkey nonce peerNonce authTag : DhtKey}
    (first : Bytes.read memory 1 DHT_KEY_SIZE = pubkey.data)
    (second : Bytes.read memory (1 + DHT_KEY_SIZE) DHT_KEY_SIZE = nonce.data)
    (third : Bytes.read memory (1 + DHT_KEY_SIZE + DHT_KEY_SIZE) DHT_KEY_SIZE = peerNonce.data)
    (fourth : Bytes.read memory (1 + DHT_KEY_SIZE + DHT_KEY_SIZE + DHT_KEY_SIZE) DHT_KEY_SIZE =
      authTag.data) :
    connectionResponse W buffer =
      .ok (some (describe W (.connectionRes1 pubkey nonce peerNonce authTag))) := by
  have size : (Msg.connectionRes1 pubkey nonce peerNonce authTag).bytes.length = buffer.length :=
    Msg.bytes_length.trans length.symm
  have fits : buffer.length = 129 := length
  have pubkey : range buffer 1 32 = .ok pubkey.data.toList := range_field holds first (by omega)
  have nonce : range buffer 33 32 = .ok nonce.data.toList := range_field holds second (by omega)
  have peerNonce : range buffer 65 32 = .ok peerNonce.data.toList :=
    range_field holds third (by omega)
  have tag : range buffer 97 32 = .ok authTag.data.toList := range_field holds fourth (by omega)
  rw [connectionResponse, if_pos fits, pubkey, nonce, peerNonce, tag, describe, size]
  rfl

lemma connectionResponse_read2 (holds : Holds memory 0 buffer)
    (length : buffer.length = sizeofMsgConnection3) {peerNonce authTag : DhtKey}
    (first : Bytes.read memory 1 DHT_KEY_SIZE = peerNonce.data)
    (second : Bytes.read memory (1 + DHT_KEY_SIZE) DHT_KEY_SIZE = authTag.data) :
    connectionResponse W buffer = .ok (some (describe W (.connectionRes2 peerNonce authTag))) := by
  have size : (Msg.connectionRes2 peerNonce authTag).bytes.length = buffer.length :=
    Msg.bytes_length.trans length.symm
  have fits : buffer.length = 65 := length
  have other : ¬ buffer.length = 129 := by omega
  have peerNonce : range buffer 1 32 = .ok peerNonce.data.toList :=
    range_field holds first (by omega)
  have tag : range buffer 33 32 = .ok authTag.data.toList := range_field holds second (by omega)
  rw [connectionResponse, if_neg other, if_pos fits, peerNonce, tag, describe, size]
  rfl

/-- A message on the wire is shown with its fields. -/
theorem dissect_bytes (m : Msg) : dissect W m.bytes = .ok (some (describe W m)) := by
  obtain ⟨memory, holds⟩ := exists_holds m.bytes
  have length := Msg.bytes_length (m := m)
  have pos : 1 < m.bytes.length := by
    rw [length]
    cases m with
    | lookupRes _ _ nodes => exact Nat.lt_of_lt_of_le (by decide) (Nat.le_add_right _ _)
    | _ => dsimp only; decide
  have here := holds
  rw [dissect_eq holds pos]
  cases m with
  | lookupReq srcid dstid =>
    simp only [Msg.bytes, holds_cons, holds_append, holds_toList, Bytes.toList_length] at here
    obtain ⟨type, src, dst⟩ := here
    rw [if_pos type, lookupRequest_read holds length src dst]
  | lookupRes srcid dstid nodes =>
    simp only [Msg.bytes, holds_cons, holds_append, holds_toList, Bytes.toList_length] at here
    obtain ⟨type, ⟨src, dst⟩, rest⟩ := here
    have type' : memory 0 ≠ MSG_LOOKUP_REQ := type ▸ by decide
    rw [if_neg type', if_pos type, lookupResponse_read holds length src dst]
    rwa [List.length_append, Bytes.toList_length, Bytes.toList_length] at rest
  | connectionReq pubkey nonce =>
    simp only [Msg.bytes, holds_cons, holds_append, holds_toList, Bytes.toList_length] at here
    obtain ⟨type, first, second⟩ := here
    rw [type, if_neg (by decide), if_neg (by decide), if_pos rfl,
      connectionRequest_read holds length first second]
  | connectionRes1 pubkey nonce peerNonce authTag =>
    simp only [Msg.bytes, holds_cons, holds_append, holds_toList, Bytes.toList_length,
      List.length_append] at here
    obtain ⟨type, ⟨⟨first, second⟩, third⟩, fourth⟩ := here
    rw [type, if_neg (by decide), if_neg (by decide), if_neg (by decide), if_pos rfl,
      connectionResponse_read1 holds length first second third fourth]
  | connectionRes2 peerNonce authTag =>
    simp only [Msg.bytes, holds_cons, holds_append, holds_toList, Bytes.toList_length] at here
    obtain ⟨type, first, second⟩ := here
    rw [type, if_neg (by decide), if_neg (by decide), if_neg (by decide), if_pos rfl,
      connectionResponse_read2 holds length first second]

/-- Nothing is shown of other datagrams. -/
lemma dissect_none (holds : Holds memory 0 buffer) (other : ¬ Shape (memory 0) buffer.length) :
    dissect W buffer = .ok none := by
  by_cases pos : 1 < buffer.length
  · rw [dissect_eq holds pos]
    split
    · rename_i type
      refine if_neg fun length => other (.inl ⟨type, length⟩)
    split
    · rename_i type
      refine if_neg fun length => other (.inr (.inl ⟨type, (buffer.length - 41) / 26, ?_⟩))
      change buffer.length = 41 + 26 * ((buffer.length - 41) / 26)
      omega
    split
    · rename_i type
      exact if_neg fun length => other (.inr (.inr (.inl ⟨type, length⟩)))
    split
    · rename_i type
      have first : buffer.length ≠ 129 := fun e => other (.inr (.inr (.inr ⟨type, .inl e⟩)))
      have second : buffer.length ≠ 65 := fun e => other (.inr (.inr (.inr ⟨type, .inr e⟩)))
      rw [connectionResponse, if_neg first, if_neg second]
      rfl
    · rfl
  · rw [dissect, if_neg pos]
    rfl

/-- A datagram of one of the shapes is a message. -/
lemma shape_bytes (holds : Holds memory 0 buffer) (shape : Shape (memory 0) buffer.length) :
    ∃ m : Msg, buffer = m.bytes := by
  obtain ⟨type, length⟩ | ⟨type, k, length⟩ | ⟨type, length⟩ | ⟨type, length | length⟩ := shape
  · refine ⟨.lookupReq ⟨Bytes.read memory 1 _⟩ ⟨Bytes.read memory (1 + DHT_ID_SIZE) _⟩, ?_⟩
    refine eq_of_holds holds (by simp [Msg.bytes, type]) (length.trans ?_)
    rw [Msg.bytes_length]
  · refine ⟨.lookupRes ⟨Bytes.read memory 1 _⟩ ⟨Bytes.read memory (1 + DHT_ID_SIZE) _⟩
      ((List.range k).map fun i =>
        MsgNode.read memory (1 + DHT_ID_SIZE + DHT_ID_SIZE + sizeofMsgNode * i)), ?_⟩
    refine eq_of_holds holds (by simp [Msg.bytes, type, holds_nodes]) (length.trans ?_)
    rw [Msg.bytes_length]
    simp only [List.length_map, List.length_range]
  · refine ⟨.connectionReq ⟨Bytes.read memory 1 _⟩ ⟨Bytes.read memory (1 + DHT_KEY_SIZE) _⟩, ?_⟩
    refine eq_of_holds holds (by simp [Msg.bytes, type]) (length.trans ?_)
    rw [Msg.bytes_length]
  · refine ⟨.connectionRes1 ⟨Bytes.read memory 1 _⟩ ⟨Bytes.read memory (1 + DHT_KEY_SIZE) _⟩
      ⟨Bytes.read memory (1 + DHT_KEY_SIZE + DHT_KEY_SIZE) _⟩
      ⟨Bytes.read memory (1 + DHT_KEY_SIZE + DHT_KEY_SIZE + DHT_KEY_SIZE) _⟩, ?_⟩
    refine eq_of_holds holds (by simp [Msg.bytes, type]) (length.trans ?_)
    rw [Msg.bytes_length]
  · refine ⟨.connectionRes2 ⟨Bytes.read memory 1 _⟩ ⟨Bytes.read memory (1 + DHT_KEY_SIZE) _⟩, ?_⟩
    refine eq_of_holds holds (by simp [Msg.bytes, type]) (length.trans ?_)
    rw [Msg.bytes_length]

/-! ## The client -/

/-- A response that is longer than the receive buffer. -/
def Overlong (type : UInt8) (len : Nat) : Prop :=
  type = MSG_LOOKUP_RES ∧ MSG_MTU < len ∧ ∃ k, len = sizeofMsgLookup + sizeofMsgNode * k

/-- The receive buffer is not filled by a message. -/
lemma read_full (w : WordSize) : Msg.read w memory MSG_MTU = none := by
  rw [Option.eq_none_iff_forall_ne_some]
  intro m e
  have fits := (Msg.read_eq_some_iff.mp e).2
  cases m with
  | lookupRes srcid dstid nodes =>
    rcases (Msg.lookupCount_check (Nat.le_refl _)).mp fits.2.2 with ⟨k, length⟩ | ⟨-, length⟩
    · change 1500 = 41 + 26 * k at length
      omega
    · cases length
  | _ => cases fits

/-- A datagram with the length of a message other than a response fits into the buffer. -/
lemma length_short {m : Msg} (long : MSG_MTU < m.bytes.length) :
    ∃ srcid dstid nodes, m = .lookupRes srcid dstid nodes := by
  rw [Msg.bytes_length] at long
  cases m with
  | lookupRes srcid dstid nodes => exact ⟨srcid, dstid, nodes, rfl⟩
  | _ =>
    dsimp only at long
    exact absurd long (by decide)

/-- A datagram that fits into the buffer. -/
lemma dissect_short {w : WordSize} (holds : Holds memory 0 buffer) (short : buffer.length ≤ MSG_MTU) :
    dissect W buffer = .ok ((Msg.read w memory buffer.length).map (describe W)) ↔
      ¬ Msg.Wraps w (memory 0) buffer.length := by
  constructor
  · rintro e ⟨rfl, type, length⟩
    have other : ¬ Shape (memory 0) buffer.length := by
      rw [type, length]
      rintro (⟨-, h⟩ | ⟨-, k, h⟩ | ⟨-, h⟩ | ⟨-, h | h⟩)
      · cases h
      · change 19 = 41 + 26 * k at h
        omega
      · cases h
      · cases h
      · cases h
    have pos : 1 ≤ 19 := by decide
    obtain ⟨_, _, _, _, read⟩ := Msg.read_lookupRes (w := .w32) memory type pos rfl
    rw [dissect_none holds other, length, read] at e
    cases e
  · intro nowrap
    cases read : Msg.read w memory buffer.length with
    | some m =>
      have length := Msg.read_length read short nowrap
      rw [eq_of_holds holds (Msg.read_eq_some_iff.mp read).1 length.symm, dissect_bytes]
      rfl
    | none =>
      apply dissect_none holds
      intro shape
      obtain ⟨m, rfl⟩ := shape_bytes holds shape
      rw [Msg.read_bytes holds short] at read
      cases read

/-- A datagram that does not. -/
lemma dissect_long (holds : Holds memory 0 buffer) (long : MSG_MTU < buffer.length) :
    dissect W buffer = .ok none ↔ ¬ Overlong (memory 0) buffer.length := by
  constructor
  · rintro e ⟨type, -, k, length⟩
    obtain ⟨m, rfl⟩ := shape_bytes holds (.inr (.inl ⟨type, k, length⟩))
    rw [dissect_bytes] at e
    cases e
  · intro fits
    apply dissect_none holds
    intro shape
    obtain ⟨m, rfl⟩ := shape_bytes holds shape
    obtain ⟨srcid, dstid, nodes, rfl⟩ := length_short long
    simp only [Msg.bytes, holds_cons] at holds
    exact fits ⟨holds.1, long, nodes.length, by rw [Msg.bytes_length]⟩

/-- The dissector and the client agree on a datagram, of which the client sees what fits into its
    buffer, unless it is a response that does not fit or one that only the 32-bit check lets pass. -/
theorem dissect_iff (W : Wireshark) (w : WordSize) (memory : Nat → UInt8) (datagram : List UInt8)
    (received : Holds memory 0 (datagram.take MSG_MTU)) :
    dissect W datagram =
        .ok ((Msg.read w memory (datagram.take MSG_MTU).length).map (describe W)) ↔
      ¬ Overlong (memory 0) datagram.length ∧ ¬ Msg.Wraps w (memory 0) datagram.length := by
  rcases Nat.lt_or_ge MSG_MTU datagram.length with long | short
  · obtain ⟨memory', holds⟩ := exists_holds datagram
    have first : memory 0 = memory' 0 := by
      have pos : 0 < datagram.length := Nat.lt_of_le_of_lt (Nat.zero_le _) long
      rw [holds 0 pos, received 0 (by rw [List.length_take]; exact Nat.lt_min.mpr ⟨by decide, pos⟩),
        List.getElem_take]
    have nowrap : ¬ Msg.Wraps w (memory 0) datagram.length := by
      rintro ⟨-, -, length⟩
      rw [length] at long
      exact absurd long (by decide)
    have full : (datagram.take MSG_MTU).length = MSG_MTU := by
      rw [List.length_take, Nat.min_eq_left (Nat.le_of_lt long)]
    rw [full, read_full, Option.map_none, first, dissect_long holds long]
    exact (and_iff_left (first ▸ nowrap)).symm
  · rw [List.take_of_length_le short] at received ⊢
    rw [dissect_short received short]
    refine (and_iff_right ?_).symm
    rintro ⟨-, long, -⟩
    exact Nat.lt_irrefl _ (Nat.lt_of_lt_of_le long short)

/-- A response of nineteen bytes is shown by nobody, and read by a client on a 32-bit platform. -/
theorem dissect_iff_truncated : ∃ memory datagram, Holds memory 0 (datagram.take MSG_MTU) ∧
    dissect ⟨fun _ => "", fun _ => ""⟩ datagram ≠
      .ok ((Msg.read .w32 memory (datagram.take MSG_MTU).length).map
        (describe ⟨fun _ => "", fun _ => ""⟩)) := by
  obtain ⟨memory, holds⟩ := exists_holds (MSG_LOOKUP_RES :: List.replicate 18 0)
  have received : Holds memory 0 ((MSG_LOOKUP_RES :: List.replicate 18 0).take MSG_MTU) := holds
  refine ⟨memory, _, received, fun e => ?_⟩
  exact ((dissect_iff _ .w32 memory _ received).mp e).2 ⟨rfl, holds 0 (by decide), by decide⟩

end Dissector

namespace DhtClient
open Dissector

variable (S : Sodium) (w : WordSize) (random : Nat → DhtKey) (key : DhtKey)

/-- Every datagram of a client is at most 457 bytes long, and is the message that it was made from to
    clients on both platforms and to the dissector. -/
theorem sends_readable (W : Wireshark) (events : List (Env × Event)) :
    ∀ socket dest msg, .sendTo socket dest msg ∈ (run S w random key events).log →
      msg.bytes.length ≤ sizeofMsgLookup + sizeofMsgNode * DHT_NODE_COUNT ∧
      (∀ w' memory, Holds memory 0 msg.bytes → Msg.read w' memory msg.bytes.length = some msg) ∧
      dissect W msg.bytes = .ok (some (describe W msg)) := by
  intro socket dest msg mem
  have short : msg.bytes.length ≤ sizeofMsgLookup + sizeofMsgNode * DHT_NODE_COUNT := by
    have proper := log_proper S w random key events _ mem
    rw [Msg.bytes_length]
    cases msg with
    | lookupRes srcid dstid nodes =>
      exact Nat.add_le_add_left (Nat.mul_le_mul_left _ proper.2.length) _
    | _ => dsimp only; decide
  refine ⟨short, fun w' memory holds => ?_, dissect_bytes msg⟩
  exact Msg.read_bytes holds (Nat.le_trans short (by decide))

/-- The reply to a first request is readable. -/
theorem sends_readable_greeted : ∃ msg ∈ (run Sodium.transparent .w64 (fun _ => ⟨fun _ => 0⟩)
      ⟨fun i => if i.val = 0 then 1 else 0⟩ greeted).sent,
    dissect ⟨fun _ => "", fun _ => ""⟩ msg.bytes = .ok (some (describe ⟨fun _ => "", fun _ => ""⟩ msg)) := by
  have found : (run Sodium.transparent .w64 (fun _ => ⟨fun _ => 0⟩)
      ⟨fun i => if i.val = 0 then 1 else 0⟩ greeted).sent.isEmpty = false := by decide +kernel
  obtain ⟨msg, mem⟩ := List.isEmpty_eq_false_iff_exists_mem.mp found
  obtain ⟨_, _, logged⟩ := sent_log mem
  exact ⟨msg, mem, (sends_readable _ _ _ _ _ _ _ _ _ logged).2.2⟩

end DhtClient

end Nanotalk
