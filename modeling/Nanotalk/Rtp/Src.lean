import Nanotalk.Lib.Rollover
import Nanotalk.Rtp.Sink

/-!
# The RTP receiver

Model of `src/rtp-src.c`. `RtpSrc.receive` is one round of the loop of C `rtp_src_create`, which
takes one datagram from the socket, and `RtpSrc.create` the loop. The receiver is not sent the
roll-over counter: `guessRoc` extends the sequence number of a packet from the last packet of the
same SSRC that passed authentication.

* `guessRoc_toNat`: the guess is `Rollover.extend` on the numbers.
* `receive_sealPacket`: a packet sealed under the nonce that the receiver computes is accepted, and
  the buffer pushed is the packet that was sealed.
-/

namespace Nanotalk
open Glib

/-- C `PACKET_MTU`. -/
abbrev PACKET_MTU : Nat := 1500

/-- C `struct _RtpStream`. -/
structure RtpStream where
  roc : UInt64
  seqLast : UInt16

/-- C `struct _RtpSrc`: the key, the stream table and the switch. -/
structure RtpSrc where
  key : DhtKey
  streams : UInt32 → Option RtpStream
  enable : Bool

/-- What `g_socket_receive` yields, with the answer of the buffer allocator in case it is asked. -/
inductive Received where
  | datagram (data : List UInt8) (allocated : Bool)
  | cancelled
  | failed (message : String)

/-- What C `rtp_src_create` pushes, posts and returns. -/
structure Created where
  flow : GstFlowReturn
  buffer : Option (List UInt8)
  errors : List ElementError
  deriving DecidableEq

/-- The comment `Roll-over counter logic`. -/
def guessRoc (stream : Option RtpStream) (seq : UInt16) : UInt64 :=
  let seqLast := (stream.map RtpStream.seqLast).getD 0
  let roc := (stream.map RtpStream.roc).getD 0
  let roc := if seqLast < 0x8000 ∧ seqLast.toNat + 0x8000 < seq.toNat ∧ roc > 0 then roc - 1 else roc
  if seqLast > 0x7FFF ∧ seqLast.toNat - 0x8000 > seq.toNat ∧ roc < 0x1000000000000 then roc + 1
  else roc

namespace RtpSrc

/-- C `rtp_src_init`. -/
def init (key : DhtKey) : RtpSrc := ⟨key, fun _ => none, true⟩

/-- The roll-over counter for a packet. -/
def roc (src : RtpSrc) (packet : List UInt8) : UInt64 :=
  guessRoc (src.streams (readUInt32BE packet 8)) (readUInt16BE packet 2)

/-- The nonce for a packet. -/
def nonce (src : RtpSrc) (packet : List UInt8) : Bytes 12 :=
  rtpNonce (src.roc packet) (readUInt16BE packet 2) (readUInt32BE packet 8)

/-- The call of C `dht_stream_verify`: the last 16 bytes of a packet are the tag of the others. -/
def verify (S : Sodium) (src : RtpSrc) (packet : List UInt8) : Bool :=
  let len := packet.length - 16
  dhtStreamVerify S (fun i => packet.getD (len + i) 0) (packet.take len) (src.nonce packet) src.key

/-- One round of the loop of C `rtp_src_create`, `none` where it continues. -/
def receive (S : Sodium) (src : RtpSrc) : Received → RtpSrc × Option Created
  | .cancelled => (src, some ⟨.flushing, none, []⟩)
  | .failed message => (src, some ⟨.error, none, [.resourceRead message]⟩)
  | .datagram data allocated =>
    let packet := data.take PACKET_MTU
    if packet.length = 0 ∨ src.enable = false then (src, none)
    else if packet.length > 28 ∧ packet.getD 0 0 = 0x80 then
      if src.verify S packet then
        -- Update stream state
        let stream := ⟨src.roc packet, readUInt16BE packet 2⟩
        let src' := { src with
          streams := Function.update src.streams (readUInt32BE packet 8) (some stream) }
        if allocated then
          let body := packet.take (packet.length - 16)
          let buffer := body.take 12 ++ dhtStreamXor S (body.drop 12) (src.nonce packet) src.key
          (src', some ⟨.ok, some buffer, []⟩)
        else (src', some ⟨.error, none, []⟩)
      else (src, none)
    else (src, none)

/-- C `rtp_src_create` on the datagrams that arrive, with those it leaves; the result is `none` while
    it waits. -/
def create (S : Sodium) (src : RtpSrc) : List Received → RtpSrc × List Received × Option Created
  | [] => (src, [], none)
  | r :: rs =>
    match src.receive S r with
    | (src, some created) => (src, rs, some created)
    | (src, none) => create S src rs

end RtpSrc

/-! ## The roll-over counter logic -/

/-- The guess, on numbers. -/
lemma guessRoc_toNat (stream : Option RtpStream) (seq : UInt16) :
    (guessRoc stream seq).toNat = Rollover.extend (2 ^ 15) (2 ^ 48)
      ((stream.map RtpStream.seqLast).getD 0).toNat ((stream.map RtpStream.roc).getD 0).toNat
      seq.toNat := by
  unfold guessRoc Rollover.extend
  generalize (stream.map RtpStream.seqLast).getD 0 = last
  generalize (stream.map RtpStream.roc).getD 0 = roc
  have l1 : last < 0x8000 ↔ last.toNat < 2 ^ 15 := UInt16.lt_iff_toNat_lt
  have l2 : last > 0x7FFF ↔ 2 ^ 15 ≤ last.toNat := UInt16.lt_iff_toNat_lt
  have r1 : roc > 0 ↔ 0 < roc.toNat := UInt64.lt_iff_toNat_lt
  have r2 : roc < 0x1000000000000 ↔ roc.toNat < 2 ^ 48 := UInt64.lt_iff_toNat_lt
  dsimp only
  by_cases down : last < 0x8000 ∧ last.toNat + 0x8000 < seq.toNat ∧ roc > 0
  · have no : ¬ last > 0x7FFF := by rw [l2]; have := l1.mp down.1; omega
    rw [if_pos down, if_neg (fun h => no h.1), if_pos ⟨l1.mp down.1, down.2.1, r1.mp down.2.2⟩]
    have one : (1 : UInt64) ≤ roc := UInt64.le_iff_toNat_le.mpr (r1.mp down.2.2)
    exact UInt64.toNat_sub_of_le _ _ one
  · have no : ¬ (last.toNat < 2 ^ 15 ∧ last.toNat + 2 ^ 15 < seq.toNat ∧ 0 < roc.toNat) := by
      rintro ⟨h1, h2, h3⟩
      exact down ⟨l1.mpr h1, h2, r1.mpr h3⟩
    rw [if_neg down, if_neg no]
    by_cases up : last > 0x7FFF ∧ last.toNat - 0x8000 > seq.toNat ∧ roc < 0x1000000000000
    · have lt := r2.mp up.2.2
      rw [if_pos up, if_pos ⟨l2.mp up.1, up.2.1, lt⟩, UInt64.toNat_add]
      exact Nat.mod_eq_of_lt (by simp; omega)
    · have no : ¬ (2 ^ 15 ≤ last.toNat ∧ seq.toNat < last.toNat - 2 ^ 15 ∧ roc.toNat < 2 ^ 48) := by
        rintro ⟨h1, h2, h3⟩
        exact up ⟨l2.mpr h1, h2, r2.mpr h3⟩
      rw [if_neg up, if_neg no]

/-- The stream state after the packet of index `R`. -/
def RtpStream.at (R : Nat) : RtpStream := ⟨UInt64.ofNat (R / 2 ^ 16), UInt16.ofNat (R % 2 ^ 16)⟩

/-- A packet within half the range of the last one gets the sender's roll-over counter. -/
lemma guessRoc_near {R E : Nat} {seq : UInt16} (lo : R < E + 2 ^ 15) (hi : E < R + 2 ^ 15)
    (boundR : R < 2 ^ 64) (boundE : E < 2 ^ 64) (eq : seq.toNat = E % 2 ^ 16) :
    guessRoc (some (RtpStream.at R)) seq = UInt64.ofNat (E / 2 ^ 16) := by
  rw [← UInt64.toNat_inj, guessRoc_toNat]
  simp only [Option.map_some, Option.getD_some, RtpStream.at, UInt64.toNat_ofNat',
    UInt16.toNat_ofNat', eq]
  rw [Nat.mod_mod, Nat.mod_eq_of_lt (show R / 2 ^ 16 < 2 ^ 64 by omega),
    Nat.mod_eq_of_lt (show E / 2 ^ 16 < 2 ^ 64 by omega)]
  exact Rollover.extend_near (H := 2 ^ 15) lo hi (by omega)

/-- The first packet of a stream gets the sender's roll-over counter while that is zero. -/
lemma guessRoc_first {E : Nat} {seq : UInt16} (lt : E < 2 ^ 16) (eq : seq.toNat = E % 2 ^ 16) :
    guessRoc none seq = UInt64.ofNat (E / 2 ^ 16) := by
  rw [← UInt64.toNat_inj, guessRoc_toNat, eq, UInt64.toNat_ofNat',
    Nat.mod_eq_of_lt (show E / 2 ^ 16 < 2 ^ 64 by omega)]
  exact Rollover.extend_first (H := 2 ^ 15) lt

/-! ## Packets of the sender -/

section Sealed

variable (S : Sodium) (key : DhtKey) (nonce : Bytes 12) {data : List UInt8}

/-- The header and the encrypted payload of a sealed packet. -/
abbrev sealedBody (S : Sodium) (key : DhtKey) (nonce : Bytes 12) (data : List UInt8) : List UInt8 :=
  data.take 12 ++ dhtStreamXor S (data.drop 12) nonce key

lemma sealPacket_eq : sealPacket S key nonce data =
    sealedBody S key nonce data ++ (dhtStreamAuth S (sealedBody S key nonce data) nonce key).toList :=
  rfl

lemma sealedBody_length : (sealedBody S key nonce data).length = data.length := by
  simp only [List.length_append, List.length_take, dhtStreamXor_length, List.length_drop]
  omega

lemma sealPacket_length : (sealPacket S key nonce data).length = data.length + 16 := by
  rw [sealPacket_eq, List.length_append, sealedBody_length, Bytes.toList_length]

/-- The header is sent as it is. -/
lemma sealPacket_getD {i : Nat} (lt : i < 12) (long : 12 < data.length) :
    (sealPacket S key nonce data).getD i 0 = data.getD i 0 := by
  have l1 : i < (data.take 12).length := by simp; omega
  rw [sealPacket_eq, List.append_assoc, List.getD_append _ _ _ _ l1, List.getD_eq_getElem?_getD,
    List.getElem?_take_of_lt lt, List.getD_eq_getElem?_getD]

lemma sealPacket_seq (long : 12 < data.length) :
    readUInt16BE (sealPacket S key nonce data) 2 = readUInt16BE data 2 := by
  have e : ∀ i < 12, (sealPacket S key nonce data).getD i 0 = data.getD i 0 :=
    fun i lt => sealPacket_getD S key nonce lt long
  simp only [readUInt16BE, e 2 (by omega), e (2 + 1) (by omega)]

lemma sealPacket_ssrc (long : 12 < data.length) :
    readUInt32BE (sealPacket S key nonce data) 8 = readUInt32BE data 8 := by
  have e : ∀ i < 12, (sealPacket S key nonce data).getD i 0 = data.getD i 0 :=
    fun i lt => sealPacket_getD S key nonce lt long
  simp only [readUInt32BE, e 8 (by omega), e (8 + 1) (by omega), e (8 + 2) (by omega),
    e (8 + 3) (by omega)]

/-- Without its tag. -/
lemma sealPacket_take : (sealPacket S key nonce data).take
    ((sealPacket S key nonce data).length - 16) = sealedBody S key nonce data := by
  rw [sealPacket_length, Nat.add_sub_cancel, sealPacket_eq,
    ← sealedBody_length S key nonce, List.take_left]

/-- The tag. -/
lemma sealPacket_tag : (fun i : Fin 16 => (sealPacket S key nonce data).getD
    ((sealPacket S key nonce data).length - 16 + i) 0) =
      dhtStreamAuth S (sealedBody S key nonce data) nonce key := by
  funext i
  rw [sealPacket_length, Nat.add_sub_cancel, sealPacket_eq, List.getD_append_right _ _ _ _
    (by rw [sealedBody_length]; omega), sealedBody_length, Nat.add_sub_cancel_left,
    Bytes.toList_getD]

/-- Decryption gives back the packet. -/
lemma sealedBody_open (long : 12 ≤ data.length) : (sealedBody S key nonce data).take 12 ++
    dhtStreamXor S ((sealedBody S key nonce data).drop 12) nonce key = data := by
  have l : (data.take 12).length = 12 := by simpa using long
  rw [List.take_append_of_le_length l.ge, List.drop_append_of_le_length l.ge, List.take_take]
  simp

/-- The datagram of a packet that the receiver decrypts under the sender's nonce is accepted, and the
    buffer pushed is the packet. -/
lemma receive_sealPacket {src : RtpSrc} (alloc : Bool) (en : src.enable = true)
    (rtp : IsRtp data) (short : data.length + 16 ≤ PACKET_MTU)
    (eq : nonce = rtpNonce (guessRoc (src.streams (readUInt32BE data 8)) (readUInt16BE data 2))
      (readUInt16BE data 2) (readUInt32BE data 8)) :
    src.verify S (sealPacket S src.key nonce data) = true ∧
    src.nonce (sealPacket S src.key nonce data) = nonce ∧
    src.receive S (.datagram (sealPacket S src.key nonce data) alloc) =
      ({ src with
          streams := Function.update src.streams (readUInt32BE data 8)
            (some ⟨guessRoc (src.streams (readUInt32BE data 8)) (readUInt16BE data 2),
              readUInt16BE data 2⟩) },
        some (if alloc then ⟨.ok, some data, []⟩ else ⟨.error, none, []⟩)) := by
  have eroc : src.roc (sealPacket S src.key nonce data) =
      guessRoc (src.streams (readUInt32BE data 8)) (readUInt16BE data 2) := by
    rw [RtpSrc.roc, sealPacket_ssrc _ _ _ rtp.1, sealPacket_seq _ _ _ rtp.1]
  have en' : src.nonce (sealPacket S src.key nonce data) = nonce := by
    rw [RtpSrc.nonce, eroc, sealPacket_ssrc _ _ _ rtp.1, sealPacket_seq _ _ _ rtp.1, eq]
  have ver : src.verify S (sealPacket S src.key nonce data) = true := by
    unfold RtpSrc.verify
    dsimp only
    rw [sealPacket_take, sealPacket_tag, en', dhtStreamVerify]
    exact decide_eq_true rfl
  refine ⟨ver, en', ?_⟩
  have len : (sealPacket S src.key nonce data).length = data.length + 16 := sealPacket_length _ _ _
  have full : (sealPacket S src.key nonce data).take PACKET_MTU = sealPacket S src.key nonce data :=
    List.take_of_length_le (by omega)
  have first : (sealPacket S src.key nonce data).getD 0 0 = 0x80 :=
    (sealPacket_getD _ _ _ (by omega) rtp.1).trans rtp.2
  unfold RtpSrc.receive
  dsimp only
  have long := rtp.1
  rw [full, if_neg (by simp [en, len]), if_pos ⟨by omega, first⟩, if_pos ver, eroc, en',
    sealPacket_seq _ _ _ rtp.1, sealPacket_ssrc _ _ _ rtp.1, sealPacket_take,
    sealedBody_open _ _ _ long.le]
  cases alloc <;> rfl

end Sealed

end Nanotalk
