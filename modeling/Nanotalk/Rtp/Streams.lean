import Nanotalk.Lib.Purge
import Nanotalk.Rtp.Delivery

/-!
# Streams side by side

The receiver keeps a roll-over counter for each SSRC in one table. Its streams do not touch each
other: the buffers that it makes of the datagrams of one SSRC, and what it keeps of them, are those of a
receiver that gets no others (`creates_alone`). The calls of C `rtp_src_create` return what the rounds
of its loop give (`creates_rounds`).
-/

namespace Nanotalk
open Glib

namespace RtpSrc

/-- What happens to a receiver. -/
inductive Event where
  | receive (received : Received)
  /-- C `rtp_src_set_property` for `PROP_ENABLE` -/
  | setEnable (enable : Bool)

/-- A receiver takes an event. -/
def take (S : Sodium) (src : RtpSrc) : Event → RtpSrc × Option Created
  | .receive received => src.receive S received
  | .setEnable enable => ({ src with enable := enable }, none)

/-- The SSRC in the header of what is received. -/
def ssrc (received : Received) : UInt32 := readUInt32BE received.packet 8

/-- What concerns the stream of an SSRC. -/
def concerns (n : UInt32) : Event → Bool
  | .receive received => ssrc received = n
  | .setEnable _ => true

/-- Two receivers that are the same for one SSRC. -/
structure Alike (n : UInt32) (src src' : RtpSrc) : Prop where
  key : src.key = src'.key
  enable : src.enable = src'.enable
  stream : src.streams n = src'.streams n

variable {S : Sodium} {src src' : RtpSrc} {n : UInt32} {r : Received}

lemma Alike.refl (n : UInt32) (src : RtpSrc) : Alike n src src := ⟨rfl, rfl, rfl⟩

section Same

variable {packet : List UInt8} (A : Alike (readUInt32BE packet 8) src src')

include A

lemma Alike.roc : src.roc packet = src'.roc packet := by
  rw [RtpSrc.roc, RtpSrc.roc, A.stream]

lemma Alike.nonce : src.nonce packet = src'.nonce packet := by
  rw [RtpSrc.nonce, RtpSrc.nonce, A.roc]

lemma Alike.verify : src.verify S packet = src'.verify S packet := by
  rw [RtpSrc.verify, RtpSrc.verify, A.nonce, A.key]

end Same

/-- Both do the same with a datagram of the SSRC. -/
lemma Alike.seen (A : Alike n src src') (own : ssrc r = n) :
    (src.receive S r).2 = (src'.receive S r).2 ∧
      Alike n (src.receive S r).1 (src'.receive S r).1 := by
  subst own
  cases r with
  | cancelled => exact ⟨rfl, A⟩
  | failed message => exact ⟨rfl, A⟩
  | datagram data allocated =>
    have A : Alike (readUInt32BE (data.take PACKET_MTU) 8) src src' := A
    unfold receive
    dsimp only
    rw [A.enable, A.verify, A.roc, A.nonce, A.key]
    split
    · exact ⟨rfl, A⟩
    · split
      · split
        · have stream : ∀ stream : Option RtpStream,
              Function.update src.streams (readUInt32BE (data.take PACKET_MTU) 8) stream
                (readUInt32BE (data.take PACKET_MTU) 8) =
              Function.update src'.streams (readUInt32BE (data.take PACKET_MTU) 8) stream
                (readUInt32BE (data.take PACKET_MTU) 8) := by
            intro stream
            rw [Function.update_self, Function.update_self]
          split
          · exact ⟨rfl, rfl, rfl, stream _⟩
          · exact ⟨rfl, rfl, rfl, stream _⟩
        · exact ⟨rfl, A⟩
      · exact ⟨rfl, A⟩

/-- A datagram of another SSRC leaves the stream alone. -/
lemma Alike.unseen (A : Alike n src src') (other : ssrc r ≠ n) :
    Alike n (src.receive S r).1 src' := by
  by_cases accepted : src.Accepts S r
  · rw [(receive_of_accepts accepted).1]
    exact ⟨A.key, A.enable, (Function.update_of_ne other.symm _ _).trans A.stream⟩
  · rw [(receive_of_not_accepts accepted).1]
    exact A

/-- Packets of other streams can be left out. -/
lemma unwinds_take (S : Sodium) (n : UInt32) : Purge.Unwinds (take S) (concerns n) (Alike n) where
  seen src src' e see A := by
    cases e with
    | receive received => exact A.seen (of_decide_eq_true see)
    | setEnable enable => exact ⟨rfl, A.key, rfl, A.stream⟩
  unseen src src' e see A := by
    cases e with
    | receive received => exact A.unseen (of_decide_eq_false see)
    | setEnable enable => cases see

/-! ## Calls -/

/-- The calls of C `rtp_src_create`, at most `k` of them, until one waits. -/
def creates (S : Sodium) : Nat → RtpSrc → List Received → RtpSrc × List Created
  | 0, src, _ => (src, [])
  | k + 1, src, rs =>
    match create S src rs with
    | (src, rest, some created) =>
      ((creates S k src rest).1, created :: (creates S k src rest).2)
    | (src, _, none) => (src, [])

/-- The calls return what the rounds give. -/
theorem creates_rounds (S : Sodium) (src : RtpSrc) (rs : List Received) {k : Nat}
    (enough : rs.length ≤ k) : creates S k src rs =
      (Purge.final (take S) src (rs.map .receive),
        (Purge.trace (take S) src (rs.map .receive)).filterMap Prod.snd) := by
  induction rs generalizing k src with
  | nil => cases k <;> rfl
  | cons r rs ih =>
    cases k with
    | zero => cases enough
    | succ k =>
      have le : rs.length ≤ k := Nat.le_of_succ_le_succ enough
      obtain ⟨src', created, e⟩ : ∃ src' created, src.receive S r = (src', created) := ⟨_, _, rfl⟩
      have rest : (Purge.trace (take S) src ((r :: rs).map .receive)).filterMap Prod.snd =
          created.toList ++ (Purge.trace (take S) src' (rs.map .receive)).filterMap Prod.snd := by
        show List.filterMap Prod.snd ((Event.receive r, (src.receive S r).2) ::
          Purge.trace (take S) (src.receive S r).1 (rs.map .receive)) = _
        rw [e]
        cases created <;> rfl
      have last : Purge.final (take S) src ((r :: rs).map .receive) =
          Purge.final (take S) src' (rs.map .receive) := by
        show Purge.final (take S) (src.receive S r).1 (rs.map .receive) = _
        rw [e]
      rw [rest, last]
      cases created with
      | some created =>
        have called : create S src (r :: rs) = (src', rs, some created) := by
          rw [create, e]
        rw [creates, called]
        dsimp only
        rw [ih src' le]
        rfl
      | none =>
        have called : create S src (r :: rs) = create S src' rs := by
          rw [create, e]
        rw [creates, called, ← creates, ih src' (Nat.le_succ_of_le le)]
        rfl

/-- A buffer has the SSRC of the datagram that it is made of. -/
lemma ssrc_of_buffer {buffer : List UInt8}
    (pushed : (src.receive S r).2.bind Created.buffer = some buffer) :
    readUInt32BE buffer 8 = ssrc r := by
  have accepted : src.Accepts S r := by
    by_contra no
    rw [(receive_of_not_accepts no).2] at pushed
    cases pushed
  rw [(receive_of_accepts accepted).2 buffer pushed]
  have long := accepted.2.1
  have header : ∀ i < 12, (src.openPacket S r.packet).getD i 0 = r.packet.getD i 0 := by
    intro i lt
    have inside : i < ((r.packet.take (r.packet.length - 16)).take 12).length := by
      rw [List.length_take, List.length_take]
      omega
    rw [openPacket, List.getD_append _ _ _ _ inside, List.getD_eq_getElem?_getD,
      List.getElem?_take_of_lt lt, List.getElem?_take_of_lt (by omega), List.getD_eq_getElem?_getD]
  simp only [ssrc, readUInt32BE, header 8 (by omega), header (8 + 1) (by omega),
    header (8 + 2) (by omega), header (8 + 3) (by omega)]

/-- The buffer that a round gives. -/
def made (x : Event × Option Created) : Option (List UInt8) := x.2.bind Created.buffer

/-- The buffers of an SSRC are those that are made of its datagrams. -/
lemma filter_buffers (n : UInt32) (l : List (Event × Option Created))
    (own : ∀ x ∈ l, ∀ buffer, made x = some buffer →
      (concerns n x.1 = true ↔ readUInt32BE buffer 8 = n)) :
    (l.filterMap made).filter (fun b => readUInt32BE b 8 = n) =
      (l.filter fun x => concerns n x.1).filterMap made := by
  induction l with
  | nil => rfl
  | cons x l ih =>
    have ih := ih fun y mem => own y (List.mem_cons_of_mem _ mem)
    cases pushed : made x with
    | none =>
      rw [List.filterMap_cons_none pushed, ih, List.filter_cons]
      split
      · rw [List.filterMap_cons_none pushed]
      · rfl
    | some buffer =>
      have same := own x List.mem_cons_self buffer pushed
      rw [List.filterMap_cons_some pushed, List.filter_cons, List.filter_cons]
      by_cases concerned : concerns n x.1 = true
      · rw [if_pos concerned, if_pos (decide_eq_true (same.mp concerned)),
          List.filterMap_cons_some pushed, ih]
      · rw [if_neg concerned, ih]
        exact if_neg fun h => concerned (same.mpr (of_decide_eq_true h))

/-- What is created is what the trace has made. -/
lemma creates_buffers (S : Sodium) (src : RtpSrc) (rs : List Received) :
    (creates S rs.length src rs).2.filterMap Created.buffer =
      (Purge.trace (take S) src (rs.map .receive)).filterMap made := by
  rw [creates_rounds S src rs (Nat.le_refl _), List.filterMap_filterMap]
  rfl

/-- The buffers of an SSRC that the calls of C `rtp_src_create` return, and the stream that is kept for
    it, are those of a receiver that gets the datagrams of this SSRC only, whatever arrives between
    them. -/
theorem creates_alone (S : Sodium) (src : RtpSrc) (rs : List Received) (n : UInt32) :
    let own := rs.filter fun r => ssrc r = n
    (((creates S rs.length src rs).2.filterMap Created.buffer).filter fun b => readUInt32BE b 8 = n) =
      (creates S own.length src own).2.filterMap Created.buffer ∧
    (creates S rs.length src rs).1.streams n = (creates S own.length src own).1.streams n := by
  intro own
  have filtered : (rs.map Event.receive).filter (concerns n) = own.map Event.receive := List.filter_map
  obtain ⟨trace, alike⟩ := (unwinds_take S n).purge (Alike.refl n src) (rs.map .receive)
  rw [filtered] at trace alike
  constructor
  · rw [creates_buffers, creates_buffers, ← trace]
    apply filter_buffers
    intro x mem buffer pushed
    obtain ⟨src', e⟩ := Purge.exists_of_mem_trace mem
    rw [made, ← e] at pushed
    obtain ⟨event, created⟩ := x
    cases event with
    | receive r =>
      have same : readUInt32BE buffer 8 = ssrc r := ssrc_of_buffer pushed
      rw [same]
      exact decide_eq_true_iff
    | setEnable enable => cases pushed
  · rw [creates_rounds S src rs (Nat.le_refl _), creates_rounds S src own (Nat.le_refl _)]
    exact alike.stream

end RtpSrc

end Nanotalk
