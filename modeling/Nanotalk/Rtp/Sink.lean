import Nanotalk.Rtp.Packet
import Mathlib.Data.List.Count
import Mathlib.Logic.Function.Basic

/-!
# The RTP sender

Model of `src/rtp-sink.c`. `RtpSink.render` is C `rtp_sink_render`: it encrypts one RTP packet under
a nonce made of the roll-over counter, the sequence number and the SSRC, and counts a roll-over
whenever it has encrypted the packet numbered `65535`. Posting the error of the key utilization
limit does not stop the element.

A `SinkRun` is a run of any number of sinks that share a key, each with an SSRC of its own and
numbering its packets consecutively.

* `sinksAfter_eq`: the roll-over counter counts the encrypted packets numbered `65535`.
* `SinkRun.nonces_nodup_iff`: exactly when no nonce is used twice.
-/

namespace Nanotalk
open Glib

/-- C `struct _RtpSink`, without the socket. -/
structure RtpSink where
  key : DhtKey
  roc : UInt64

/-- `GstFlowReturn`. -/
inductive GstFlowReturn where
  | ok
  | error
  | flushing
  deriving DecidableEq

/-- A datagram given to `g_socket_send`, with the nonce it was encrypted under. -/
structure SealedPacket where
  nonce : Bytes 12
  datagram : List UInt8

/-- What C `rtp_sink_render` sends, posts and returns. -/
structure Rendered where
  sent : Option SealedPacket
  errors : List ElementError
  flow : GstFlowReturn

/-- A buffer that passes the header check of C `rtp_sink_render`. -/
def IsRtp (data : List UInt8) : Prop := 12 < data.length ∧ data.getD 0 0 = 0x80

instance (data : List UInt8) : Decidable (IsRtp data) := inferInstanceAs (Decidable (_ ∧ _))

/-- Encryption and authentication of an RTP packet. -/
def sealPacket (S : Sodium) (key : DhtKey) (nonce : Bytes 12) (data : List UInt8) : List UInt8 :=
  let packet := data.take 12 ++ dhtStreamXor S (data.drop 12) nonce key
  packet ++ (dhtStreamAuth S packet nonce key).toList

/-- C `rtp_sink_render`. The buffer is `none` where `gst_buffer_map` fails, and `sendError` is the
    message of the error `g_socket_send` reports, if any. -/
def RtpSink.render (S : Sodium) (sink : RtpSink) (buffer : Option (List UInt8))
    (sendError : Option String) : RtpSink × Rendered :=
  match buffer with
  | some data =>
    if IsRtp data then
      let seq := readUInt16BE data 2
      let ssrc := readUInt32BE data 8
      let nonce := rtpNonce sink.roc seq ssrc
      let roc := if seq = 0xFFFF then sink.roc + 1 else sink.roc
      let limit := if seq = 0xFFFF ∧ roc = (1 : UInt64) <<< 48 then
        [ElementError.streamDecrypt "Key utilization limit was reached"] else []
      let write := sendError.toList.map ElementError.resourceWrite
      ({ sink with roc := roc },
        ⟨some ⟨nonce, sealPacket S sink.key nonce data⟩, limit ++ write, .ok⟩)
    else (sink, ⟨none, [.streamFormat "Invalid RTP header"], .ok⟩)
  | none => (sink, ⟨none, [], .error⟩)

/-! ## Runs of several sinks -/

/-- A call of C `rtp_sink_render` on one of several sinks. -/
structure Rendering (ι : Type) where
  sink : ι
  buffer : Option (List UInt8)
  sendError : Option String

namespace Rendering

variable {ι : Type}

/-- The sequence number of the buffer. -/
def seq (r : Rendering ι) : UInt16 := readUInt16BE (r.buffer.getD []) 2

/-- The SSRC of the buffer. -/
def ssrc (r : Rendering ι) : UInt32 := readUInt32BE (r.buffer.getD []) 8

/-- The buffer is mapped and passes the header check. -/
def Accepted (r : Rendering ι) : Prop := r.buffer.any fun data => IsRtp data

instance (r : Rendering ι) : Decidable r.Accepted := inferInstanceAs (Decidable (_ = true))

end Rendering

section Runs

variable {ι : Type} [DecidableEq ι]

/-- The sinks after a sequence of calls, all of them new at its beginning. -/
def sinksAfter (S : Sodium) (key : DhtKey) (rs : List (Rendering ι)) : ι → RtpSink :=
  rs.foldl (fun sinks r =>
    Function.update sinks r.sink ((sinks r.sink).render S r.buffer r.sendError).1) fun _ => ⟨key, 0⟩

/-- The packets of a sink that make it count a roll-over. -/
def rollOvers (k : ι) (rs : List (Rendering ι)) : Nat :=
  rs.countP fun r => r.sink = k ∧ r.Accepted ∧ r.seq = 0xFFFF

/-- A run of sinks that share a key and have distinct SSRCs, where each sink's packets are numbered
    consecutively modulo `2 ^ 16` from some number on. -/
structure SinkRun (ι : Type) [DecidableEq ι] where
  ssrc : ι → UInt32
  distinct : Function.Injective ssrc
  first : ι → UInt16
  renderings : List (Rendering ι)
  carried : ∀ r ∈ renderings, r.Accepted → r.ssrc = ssrc r.sink
  numbered : ∀ i (h : i < renderings.length), renderings[i].Accepted →
    renderings[i].seq.toNat = ((first renderings[i].sink).toNat +
      (renderings.take i).countP fun r => r.sink = renderings[i].sink) % 2 ^ 16

omit [DecidableEq ι] in
/-- What a call does to its sink. -/
lemma render_sink (S : Sodium) (sink : RtpSink) (r : Rendering ι) :
    (sink.render S r.buffer r.sendError).1 =
      { sink with roc := if r.Accepted ∧ r.seq = 0xFFFF then sink.roc + 1 else sink.roc } := by
  obtain ⟨k, buffer, sendError⟩ := r
  cases buffer with
  | none => simp [RtpSink.render, Rendering.Accepted]
  | some data =>
    by_cases h : IsRtp data
    · simp [RtpSink.render, Rendering.Accepted, Rendering.seq, h]
    · simp [RtpSink.render, Rendering.Accepted, h]

omit [DecidableEq ι] in
/-- What a call sends. -/
lemma render_sent (S : Sodium) (sink : RtpSink) (r : Rendering ι) :
    (sink.render S r.buffer r.sendError).2.sent.map SealedPacket.nonce =
      if r.Accepted then some (rtpNonce sink.roc r.seq r.ssrc) else none := by
  obtain ⟨k, buffer, sendError⟩ := r
  cases buffer with
  | none => simp [RtpSink.render, Rendering.Accepted]
  | some data =>
    by_cases h : IsRtp data
    · simp [RtpSink.render, Rendering.Accepted, Rendering.seq, Rendering.ssrc, h]
    · simp [RtpSink.render, Rendering.Accepted, h]

/-- The roll-over counter of a sink counts its encrypted packets numbered `65535`. -/
lemma sinksAfter_eq (S : Sodium) (key : DhtKey) (rs : List (Rendering ι)) (k : ι) :
    sinksAfter S key rs k = ⟨key, UInt64.ofNat (rollOvers k rs)⟩ := by
  induction rs using List.reverseRecOn generalizing k with
  | nil => rfl
  | append_singleton rs r ih =>
    have e : sinksAfter S key (rs ++ [r]) = Function.update (sinksAfter S key rs) r.sink
        ((sinksAfter S key rs r.sink).render S r.buffer r.sendError).1 := by
      rw [sinksAfter, List.foldl_append]
      rfl
    rw [e, rollOvers, List.countP_append]
    by_cases hk : k = r.sink
    · subst hk
      rw [Function.update_self, render_sink, ih]
      by_cases hit : r.Accepted ∧ r.seq = 0xFFFF
      · simp [hit, rollOvers]
      · simp [hit, rollOvers]
    · rw [Function.update_of_ne hk, ih]
      simp [rollOvers, Ne.symm hk]

namespace SinkRun

variable (S : Sodium) (key : DhtKey) (run : SinkRun ι)

/-- What call `i` of a run sends. -/
def sentAt (i : Nat) : Option SealedPacket :=
  run.renderings[i]?.bind fun r =>
    ((sinksAfter S key (run.renderings.take i) r.sink).render S r.buffer r.sendError).2.sent

/-- The nonces of the packets that are encrypted and sent, in this order. -/
def nonces : List (Bytes 12) :=
  (List.range run.renderings.length).filterMap fun i => (run.sentAt S key i).map SealedPacket.nonce

/-- The nonce of call `i`, if it encrypts. -/
lemma nonceAt {i : Nat} (h : i < run.renderings.length) :
    (run.sentAt S key i).map SealedPacket.nonce =
      if run.renderings[i].Accepted then
        some (rtpNonce (UInt64.ofNat (rollOvers run.renderings[i].sink (run.renderings.take i)))
          run.renderings[i].seq (run.ssrc run.renderings[i].sink))
      else none := by
  rw [sentAt, List.getElem?_eq_getElem h, Option.bind_some, render_sent, sinksAfter_eq]
  split
  · rename_i acc
    rw [run.carried _ (List.getElem_mem h) acc]
  · rfl

/-- Two calls of a sink that encrypt packets of the same sequence number. -/
def SameSeq (i j : Nat) : Prop :=
  ∃ (hi : i < run.renderings.length) (hj : j < run.renderings.length),
    run.renderings[i].Accepted ∧ run.renderings[j].Accepted ∧
      run.renderings[i].sink = run.renderings[j].sink ∧ run.renderings[i].seq = run.renderings[j].seq

/-- The roll-overs of the sink of call `i` up to call `n`. -/
def rollOversUpTo (i n : Nat) : Nat :=
  (run.renderings[i]?.map fun r => rollOvers r.sink (run.renderings.take n)).getD 0

/-- No nonce is used twice exactly where two packets of one sink with the same sequence number are
    always apart by a number of roll-overs that is not a multiple of `2 ^ 48`. -/
lemma nodup_iff : (run.nonces S key).Nodup ↔
    ∀ i j, i < j → run.SameSeq i j →
      run.rollOversUpTo i i % 2 ^ 48 ≠ run.rollOversUpTo i j % 2 ^ 48 := by
  have roc : ∀ n : Nat, (UInt64.ofNat n).toNat % 2 ^ 48 = n % 2 ^ 48 := by
    intro n
    rw [UInt64.toNat_ofNat']
    exact Nat.mod_mod_of_dvd n (by decide)
  unfold nonces List.Nodup
  rw [List.pairwise_filterMap, List.pairwise_iff_getElem]
  constructor
  · intro nd i j lt ⟨hi, hj, ai, aj, es, eq⟩ same
    have ne := nd i j (by simpa using hi) (by simpa using hj) lt
    simp only [List.getElem_range, run.nonceAt S key hi, run.nonceAt S key hj, ai, aj, if_true] at ne
    refine ne _ rfl _ rfl (rtpNonce_inj.mpr ⟨?_, eq, by rw [es]⟩)
    rw [roc, roc, ← es]
    simpa [rollOversUpTo, hi] using same
  · intro apart i j hi hj lt
    have hi : i < run.renderings.length := by simpa using hi
    have hj : j < run.renderings.length := by simpa using hj
    simp only [List.getElem_range, run.nonceAt S key hi, run.nonceAt S key hj]
    rintro a ea b eb rfl
    split at ea
    · split at eb
      · rename_i ai aj
        cases ea
        obtain ⟨er, es, ek⟩ := rtpNonce_inj.mp (Option.some.inj eb)
        have ek := run.distinct ek
        refine apart i j lt ⟨hi, hj, ai, aj, ek.symm, es.symm⟩ ?_
        rw [roc, roc, ek] at er
        simpa [rollOversUpTo, hi] using er.symm
      · cases eb
    · cases ea

/-- Every buffer of the run is an RTP packet. -/
def WellFormed : Prop := ∀ r ∈ run.renderings, r.Accepted

/-- The number of packets given to sink `k` before call `n`. -/
def countUpTo (k : ι) (n : Nat) : Nat := (run.renderings.take n).countP fun r => r.sink = k

variable {run}

/-- Where every packet is encrypted, the roll-over counter is the high part of the packet's index. -/
lemma rollOvers_eq (wf : run.WellFormed) (k : ι) {n : Nat} (le : n ≤ run.renderings.length) :
    rollOvers k (run.renderings.take n) =
      ((run.first k).toNat + run.countUpTo k n) / 2 ^ 16 := by
  induction n with
  | zero => simp [rollOvers, countUpTo, Nat.div_eq_of_lt (run.first k).toNat_lt]
  | succ n ih =>
    have lt : n < run.renderings.length := le
    have acc := wf _ (List.getElem_mem lt)
    have num := run.numbered n lt acc
    have ih := ih (Nat.le_of_lt lt)
    rw [rollOvers, countUpTo] at ih ⊢
    rw [List.take_succ_eq_append_getElem lt, List.countP_append, List.countP_append, ih]
    by_cases hk : run.renderings[n].sink = k
    · subst hk
      have seq_eq : run.renderings[n].seq = 0xFFFF ↔ run.renderings[n].seq.toNat = 65535 :=
        UInt16.toNat_inj.symm
      by_cases hit : run.renderings[n].seq.toNat = 65535
      · simp [acc, seq_eq.mpr hit]
        omega
      · have no : ¬ run.renderings[n].seq = 0xFFFF := fun e => hit (seq_eq.mp e)
        simp [no]
        omega
    · simp [hk]

/-- An element that satisfies `p` is preceded by any smaller number of such elements. -/
lemma exists_countP {α : Type} {p : α → Bool} {l : List α} {m : Nat} (lt : m < l.countP p) :
    ∃ j, ∃ h : j < l.length, p l[j] = true ∧ (l.take j).countP p = m := by
  induction l generalizing m with
  | nil => cases lt
  | cons a l ih =>
    rw [List.countP_cons] at lt
    by_cases ha : p a = true
    · rw [if_pos ha] at lt
      cases m with
      | zero => exact ⟨0, by simp, ha, rfl⟩
      | succ m =>
        obtain ⟨j, h, hp, e⟩ := ih (Nat.lt_of_succ_lt_succ lt)
        exact ⟨j + 1, by simpa using h, hp, by rw [List.take_succ_cons, List.countP_cons, e, if_pos ha]⟩
    · rw [if_neg ha] at lt
      obtain ⟨j, h, hp, e⟩ := ih lt
      exact ⟨j + 1, by simpa using h, hp, by rw [List.take_succ_cons, List.countP_cons, e, if_neg ha, Nat.add_zero]⟩

/-- The count grows from a packet of the sink on. -/
lemma countUpTo_lt {i j : Nat} (hi : i < run.renderings.length) (lt : i < j) :
    run.countUpTo run.renderings[i].sink i < run.countUpTo run.renderings[i].sink j := by
  have le : (run.renderings.take (i + 1)).countP (fun r => r.sink = run.renderings[i].sink) ≤
      run.countUpTo run.renderings[i].sink j :=
    (List.take_sublist_take_left lt).countP_le
  rw [List.take_succ_eq_append_getElem hi, List.countP_append] at le
  simp only [List.countP_singleton, decide_true, if_true] at le
  exact le

/-- Where every packet is encrypted, no nonce is used twice exactly as long as no sink is given more
    than `2 ^ 64` packets. -/
lemma wellFormed_nodup_iff (wf : run.WellFormed) : (run.nonces S key).Nodup ↔
    ∀ k, run.renderings.countP (fun r => r.sink = k) ≤ 2 ^ 64 := by
  rw [nodup_iff]
  have rolls : ∀ {i n : Nat} (hi : i < run.renderings.length), n ≤ run.renderings.length →
      run.rollOversUpTo i n = ((run.first run.renderings[i].sink).toNat +
        run.countUpTo run.renderings[i].sink n) / 2 ^ 16 := by
    intro i n hi le
    rw [← rollOvers_eq wf _ le]
    simp [rollOversUpTo, hi]
  have seqs : ∀ {i : Nat} (hi : i < run.renderings.length), run.renderings[i].seq.toNat =
      ((run.first run.renderings[i].sink).toNat + run.countUpTo run.renderings[i].sink i) % 2 ^ 16 :=
    fun hi => run.numbered _ hi (wf _ (List.getElem_mem hi))
  constructor
  · intro apart k
    by_contra more
    -- the first packet of the sink and the one `2 ^ 64` later
    obtain ⟨i, hi, pi, ei⟩ := exists_countP (m := 0) (Nat.zero_lt_of_lt (Nat.lt_of_not_ge more))
    obtain ⟨j, hj, pj, ej⟩ := exists_countP (Nat.lt_of_not_ge more)
    obtain rfl : run.renderings[i].sink = k := by simpa using pi
    have es : run.renderings[j].sink = run.renderings[i].sink := by simpa using pj
    have lt : i < j := by
      by_contra ge
      have le := (List.take_sublist_take_left (l := run.renderings) (Nat.le_of_not_lt ge)).countP_le
        (p := fun r => r.sink = run.renderings[i].sink)
      rw [ei, ej] at le
      exact absurd le (by decide)
    have si := seqs hi
    have sj := seqs hj
    rw [es] at sj
    rw [countUpTo, ei] at si
    rw [countUpTo, ej] at sj
    have ri := rolls hi (Nat.le_of_lt hi)
    have rj := rolls hi (Nat.le_of_lt hj)
    rw [countUpTo, ei] at ri
    rw [countUpTo, ej] at rj
    refine apart i j lt ⟨hi, hj, wf _ (List.getElem_mem hi), wf _ (List.getElem_mem hj), es.symm,
      UInt16.toNat_inj.mp ?_⟩ ?_
    · rw [si, sj]
      omega
    · rw [ri, rj]
      omega
  · rintro few i j lt ⟨hi, hj, _, _, es, eq⟩
    have si := seqs hi
    have sj := seqs hj
    have more := countUpTo_lt hi lt
    have all : run.countUpTo run.renderings[i].sink j < 2 ^ 64 := by
      refine Nat.lt_of_lt_of_le ?_ (few run.renderings[i].sink)
      have c := countUpTo_lt hj (Nat.lt_succ_self j)
      rw [← es] at c
      exact Nat.lt_of_lt_of_le c (List.take_sublist _ _).countP_le
    rw [rolls hi (Nat.le_of_lt hi), rolls hi (Nat.le_of_lt hj)]
    rw [← es, ← eq, si] at sj
    omega

variable (run)

/-- No nonce is used twice exactly where two packets of one sink with the same sequence number are
    always apart by a number of roll-overs that is not a multiple of `2 ^ 48`; if every buffer is an
    RTP packet, exactly as long as no sink is given more than `2 ^ 64` of them. -/
theorem nonces_nodup_iff :
    ((run.nonces S key).Nodup ↔ ∀ i j, i < j → run.SameSeq i j →
      run.rollOversUpTo i i % 2 ^ 48 ≠ run.rollOversUpTo i j % 2 ^ 48) ∧
    (run.WellFormed → ((run.nonces S key).Nodup ↔
      ∀ k, run.renderings.countP (fun r => r.sink = k) ≤ 2 ^ 64)) :=
  ⟨run.nodup_iff S key, run.wellFormed_nodup_iff S key⟩

end SinkRun

end Runs

/-! ## A run past the limit -/

/-- An RTP packet of SSRC `0` with one byte of payload. -/
def rtpPacket (seq : UInt16) : List UInt8 :=
  [0x80, 0, (seq >>> 8).toUInt8, seq.toUInt8, 0, 0, 0, 0, 0, 0, 0, 0, 0]

lemma rtpPacket_isRtp (seq : UInt16) : IsRtp (rtpPacket seq) :=
  ⟨(by decide : 12 < 13), rfl⟩

lemma rtpPacket_seq (seq : UInt16) : readUInt16BE (rtpPacket seq) 2 = seq := by
  have hi : (seq >>> 8).toUInt8.toNat = seq.toNat / 256 := by
    have lt := seq.toNat_lt
    rw [UInt16.toNat_toUInt8, UInt16.toNat_shiftRight, show UInt16.toNat 8 % 16 = 8 from rfl,
      Nat.shiftRight_eq_div_pow]
    omega
  have lo : seq.toUInt8.toNat = seq.toNat % 256 := UInt16.toNat_toUInt8 seq
  rw [← UInt16.toNat_inj, readUInt16BE_toNat]
  show (seq >>> 8).toUInt8.toNat * 2 ^ 8 + seq.toUInt8.toNat = seq.toNat
  omega

lemma rtpPacket_ssrc (seq : UInt16) : readUInt32BE (rtpPacket seq) 8 = 0 := by
  simp [readUInt32BE, rtpPacket]

/-- One sink that renders `n` packets. -/
def longRun (n : Nat) : SinkRun Unit where
  ssrc _ := 0
  distinct _ _ _ := rfl
  first _ := 0
  renderings := (List.range n).map fun i => ⟨(), some (rtpPacket (UInt16.ofNat i)), none⟩
  carried r hr _ := by
    obtain ⟨i, _, rfl⟩ := List.mem_map.mp hr
    exact rtpPacket_ssrc _
  numbered i h _ := by
    have lt : i < n := by simpa using h
    rw [List.getElem_map, List.getElem_range, Rendering.seq, Option.getD_some, rtpPacket_seq,
      List.countP_eq_length.mpr (by simp), UInt16.toNat_ofNat']
    simp [Nat.min_eq_left (Nat.le_of_lt lt)]

lemma longRun_wellFormed (n : Nat) : (longRun n).WellFormed := by
  intro r hr
  obtain ⟨i, _, rfl⟩ := List.mem_map.mp hr
  simp [Rendering.Accepted, rtpPacket_isRtp]

/-- A run of three packets. -/
theorem longRun_fits : ((longRun 3).nonces Sodium.transparent ⟨fun _ => 0⟩).Nodup :=
  (((longRun 3).nonces_nodup_iff Sodium.transparent ⟨fun _ => 0⟩).2 (longRun_wellFormed 3)).mpr
    fun k => (List.countP_le_length).trans (by decide)

/-- After `2 ^ 64` packets the nonces start again. -/
theorem longRun_repeats :
    ¬ ((longRun (2 ^ 64 + 1)).nonces Sodium.transparent ⟨fun _ => 0⟩).Nodup := by
  have more : ∀ n, 2 ^ 64 < n → ¬ ((longRun n).nonces Sodium.transparent ⟨fun _ => 0⟩).Nodup := by
    intro n lt nd
    have le := ((longRun n).wellFormed_nodup_iff _ _ (longRun_wellFormed n)).mp nd ()
    rw [List.countP_eq_length.mpr (by simp), longRun, List.length_map, List.length_range] at le
    exact absurd le (Nat.not_le.mpr lt)
  exact more _ (Nat.lt_succ_self _)

end Nanotalk
