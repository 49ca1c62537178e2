import Nanotalk.Rtp.Src

/-!
# Synchrony of sender and receiver

An `RtpSender` renders packets of one SSRC, numbered consecutively from `s0` on: packet `i` has the
index `s0 + i`, whose high part is the sender's roll-over counter and whose low part is the sequence
number. The network loses, repeats and reorders them on their way to one receiver, together with
other datagrams (`Delivery`).

The receiver is `Synced` after `R` when the state it keeps for the SSRC is that of the packet of
index `R`. One delivery of a packet within half the range of `R` keeps it synced, now after that
packet (`accept_near`); what is no packet of the SSRC, or fails its checks, leaves the state of the
SSRC alone (`ignore`).

* `nonce_agreement`: orderly deliveries are accepted, under the sender's nonce and with its packet.
* `late_accepted`: a packet ahead of the last accepted one by less than `2 ^ 15` is accepted.
* `lossy_start`: a stream may start with a loss as long as the first index seen is below `2 ^ 16`.
-/

namespace Nanotalk
open Glib

/-- A sender of one SSRC with a new sink: RTP packets that fit into a datagram of the receiver's
    size, numbered consecutively from `s0` on. -/
structure RtpSender where
  key : DhtKey
  ssrc : UInt32
  s0 : UInt16
  packets : List (List UInt8)
  rtp : ∀ p ∈ packets, IsRtp p ∧ p.length + 16 ≤ PACKET_MTU ∧ readUInt32BE p 8 = ssrc
  numbered : ∀ i (h : i < packets.length),
    (readUInt16BE packets[i] 2).toNat = (s0.toNat + i) % 2 ^ 16
  bound : s0.toNat + packets.length ≤ 2 ^ 64

namespace RtpSender

variable (S : Sodium) (snd : RtpSender)

/-- The index of packet `i`. -/
def index (i : Nat) : Nat := snd.s0.toNat + i

/-- The sink before packet `i`. -/
def sink (i : Nat) : RtpSink :=
  (snd.packets.take i).foldl (fun sink p => (sink.render S (some p) none).1) ⟨snd.key, 0⟩

/-- What the sink sends for packet `i`. -/
def sent (i : Nat) : Option SealedPacket :=
  snd.packets[i]?.bind fun p => ((snd.sink S i).render S (some p) none).2.sent

/-- The datagram of packet `i`. -/
def datagram (i : Nat) : List UInt8 := ((snd.sent S i).map SealedPacket.datagram).getD []

end RtpSender

/-- What arrives at the receiver: packet `i` of the sender, or anything else. -/
inductive Delivery where
  | genuine (i : Nat)
  | other (r : Received)

/-- One delivery. The second component lists the indices of the accepted packets, the last one
    first. -/
def RtpSender.deliver (S : Sodium) (snd : RtpSender) (st : RtpSrc × List Nat) :
    Delivery → RtpSrc × List Nat
  | .genuine i =>
    let (src, created) := st.1.receive S (.datagram (snd.datagram S i) true)
    (src, if created.isSome then snd.index i :: st.2 else st.2)
  | .other r => ((st.1.receive S r).1, st.2)

/-- The receiver, new at the beginning, after a sequence of deliveries. -/
def RtpSender.run (S : Sodium) (snd : RtpSender) (ds : List Delivery) : RtpSrc × List Nat :=
  ds.foldl (snd.deliver S) (RtpSrc.init snd.key, [])

/-- A datagram of another SSRC, or one that the receiver discards. -/
def Harmless (S : Sodium) (src : RtpSrc) (ssrc : UInt32) : Received → Prop
  | .datagram data _ =>
    let packet := data.take PACKET_MTU
    packet.length ≤ 28 ∨ packet.getD 0 0 ≠ 0x80 ∨ readUInt32BE packet 8 ≠ ssrc ∨
      src.verify S packet = false
  | _ => True

/-- The receiver is synced after index `R`, or has seen no packet of the SSRC. -/
structure Synced (snd : RtpSender) (src : RtpSrc) (R : Option Nat) : Prop where
  key : src.key = snd.key
  enable : src.enable = true
  stream : src.streams snd.ssrc = R.map RtpStream.at
  bound : ∀ r, R = some r → r < 2 ^ 64

/-- Packet index `E` can follow `R`. -/
def Near (R : Option Nat) (E : Nat) : Prop :=
  match R with
  | none => E < 2 ^ 16
  | some R => R < E + 2 ^ 15 ∧ E < R + 2 ^ 15

section Sender

variable {S : Sodium} {snd : RtpSender} {i : Nat}

/-- The sequence number of packet `i` is the low part of its index. -/
lemma index_lt (h : i < snd.packets.length) : snd.index i < 2 ^ 64 := by
  have := snd.bound
  unfold RtpSender.index
  omega

/-- The sender's roll-over counter is the high part of the index. -/
lemma sink_eq (le : i ≤ snd.packets.length) :
    snd.sink S i = ⟨snd.key, UInt64.ofNat (snd.index i / 2 ^ 16)⟩ := by
  induction i with
  | zero =>
    have e : snd.s0.toNat / 2 ^ 16 = 0 := Nat.div_eq_of_lt snd.s0.toNat_lt
    rw [RtpSender.index, Nat.add_zero, e]
    rfl
  | succ i ih =>
    have lt : i < snd.packets.length := le
    have ih := ih (Nat.le_of_lt lt)
    have num := snd.numbered i lt
    have rtp := (snd.rtp _ (List.getElem_mem lt)).1
    have step := render_sink S (snd.sink S i) (⟨(), some snd.packets[i], none⟩ : Rendering Unit)
    have e : snd.sink S (i + 1) = ((snd.sink S i).render S (some snd.packets[i]) none).1 := by
      unfold RtpSender.sink
      rw [List.take_succ_eq_append_getElem lt, List.foldl_append]
      rfl
    have seq_eq : readUInt16BE snd.packets[i] 2 = 0xFFFF ↔
        (readUInt16BE snd.packets[i] 2).toNat = 65535 := UInt16.toNat_inj.symm
    rw [e, step, ih]
    simp only [Rendering.Accepted, Rendering.seq, Option.any_some, rtp, decide_true, true_and,
      Option.getD_some, RtpSender.index] at num ⊢
    split
    · rename_i wrap
      rw [seq_eq, num] at wrap
      rw [show (snd.s0.toNat + (i + 1)) / 2 ^ 16 = (snd.s0.toNat + i) / 2 ^ 16 + 1 by omega,
        UInt64.ofNat_add]
      rfl
    · rename_i wrap
      rw [seq_eq, num] at wrap
      rw [show (snd.s0.toNat + (i + 1)) / 2 ^ 16 = (snd.s0.toNat + i) / 2 ^ 16 by omega]

/-- What is sent for packet `i`. -/
lemma sent_eq (lt : i < snd.packets.length) : snd.sent S i =
    some ⟨rtpNonce (UInt64.ofNat (snd.index i / 2 ^ 16)) (readUInt16BE snd.packets[i] 2) snd.ssrc,
      sealPacket S snd.key (rtpNonce (UInt64.ofNat (snd.index i / 2 ^ 16))
        (readUInt16BE snd.packets[i] 2) snd.ssrc) snd.packets[i]⟩ := by
  obtain ⟨rtp, _, ssrc⟩ := snd.rtp _ (List.getElem_mem lt)
  rw [RtpSender.sent, List.getElem?_eq_getElem lt, Option.bind_some, sink_eq (Nat.le_of_lt lt)]
  simp only [RtpSink.render, rtp, if_true, ssrc]

/-- The datagram of packet `i`. -/
lemma datagram_eq (lt : i < snd.packets.length) : snd.datagram S i =
    sealPacket S snd.key (rtpNonce (UInt64.ofNat (snd.index i / 2 ^ 16))
      (readUInt16BE snd.packets[i] 2) snd.ssrc) snd.packets[i] := by
  rw [RtpSender.datagram, sent_eq lt, Option.map_some, Option.getD_some]

end Sender

section Receiver

variable {S : Sodium} {snd : RtpSender} {src : RtpSrc} {R : Option Nat} {i : Nat} {ds : List Delivery}

/-- The receiver extends the sequence number of a near packet to its index. -/
lemma guess_near (sy : Synced snd src R) (lt : i < snd.packets.length)
    (near : Near R (snd.index i)) :
    guessRoc (src.streams snd.ssrc) (readUInt16BE snd.packets[i] 2) =
      UInt64.ofNat (snd.index i / 2 ^ 16) := by
  have eq := snd.numbered i lt
  rw [sy.stream]
  cases R with
  | none => exact guessRoc_first near eq
  | some R => exact guessRoc_near near.1 near.2 (sy.bound R rfl) (index_lt lt) eq

/-- A near packet is accepted, under the nonce it was sent with, and the receiver is synced after
    it. -/
lemma accept_near (sy : Synced snd src R) (lt : i < snd.packets.length)
    (near : Near R (snd.index i)) :
    src.verify S (snd.datagram S i) = true ∧
    (snd.sent S i).map SealedPacket.nonce = some (src.nonce (snd.datagram S i)) ∧
    ∃ src', Synced snd src' (some (snd.index i)) ∧
      src.receive S (.datagram (snd.datagram S i) true) =
        (src', some ⟨.ok, some snd.packets[i], []⟩) := by
  obtain ⟨rtp, short, ssrc⟩ := snd.rtp _ (List.getElem_mem lt)
  have guess := guess_near sy lt near
  have e := datagram_eq (S := S) lt
  rw [← sy.key] at e
  obtain ⟨ver, non, rec⟩ := receive_sealPacket S
    (rtpNonce (UInt64.ofNat (snd.index i / 2 ^ 16)) (readUInt16BE snd.packets[i] 2) snd.ssrc)
    true sy.enable rtp short (by rw [ssrc, guess])
  rw [← e] at ver non rec
  refine ⟨ver, by rw [sent_eq lt, Option.map_some, non], _, ?_, rec⟩
  rw [ssrc, guess]
  refine ⟨sy.key, sy.enable, ?_, ?_⟩
  · simp only [Function.update_self, Option.map_some, RtpStream.at, Option.some.injEq,
      RtpStream.mk.injEq, true_and]
    rw [← UInt16.toNat_inj, snd.numbered i lt, UInt16.toNat_ofNat', Nat.mod_mod]
    rfl
  · intro r er
    cases er
    exact index_lt lt

/-- A harmless delivery leaves the state of the SSRC alone. -/
lemma ignore (sy : Synced snd src R) {r : Received} (harmless : Harmless S src snd.ssrc r) :
    Synced snd (src.receive S r).1 R := by
  cases r with
  | cancelled => exact sy
  | failed message => exact sy
  | datagram data alloc =>
    unfold RtpSrc.receive
    dsimp only
    split
    · exact sy
    · split
      · rename_i h
        split
        · rename_i ver
          -- an accepted packet belongs to another SSRC
          have ne : readUInt32BE (data.take PACKET_MTU) 8 ≠ snd.ssrc := by
            rcases harmless with h1 | h1 | h1 | h1
            · exact absurd h.1 (Nat.not_lt.mpr h1)
            · exact absurd h.2 h1
            · exact h1
            · rw [h1] at ver
              cases ver
          split
          · exact ⟨sy.key, sy.enable, by simpa [Function.update_of_ne ne.symm] using sy.stream, sy.bound⟩
          · exact ⟨sy.key, sy.enable, by simpa [Function.update_of_ne ne.symm] using sy.stream, sy.bound⟩
        · exact sy
      · exact sy

/-- A datagram of the sender that does not verify is discarded. -/
lemma receive_reject (lt : i < snd.packets.length)
    (no : src.verify S (snd.datagram S i) = false) :
    src.receive S (.datagram (snd.datagram S i) true) = (src, none) := by
  have short := (snd.rtp _ (List.getElem_mem lt)).2.1
  have full : (snd.datagram S i).take PACKET_MTU = snd.datagram S i :=
    List.take_of_length_le (by rw [datagram_eq lt, sealPacket_length]; exact short)
  unfold RtpSrc.receive
  dsimp only
  rw [full, no]
  split
  · rfl
  · split <;> rfl

/-- A new receiver. -/
lemma synced_init : Synced snd (RtpSrc.init snd.key) none := ⟨rfl, rfl, rfl, nofun⟩

lemma run_append (d : Delivery) : snd.run S (ds ++ [d]) = snd.deliver S (snd.run S ds) d := by
  rw [RtpSender.run, List.foldl_append]
  rfl

end Receiver

/-- The delivery of a packet of the sender. -/
lemma deliver_genuine {S : Sodium} {snd : RtpSender} (st : RtpSrc × List Nat) {src : RtpSrc}
    {created : Option Created} {i : Nat}
    (e : st.1.receive S (.datagram (snd.datagram S i) true) = (src, created)) :
    snd.deliver S st (.genuine i) = (src, if created.isSome then snd.index i :: st.2 else st.2) := by
  simp only [RtpSender.deliver, e]

/-- A datagram of the sender verifies under the nonce it was sealed under only. -/
def Binding (S : Sodium) (snd : RtpSender) : Prop :=
  ∀ i p, snd.sent S i = some p → ∀ src : RtpSrc, src.key = snd.key →
    src.verify S p.datagram = true → src.nonce p.datagram = p.nonce

/-- A packet whose index the receiver does not guess is discarded. -/
lemma receive_stray {S : Sodium} {snd : RtpSender} {src : RtpSrc} {R : Option Nat} {i : Nat}
    (bind : Binding S snd) (sy : Synced snd src R) (lt : i < snd.packets.length)
    (stray : (guessRoc (R.map RtpStream.at) (UInt16.ofNat (snd.index i))).toNat % 2 ^ 48 ≠
      snd.index i / 2 ^ 16) :
    src.receive S (.datagram (snd.datagram S i) true) = (src, none) := by
  apply receive_reject lt
  by_contra ver
  obtain ⟨rtp, _, ssrc⟩ := snd.rtp _ (List.getElem_mem lt)
  have e := datagram_eq (S := S) lt
  have sent := sent_eq (S := S) lt
  rw [← e] at sent
  have non := bind i _ sent src sy.key (by simpa using ver)
  have seq : readUInt16BE snd.packets[i] 2 = UInt16.ofNat (snd.index i) := by
    rw [← UInt16.toNat_inj, snd.numbered i lt, UInt16.toNat_ofNat']
    rfl
  rw [RtpSrc.nonce, RtpSrc.roc, e, sealPacket_ssrc _ _ _ rtp.1, sealPacket_seq _ _ _ rtp.1, ssrc, sy.stream,
    seq] at non
  have roc := (rtpNonce_inj.mp non).1
  have lt := index_lt lt
  rw [UInt64.toNat_ofNat', Nat.mod_eq_of_lt (show snd.index i / 2 ^ 16 < 2 ^ 64 by omega),
    Nat.mod_eq_of_lt (show snd.index i / 2 ^ 16 < 2 ^ 48 by omega)] at roc
  exact stray roc

/-! ## Senders for examples -/

/-- A sender of `n` packets of SSRC `0`. -/
def countingSender (s0 : UInt16) (n : Nat) (le : s0.toNat + n ≤ 2 ^ 64) : RtpSender where
  key := ⟨fun _ => 0⟩
  ssrc := 0
  s0 := s0
  packets := (List.range n).map fun i => rtpPacket (UInt16.ofNat (s0.toNat + i))
  rtp p hp := by
    obtain ⟨i, _, rfl⟩ := List.mem_map.mp hp
    exact ⟨rtpPacket_isRtp _, (by decide : 13 + 16 ≤ 1500), rtpPacket_ssrc _⟩
  numbered i h := by
    rw [List.getElem_map, List.getElem_range, rtpPacket_seq, UInt16.toNat_ofNat']
  bound := by simpa using le

/-- A transparent tag repeats the nonce. -/
lemma transparent_auth (data : List UInt8) (nonce : Bytes 12) (key : DhtKey) (j : Fin 12) :
    dhtStreamAuth Sodium.transparent data nonce key ⟨j, by omega⟩ = nonce j := by
  have lt : j.val < 32 := by omega
  simp [dhtStreamAuth, Sodium.transparent, Bytes.slice, Bytes.get, lt]

/-- The transparent tags give the nonce away. -/
lemma transparent_binding (snd : RtpSender) : Binding Sodium.transparent snd := by
  intro i p sent src key ver
  have lt : i < snd.packets.length := by
    by_contra ge
    rw [RtpSender.sent, List.getElem?_eq_none (Nat.le_of_not_lt ge)] at sent
    cases sent
  rw [sent_eq lt] at sent
  cases sent
  unfold RtpSrc.verify at ver
  dsimp only at ver ⊢
  rw [sealPacket_take, sealPacket_tag, dhtStreamVerify, decide_eq_true_eq] at ver
  funext j
  have e := congrFun ver ⟨j, by omega⟩
  rw [transparent_auth, transparent_auth] at e
  exact e.symm

/-! ## Orderly deliveries -/

/-- A packet of the sender near the one accepted before, or something harmless. -/
def Admissible (S : Sodium) (snd : RtpSender) (st : RtpSrc × List Nat) : Delivery → Prop
  | .genuine i => i < snd.packets.length ∧ Near st.2.head? (snd.index i)
  | .other r => Harmless S st.1 snd.ssrc r

/-- Every delivery is admissible when it is made. -/
def Orderly (S : Sodium) (snd : RtpSender) (ds : List Delivery) : Prop :=
  ∀ pre d post, ds = pre ++ d :: post → Admissible S snd (snd.run S pre) d

variable {S : Sodium} {snd : RtpSender} {ds : List Delivery}

/-- Orderly deliveries keep the receiver synced. -/
lemma synced_run (ord : Orderly S snd ds) :
    Synced snd (snd.run S ds).1 (snd.run S ds).2.head? := by
  induction ds using List.reverseRecOn with
  | nil => exact synced_init
  | append_singleton ds d ih =>
    have sy := ih fun pre d' post e => ord pre d' (post ++ [d]) (by rw [e]; simp)
    have next := ord ds d [] (by simp)
    rw [run_append]
    cases d with
    | genuine i =>
      obtain ⟨_, _, src', sy', e⟩ := accept_near (S := S) sy next.1 next.2
      rw [deliver_genuine _ e]
      exact sy'
    | other r => exact ignore sy next

lemma Orderly.nil : Orderly S snd [] := fun pre d post e => by simp at e

/-- One more delivery. -/
lemma Orderly.append (ord : Orderly S snd ds) {d : Delivery}
    (next : Admissible S snd (snd.run S ds) d) : Orderly S snd (ds ++ [d]) := by
  intro pre d' post e
  rcases List.eq_nil_or_concat post with rfl | ⟨post, d'', rfl⟩
  · obtain ⟨rfl, ed⟩ := List.append_inj' e rfl
    obtain rfl := List.singleton_inj.mp ed
    exact next
  · rw [List.concat_eq_append, ← List.cons_append, ← List.append_assoc] at e
    exact ord pre d' post (List.append_inj' e rfl).1

/-- The indices accepted grow by that of the packet delivered. -/
lemma Orderly.accepts (ord : Orderly S snd ds) {i : Nat} (lt : i < snd.packets.length)
    (near : Near (snd.run S ds).2.head? (snd.index i)) :
    (snd.run S (ds ++ [.genuine i])).2 = snd.index i :: (snd.run S ds).2 := by
  obtain ⟨_, _, src', _, e⟩ := accept_near (S := S) (synced_run ord) lt near
  rw [run_append, deliver_genuine _ e]
  rfl

/-- Every packet of orderly deliveries authenticates under the sender's nonce, and the call of
    `rtp_src_create` that takes it pushes the packet given to the sink. -/
theorem nonce_agreement (S : Sodium) (snd : RtpSender) (ds : List Delivery)
    (ord : Orderly S snd ds) (pre : List Delivery) (i : Nat) (post : List Delivery)
    (e : ds = pre ++ .genuine i :: post) :
    ∃ h : i < snd.packets.length,
      (snd.sent S i).map SealedPacket.nonce = some ((snd.run S pre).1.nonce (snd.datagram S i)) ∧
      (snd.run S pre).1.verify S (snd.datagram S i) = true ∧
      ∀ queue, (snd.run S pre).1.create S (.datagram (snd.datagram S i) true :: queue) =
        ((snd.run S (pre ++ [.genuine i])).1, queue, some ⟨.ok, some snd.packets[i], []⟩) := by
  obtain ⟨lt, near⟩ := ord pre (.genuine i) post e
  have sy : Synced snd (snd.run S pre).1 (snd.run S pre).2.head? :=
    synced_run fun pre' d' post' e' => ord pre' d' (post' ++ .genuine i :: post) (by rw [e, e']; simp)
  obtain ⟨ver, non, src', _, rec⟩ := accept_near sy lt near
  refine ⟨lt, non, ver, fun queue => ?_⟩
  rw [run_append, deliver_genuine _ rec, RtpSrc.create, rec]

/-- A sender of two packets, on either side of a roll-over. -/
def rollOverSender : RtpSender := countingSender 65535 2 (by decide)

/-- An empty datagram between the two packets. -/
theorem nonce_agreement_rollOver :
    ∃ h : 1 < rollOverSender.packets.length,
      (rollOverSender.sent Sodium.transparent 1).map SealedPacket.nonce =
        some ((rollOverSender.run Sodium.transparent [.genuine 0, .other (.datagram [] true)]).1.nonce
          (rollOverSender.datagram Sodium.transparent 1)) ∧
      (rollOverSender.run Sodium.transparent [.genuine 0, .other (.datagram [] true)]).1.verify
        Sodium.transparent (rollOverSender.datagram Sodium.transparent 1) = true ∧
      ∀ queue, (rollOverSender.run Sodium.transparent
          [.genuine 0, .other (.datagram [] true)]).1.create Sodium.transparent
            (.datagram (rollOverSender.datagram Sodium.transparent 1) true :: queue) =
        ((rollOverSender.run Sodium.transparent
          ([.genuine 0, .other (.datagram [] true)] ++ [.genuine 1])).1, queue,
          some ⟨.ok, some rollOverSender.packets[1], []⟩) := by
  have near0 : Near none (rollOverSender.index 0) := (by decide : rollOverSender.index 0 < 2 ^ 16)
  have ord : Orderly Sodium.transparent rollOverSender [.genuine 0] :=
    Orderly.nil.append ⟨by decide, near0⟩
  have acc : (rollOverSender.run Sodium.transparent [.genuine 0]).2 = [rollOverSender.index 0] :=
    Orderly.nil.accepts (by decide) near0
  have ord : Orderly Sodium.transparent rollOverSender [.genuine 0, .other (.datagram [] true)] :=
    ord.append (.inl (by decide))
  have near1 : Near (some (rollOverSender.index 0)) (rollOverSender.index 1) :=
    ⟨by decide, by decide⟩
  exact nonce_agreement Sodium.transparent rollOverSender _
    (ord.append (d := .genuine 1) ⟨by decide, by rw [← List.head?_cons, ← acc] at near1; exact near1⟩)
    _ 1 [] rfl

/-! ## Deliveries in any order -/

/-- The receiver is synced after the packet accepted last; or the counter of `2 ^ 48` stands for `0`,
    which takes a packet of the last half round before it. -/
structure Following (snd : RtpSender) (src : RtpSrc) (acc : List Nat) : Prop where
  key : src.key = snd.key
  enable : src.enable = true
  bound : ∀ m ∈ acc, m < 2 ^ 64
  stream : src.streams snd.ssrc = acc.head?.map RtpStream.at ∨
    ∃ R, acc.head? = some R ∧ R < 2 ^ 16 ∧
      src.streams snd.ssrc = some ⟨UInt64.ofNat (2 ^ 48), UInt16.ofNat R⟩ ∧
      ∃ m ∈ acc, 2 ^ 64 - 2 ^ 15 ≤ m

/-- The counter that the receiver guesses from what it keeps of the packet accepted last. -/
lemma Following.guess {src : RtpSrc} {acc : List Nat} (fo : Following snd src acc) (seq : UInt16) :
    (guessRoc (src.streams snd.ssrc) seq).toNat ≤ 2 ^ 48 ∧
      ((guessRoc (src.streams snd.ssrc) seq).toNat = 2 ^ 48 → ∃ m ∈ acc, 2 ^ 64 - 2 ^ 15 ≤ m) := by
  rw [guessRoc_toNat]
  rcases fo.stream with e | ⟨R, _, _, e, m⟩
  · rw [e]
    cases hacc : acc.head? with
    | none =>
      simp only [Option.map_none, Option.getD_none]
      obtain ⟨le, top⟩ := Rollover.extend_le_limit (2 ^ 15) 0 seq.toNat (Nat.zero_le (2 ^ 48))
      refine ⟨le, fun eq => ?_⟩
      have := top eq
      omega
    | some R =>
      have hm : R ∈ acc := List.mem_of_mem_head? hacc
      have lt := fo.bound R hm
      simp only [Option.map_some, Option.getD_some, RtpStream.at, UInt64.toNat_ofNat',
        UInt16.toNat_ofNat', Nat.mod_mod]
      rw [Nat.mod_eq_of_lt (show R / 2 ^ 16 < 2 ^ 64 by omega)]
      obtain ⟨le, top⟩ := Rollover.extend_le_limit (2 ^ 15) (R % 2 ^ 16) seq.toNat
        (show R / 2 ^ 16 ≤ 2 ^ 48 by omega)
      refine ⟨le, fun eq => ⟨R, hm, ?_⟩⟩
      have := top eq
      omega
  · rw [e]
    exact ⟨(Rollover.extend_le_limit _ _ _ (le_of_eq rfl)).1, fun _ => m⟩

/-- A packet of the sender is accepted as what it is, or leaves the receiver alone. -/
lemma Following.step {src : RtpSrc} {acc : List Nat} (bind : Binding S snd)
    (fo : Following snd src acc) {i : Nat} (lt : i < snd.packets.length) :
    Following snd (snd.deliver S (src, acc) (.genuine i)).1
      (snd.deliver S (src, acc) (.genuine i)).2 := by
  obtain ⟨rtp, short, ssrc⟩ := snd.rtp _ (List.getElem_mem lt)
  have e := datagram_eq (S := S) lt
  have sent := sent_eq (S := S) lt
  by_cases ver : src.verify S (snd.datagram S i) = true
  · -- accepted, so the receiver has guessed the nonce
    rw [← e] at sent
    have non := bind i _ sent src fo.key ver
    have eseq : readUInt16BE (snd.datagram S i) 2 = readUInt16BE snd.packets[i] 2 := by
      rw [e, sealPacket_seq _ _ _ rtp.1]
    have essrc : readUInt32BE (snd.datagram S i) 8 = snd.ssrc := by
      rw [e, sealPacket_ssrc _ _ _ rtp.1, ssrc]
    rw [RtpSrc.nonce, RtpSrc.roc, eseq, essrc] at non
    have roc := (rtpNonce_inj.mp non).1
    have idx := index_lt lt
    rw [UInt64.toNat_ofNat', Nat.mod_eq_of_lt (show snd.index i / 2 ^ 16 < 2 ^ 64 by omega),
      Nat.mod_eq_of_lt (show snd.index i / 2 ^ 16 < 2 ^ 48 by omega)] at roc
    obtain ⟨_, _, rec⟩ := receive_sealPacket S _ true fo.enable rtp short rfl
    rw [ssrc, non, fo.key, ← e] at rec
    rw [deliver_genuine (src, acc) rec]
    obtain ⟨le, top⟩ := fo.guess (readUInt16BE snd.packets[i] 2)
    refine ⟨rfl, fo.enable, ?_, ?_⟩
    · intro m hm
      rcases List.mem_cons.mp hm with rfl | hm
      · exact idx
      · exact fo.bound m hm
    · have seq : readUInt16BE snd.packets[i] 2 = UInt16.ofNat (snd.index i % 2 ^ 16) := by
        rw [← UInt16.toNat_inj, snd.numbered i lt, UInt16.toNat_ofNat', Nat.mod_mod]
        rfl
      rcases Nat.lt_or_eq_of_le le with small | limit
      · left
        rw [Nat.mod_eq_of_lt small] at roc
        simp only [Function.update_self, Option.isSome_some, if_true, List.head?_cons,
          Option.map_some, RtpStream.at, Option.some.injEq, RtpStream.mk.injEq]
        refine ⟨?_, seq⟩
        rw [← UInt64.toNat_inj, roc, UInt64.toNat_ofNat', Nat.mod_eq_of_lt (by omega)]
      · right
        rw [limit, Nat.mod_self] at roc
        obtain ⟨m, hm, ge⟩ := top limit
        refine ⟨snd.index i, rfl, by omega, ?_, m, List.mem_cons_of_mem _ hm, ge⟩
        simp only [Function.update_self, Option.some.injEq, RtpStream.mk.injEq]
        refine ⟨?_, ?_⟩
        · rw [← UInt64.toNat_inj, limit]
          rfl
        · rw [seq, Nat.mod_eq_of_lt (show snd.index i < 2 ^ 16 by omega)]
  · rw [deliver_genuine (src, acc) (receive_reject lt (by simpa using ver))]
    exact fo

/-- Every run of packets of the sender. -/
lemma following_run (bind : Binding S snd) {is : List Nat} (all : ∀ i ∈ is, i < snd.packets.length) :
    Following snd (snd.run S (is.map .genuine)).1 (snd.run S (is.map .genuine)).2 := by
  induction is using List.reverseRecOn with
  | nil => exact ⟨rfl, rfl, nofun, .inl rfl⟩
  | append_singleton is i ih =>
    rw [List.map_append, List.map_singleton, run_append]
    exact (ih fun j hj => all j (List.mem_append_left _ hj)).step bind
      (all i (List.mem_append_right _ List.mem_cons_self))

/-- A packet ahead of all accepted ones is accepted if it is ahead of the one accepted last by less
    than `2 ^ 15`, whatever older packets were delivered in between. -/
theorem late_accepted (S : Sodium) (snd : RtpSender) (bind : Binding S snd) (is : List Nat)
    (all : ∀ i ∈ is, i < snd.packets.length) (i : Nat) (lt : i < snd.packets.length)
    (ahead : ∀ m ∈ (snd.run S (is.map .genuine)).2, m < snd.index i) (R : Nat)
    (last : (snd.run S (is.map .genuine)).2.head? = some R) (near : snd.index i < R + 2 ^ 15) :
    ((snd.run S (is.map .genuine)).1.receive S (.datagram (snd.datagram S i) true)).2 =
      some ⟨.ok, some snd.packets[i], []⟩ := by
  have fo := following_run bind all
  have past := ahead R (List.mem_of_mem_head? last)
  have sy : Synced snd (snd.run S (is.map .genuine)).1 (some R) := by
    refine ⟨fo.key, fo.enable, ?_, fun r er => ?_⟩
    · rcases fo.stream with e | ⟨R', eR, small, _, m, hm, ge⟩
      · rw [e, last]
      · rw [last] at eR
        cases eR
        have := ahead m hm
        omega
    · cases er
      exact fo.bound R (List.mem_of_mem_head? last)
  obtain ⟨_, _, src', _, e⟩ := accept_near sy lt ⟨by omega, near⟩
  rw [e]

/-- The second packet after a replay of the first. -/
theorem late_accepted_rollOver :
    ((rollOverSender.run Sodium.transparent ([0, 0].map .genuine)).1.receive Sodium.transparent
      (.datagram (rollOverSender.datagram Sodium.transparent 1) true)).2 =
        some ⟨.ok, some rollOverSender.packets[1], []⟩ := by
  have acc : (rollOverSender.run Sodium.transparent ([0, 0].map .genuine)).2 = [65535, 65535] := by
    decide +kernel
  refine late_accepted Sodium.transparent rollOverSender (transparent_binding _) [0, 0] (by decide) 1
    (by decide) ?_ 65535 (by rw [acc]; rfl) (by decide)
  rw [acc]
  decide

/-- A replay of the packet half a round behind the newest one accepted makes the receiver refuse the
    packet that follows the newest one. -/
lemma replay_refuses (bind : Binding S snd) {i j k : Nat} (lti : i < snd.packets.length)
    (ltj : j < snd.packets.length) (ltk : k < snd.packets.length) (ei : snd.index i = 32768)
    (ej : snd.index j = 65535) (ek : snd.index k = 65536) :
    (snd.run S ([i, j, i].map .genuine)).2 = [32768, 65535, 32768] ∧
    ((snd.run S ([i, j, i].map .genuine)).1.receive S (.datagram (snd.datagram S k) true)).2 =
      none := by
  have near0 : Near none (snd.index i) := by
    show snd.index i < 2 ^ 16
    omega
  have ord := Orderly.nil.append (S := S) (d := .genuine i) ⟨lti, near0⟩
  have acc0 := Orderly.nil.accepts (S := S) lti near0
  have near1 : Near (snd.run S ([] ++ [.genuine i])).2.head? (snd.index j) := by
    rw [acc0, ei, ej]
    exact ⟨by decide, by decide⟩
  have acc1 := ord.accepts ltj near1
  have ord := ord.append (d := .genuine j) ⟨ltj, near1⟩
  have near2 : Near (snd.run S ([] ++ [.genuine i] ++ [.genuine j])).2.head? (snd.index i) := by
    rw [acc1, ei, ej]
    exact ⟨by decide, by decide⟩
  have acc2 := ord.accepts lti near2
  have sy := synced_run (ord.append (d := .genuine i) ⟨lti, near2⟩)
  rw [acc2, List.head?_cons, ei] at sy
  rw [acc1, acc0, ei, ej] at acc2
  refine ⟨acc2, ?_⟩
  have no := receive_stray bind sy ltk (by rw [ek]; decide)
  exact congrArg Prod.snd no

/-- A sender of half a round and one packet more. -/
def halfRoundSender : RtpSender := countingSender 0x8000 32769 (by decide)

/-- The sender's first packet, its last but one, the first again: then the last one is refused. -/
theorem replay_refuses_last :
    (halfRoundSender.run Sodium.transparent ([0, 32767, 0].map .genuine)).2 = [32768, 65535, 32768] ∧
    65535 < halfRoundSender.index 32768 ∧ halfRoundSender.index 32768 < 65535 + 2 ^ 15 ∧
    ((halfRoundSender.run Sodium.transparent ([0, 32767, 0].map .genuine)).1.receive
      Sodium.transparent (.datagram (halfRoundSender.datagram Sodium.transparent 32768) true)).2 =
        none := by
  have len : halfRoundSender.packets.length = 32769 := by simp [halfRoundSender, countingSender]
  have last : halfRoundSender.index 32768 = 65536 := rfl
  obtain ⟨acc, refused⟩ := replay_refuses (S := Sodium.transparent) (transparent_binding halfRoundSender)
    (i := 0) (j := 32767) (k := 32768) (by rw [len]; decide) (by rw [len]; decide)
    (by rw [len]; decide) rfl rfl last
  exact ⟨acc, by rw [last]; decide, by rw [last]; decide, refused⟩

/-! ## Losses at the start -/

/-- Increasing indices with small gaps are orderly. -/
lemma orderly_chain (n : Nat) (is : List Nat)
    (chain : (n :: is).IsChain fun i j => i < j ∧ j < i + 2 ^ 15)
    (all : ∀ i ∈ n :: is, i < snd.packets.length) (low : snd.index n < 2 ^ 16) :
    Orderly S snd ((n :: is).map .genuine) ∧
      (snd.run S ((n :: is).map .genuine)).2.head? = (n :: is).getLast?.map snd.index := by
  induction is using List.reverseRecOn with
  | nil =>
    have lt := all n List.mem_cons_self
    exact ⟨Orderly.nil.append ⟨lt, low⟩, congrArg List.head? (Orderly.nil.accepts lt low)⟩
  | append_singleton is i ih =>
    rw [← List.cons_append] at chain all ⊢
    obtain ⟨chain, _, step⟩ := List.isChain_append.mp chain
    obtain ⟨ord, head⟩ := ih chain fun j hj => all j (List.mem_append_left _ hj)
    obtain ⟨l, el⟩ : ∃ l, (n :: is).getLast? = some l := ⟨_, List.getLast?_eq_some_getLast (by simp)⟩
    obtain ⟨lt, gap⟩ := step l el i rfl
    have near : Near (snd.run S ((n :: is).map .genuine)).2.head? (snd.index i) := by
      rw [head, el]
      show snd.s0.toNat + l < snd.s0.toNat + i + 2 ^ 15 ∧ snd.s0.toNat + i < snd.s0.toNat + l + 2 ^ 15
      omega
    rw [List.map_append, List.map_singleton, List.getLast?_concat]
    have lt := all i (List.mem_append_right _ List.mem_cons_self)
    exact ⟨ord.append ⟨lt, near⟩, congrArg List.head? (ord.accepts lt near)⟩

/-- The first packet delivered creates the stream and the following ones are accepted in order, with
    `n` packets lost before the first, as long as its index is below `2 ^ 16`. -/
theorem lossy_start (S : Sodium) (snd : RtpSender) (n : Nat) (is : List Nat)
    (chain : (n :: is).IsChain fun i j => i < j ∧ j < i + 2 ^ 15)
    (all : ∀ i ∈ n :: is, i < snd.packets.length) (low : snd.s0.toNat + n < 2 ^ 16) :
    (snd.run S [.genuine n]).1.streams snd.ssrc = some (RtpStream.at (snd.s0.toNat + n)) ∧
    ∀ pre i post, n :: is = pre ++ i :: post → ∃ h : i < snd.packets.length,
      (snd.run S (pre.map .genuine)).1.verify S (snd.datagram S i) = true ∧
      ((snd.run S (pre.map .genuine)).1.receive S (.datagram (snd.datagram S i) true)).2 =
        some ⟨.ok, some snd.packets[i], []⟩ := by
  refine ⟨?_, fun pre i post e => ?_⟩
  · obtain ⟨ord, head⟩ := orderly_chain (S := S) n [] (List.isChain_singleton n)
      (fun i hi => all i (by simp at hi; simp [hi])) low
    have sy := synced_run ord
    rw [head] at sy
    exact sy.stream
  · obtain ⟨ord, _⟩ := orderly_chain (S := S) n is chain all low
    have here := ord (pre.map .genuine) (.genuine i) (post.map .genuine) (by rw [e]; simp)
    have sy : Synced snd (snd.run S (pre.map .genuine)).1 (snd.run S (pre.map .genuine)).2.head? :=
      synced_run fun pre' d' post' e' =>
        ord pre' d' (post' ++ .genuine i :: post.map .genuine) (by rw [e]; simp [e'])
    obtain ⟨ver, _, src', _, rec⟩ := accept_near (S := S) sy here.1 here.2
    exact ⟨here.1, ver, by rw [rec]⟩

/-- The first packet of three is lost. -/
theorem lossy_start_three :
    ((countingSender 0 3 (by decide)).run Sodium.transparent [.genuine 1]).1.streams 0 =
      some (RtpStream.at 1) ∧
    ∀ pre i post, [1, 2] = pre ++ i :: post →
      ∃ h : i < (countingSender 0 3 (by decide)).packets.length,
        ((countingSender 0 3 (by decide)).run Sodium.transparent (pre.map .genuine)).1.verify
          Sodium.transparent ((countingSender 0 3 (by decide)).datagram Sodium.transparent i) = true ∧
        (((countingSender 0 3 (by decide)).run Sodium.transparent (pre.map .genuine)).1.receive
          Sodium.transparent (.datagram
            ((countingSender 0 3 (by decide)).datagram Sodium.transparent i) true)).2 =
          some ⟨.ok, some (countingSender 0 3 (by decide)).packets[i], []⟩ :=
  lossy_start Sodium.transparent (countingSender 0 3 (by decide)) 1 [2] (by simp) (by decide) (by decide)

/-- With the packet numbered `65535` lost, the first packet delivered does not authenticate and
    leaves no stream. -/
theorem lost_rollOver_mutes :
    (RtpSrc.init rollOverSender.key).verify Sodium.transparent
      (rollOverSender.datagram Sodium.transparent 1) = false ∧
    ((rollOverSender.run Sodium.transparent [.genuine 1]).1.streams rollOverSender.ssrc).isNone := by
  decide +kernel

end Nanotalk
