import Nanotalk.Rtp.Src

/-!
# What the receiver pushes

Any number of sinks of one peer render buffers under one key, with any SSRC and any numbering, and
the receiver takes datagrams from anywhere in between. `Media` is the state of both ends, `rendered`
lists the calls of C `rtp_sink_render` with the sink as it was at the call.

The tag is ideal in a run (`Media.Ideal`) when C `dht_stream_verify` succeeds only on what the peer
gave to C `dht_stream_auth` before, under the same nonce and with the same tag as result.

* `render_authCall`: what a sink sends is what it authenticates, followed by the tag.
* `create_rounds`: C `rtp_src_create` returns what the last of its rounds returns.
* `delivered_exactly`: an accepted datagram is a packet of the peer, anything else changes nothing.
-/

namespace Nanotalk
open Glib

/-- A call of C `dht_stream_auth` with its result. -/
structure AuthCall where
  data : List UInt8
  nonce : Bytes 12
  mac : Bytes 16

/-- The call of C `dht_stream_auth` in C `rtp_sink_render`. -/
def RtpSink.authCall (S : Sodium) (sink : RtpSink) : Option (List UInt8) → Option AuthCall
  | some data =>
    if IsRtp data then
      let nonce := rtpNonce sink.roc (readUInt16BE data 2) (readUInt32BE data 8)
      let packet := sealedBody S sink.key nonce data
      some ⟨packet, nonce, dhtStreamAuth S packet nonce sink.key⟩
    else none
  | none => none

/-- What a sink sends is what it authenticates, followed by the tag. -/
lemma render_authCall (S : Sodium) (sink : RtpSink) (buffer : Option (List UInt8))
    (sendError : Option String) : (sink.render S buffer sendError).2.sent =
      (sink.authCall S buffer).map fun call => ⟨call.nonce, call.data ++ call.mac.toList⟩ := by
  cases buffer with
  | none => rfl
  | some data =>
    by_cases rtp : IsRtp data
    · simp [RtpSink.render, RtpSink.authCall, rtp, sealPacket_eq]
    · simp [RtpSink.render, RtpSink.authCall, rtp]

/-- What the receive buffer holds. -/
def Received.packet : Received → List UInt8
  | .datagram data _ => data.take PACKET_MTU
  | _ => []

namespace RtpSrc

/-- The tag of a packet. -/
def tag (packet : List UInt8) : Bytes 16 := fun i => packet.getD (packet.length - 16 + i) 0

/-- A datagram is accepted: C `dht_stream_verify` is called on it and succeeds. -/
def Accepts (S : Sodium) (src : RtpSrc) (r : Received) : Prop :=
  src.enable = true ∧ 28 < r.packet.length ∧ r.packet.getD 0 0 = 0x80 ∧ src.verify S r.packet = true

instance (S : Sodium) (src : RtpSrc) (r : Received) : Decidable (src.Accepts S r) :=
  inferInstanceAs (Decidable (_ ∧ _))

/-- The packet that the receiver makes of a datagram. -/
def openPacket (S : Sodium) (src : RtpSrc) (packet : List UInt8) : List UInt8 :=
  let body := packet.take (packet.length - 16)
  body.take 12 ++ dhtStreamXor S (body.drop 12) (src.nonce packet) src.key

variable {S : Sodium} {src : RtpSrc} {r : Received}

/-- A round with an accepted datagram. -/
lemma receive_of_accepts (acc : src.Accepts S r) :
    (src.receive S r).1 = { src with
      streams := Function.update src.streams (readUInt32BE r.packet 8)
        (some ⟨src.roc r.packet, readUInt16BE r.packet 2⟩) } ∧
    ∀ b, (src.receive S r).2.bind Created.buffer = some b → b = src.openPacket S r.packet := by
  obtain ⟨en, long, first, ver⟩ := acc
  cases r with
  | cancelled => cases long
  | failed message => cases long
  | datagram data allocated =>
    have some_bytes : ¬ ((data.take PACKET_MTU).length = 0 ∨ src.enable = false) := by
      rintro (h | h)
      · exact absurd (h ▸ long : 28 < 0) (by decide)
      · rw [en] at h
        cases h
    have ver : src.verify S (data.take PACKET_MTU) = true := ver
    unfold receive
    dsimp only
    rw [if_neg some_bytes, if_pos ⟨long, first⟩]
    rw [if_pos ver]
    cases allocated with
    | false => exact ⟨rfl, fun b e => by cases e⟩
    | true => exact ⟨rfl, fun b e => by cases e; rfl⟩

/-- A round with anything else. -/
lemma receive_of_not_accepts (no : ¬ src.Accepts S r) :
    (src.receive S r).1 = src ∧ (src.receive S r).2.bind Created.buffer = none := by
  cases r with
  | cancelled => exact ⟨rfl, rfl⟩
  | failed message => exact ⟨rfl, rfl⟩
  | datagram data allocated =>
    unfold receive
    dsimp only
    split
    · exact ⟨rfl, rfl⟩
    · rename_i run
      split
      · rename_i head
        split
        · rename_i ver
          have en : src.enable = true := by
            by_contra off
            exact run (.inr (by simpa using off))
          exact absurd ⟨en, head.1, head.2, ver⟩ no
        · exact ⟨rfl, rfl⟩
      · exact ⟨rfl, rfl⟩

/-- C `rtp_src_create` discards datagrams that leave the receiver as it is and returns what the last
    of its rounds returns. -/
lemma create_rounds {rs rest : List Received} {src' : RtpSrc} {created : Option Created}
    (e : src.create S rs = (src', rest, created)) :
    (created = none ∧ rest = [] ∧ src' = src ∧ ∀ r ∈ rs, src.receive S r = (src, none)) ∨
    ∃ skipped r, rs = skipped ++ r :: rest ∧ (∀ d ∈ skipped, src.receive S d = (src, none)) ∧
      src.receive S r = (src', created) := by
  induction rs with
  | nil =>
    cases e
    exact .inl ⟨rfl, rfl, rfl, List.forall_mem_nil _⟩
  | cons r rs ih =>
    rw [create] at e
    split at e
    · rename_i src₁ c er
      cases e
      exact .inr ⟨[], r, rfl, List.forall_mem_nil _, er⟩
    · rename_i src₁ er
      -- a round that continues has accepted nothing
      obtain rfl : src₁ = src := by
        by_cases acc : src.Accepts S r
        · obtain ⟨en, long, first, ver⟩ := acc
          cases r with
          | cancelled => cases long
          | failed message => cases long
          | datagram data allocated =>
            unfold receive at er
            dsimp only at er
            split at er
            · exact (Prod.mk.inj er).1.symm
            · split at er
              · split at er
                · split at er <;> cases er
                · exact (Prod.mk.inj er).1.symm
              · exact (Prod.mk.inj er).1.symm
        · have stay := (receive_of_not_accepts acc).1
          rw [er] at stay
          exact stay
      rcases ih e with ⟨rfl, rfl, rfl, all⟩ | ⟨skipped, d, rfl, all, ed⟩
      · exact .inl ⟨rfl, rfl, rfl, List.forall_mem_cons.mpr ⟨er, all⟩⟩
      · exact .inr ⟨r :: skipped, d, rfl, List.forall_mem_cons.mpr ⟨er, all⟩, ed⟩

end RtpSrc

/-! ## Both ends -/

/-- What happens: a sink renders a buffer, the receiver takes a datagram, the session switches the
    receiver on or off. -/
inductive MediaEvent (ι : Type) where
  | render (r : Rendering ι)
  | receive (r : Received)
  | enable (enable : Bool)

/-- The sinks of the peer, the receiver, and the calls of C `rtp_sink_render` so far. -/
structure Media (ι : Type) where
  sinks : ι → RtpSink
  src : RtpSrc
  rendered : List (RtpSink × Option (List UInt8))

namespace Media

variable {ι : Type} [DecidableEq ι] (S : Sodium) (key : DhtKey)

/-- New sinks and a new receiver. -/
def new : Media ι := ⟨fun _ => ⟨key, 0⟩, RtpSrc.init key, []⟩

/-- One event. -/
def step (m : Media ι) : MediaEvent ι → Media ι
  | .render r =>
    { m with
      sinks := Function.update m.sinks r.sink ((m.sinks r.sink).render S r.buffer r.sendError).1
      rendered := m.rendered ++ [(m.sinks r.sink, r.buffer)] }
  | .receive r => { m with src := (m.src.receive S r).1 }
  | .enable enable => { m with src := { m.src with enable := enable } }

/-- Both ends after a sequence of events. -/
def run (es : List (MediaEvent ι)) : Media ι := es.foldl (step S) (new key)

/-- The calls of C `dht_stream_auth` so far. -/
def authCalls (m : Media ι) : List AuthCall :=
  m.rendered.filterMap fun p => p.1.authCall S p.2

/-- The tag of what is accepted was computed by the peer, for the same data and nonce. -/
def Ideal (m : Media ι) : MediaEvent ι → Prop
  | .receive r => m.src.Accepts S r → ∃ call ∈ m.authCalls S,
      call.data = r.packet.take (r.packet.length - 16) ∧ call.nonce = m.src.nonce r.packet ∧
        call.mac = RtpSrc.tag r.packet
  | _ => True

omit [DecidableEq ι] in
instance Ideal.decidable (m : Media ι) (e : MediaEvent ι) : Decidable (m.Ideal S e) :=
  match e with
  | .receive _ => inferInstanceAs (Decidable (_ → ∃ call ∈ _, _ ∧ _ ∧ _))
  | .render _ => .isTrue trivial
  | .enable _ => .isTrue trivial

/-- Everybody has the key. -/
structure Keyed (m : Media ι) : Prop where
  sinks : ∀ k, (m.sinks k).key = key
  src : m.src.key = key
  rendered : ∀ p ∈ m.rendered, p.1.key = key

variable {S key}

omit [DecidableEq ι] in
lemma receive_key (src : RtpSrc) (r : Received) : (src.receive S r).1.key = src.key := by
  by_cases acc : src.Accepts S r
  · rw [(RtpSrc.receive_of_accepts acc).1]
  · rw [(RtpSrc.receive_of_not_accepts acc).1]

lemma Keyed.step {m : Media ι} (keyed : m.Keyed key) (e : MediaEvent ι) : (m.step S e).Keyed key := by
  obtain ⟨sinks, src, rendered⟩ := keyed
  cases e with
  | render r =>
    refine ⟨fun k => ?_, src, fun p hp => ?_⟩
    · show (Function.update m.sinks r.sink _ k).key = key
      by_cases same : k = r.sink
      · rw [same, Function.update_self, render_sink]
        exact sinks r.sink
      · rw [Function.update_of_ne same]
        exact sinks k
    · rcases List.mem_append.mp hp with hp | hp
      · exact rendered p hp
      · cases List.mem_singleton.mp hp
        exact sinks r.sink
  | receive r => exact ⟨sinks, (receive_key m.src r).trans src, rendered⟩
  | enable b => exact ⟨sinks, src, rendered⟩

lemma keyed_run (es : List (MediaEvent ι)) : (run S key es).Keyed key := by
  induction es using List.reverseRecOn with
  | nil => exact ⟨fun _ => rfl, rfl, List.forall_mem_nil _⟩
  | append_singleton es e ih =>
    rw [run, List.foldl_append]
    exact ih.step e

omit [DecidableEq ι] in
/-- An accepted datagram is a packet of the peer, guessed right. -/
lemma accepted_rendered {m : Media ι} {r : Received} (keyed : m.Keyed key)
    (ideal : m.Ideal S (.receive r)) (acc : m.src.Accepts S r) :
    ∃ sink data, (sink, some data) ∈ m.rendered ∧ IsRtp data ∧
      m.src.openPacket S r.packet = data ∧ readUInt32BE r.packet 8 = readUInt32BE data 8 ∧
      readUInt16BE r.packet 2 = readUInt16BE data 2 ∧
      (m.src.roc r.packet).toNat % 2 ^ 48 = sink.roc.toNat % 2 ^ 48 := by
  obtain ⟨call, hcall, edata, enonce, -⟩ := ideal acc
  obtain ⟨⟨sink, buffer⟩, hp, made⟩ := List.mem_filterMap.mp hcall
  cases buffer with
  | none => cases made
  | some data =>
    by_cases rtp : IsRtp data
    · rw [RtpSink.authCall, if_pos rtp] at made
      cases made
      have same : sink.key = m.src.key := (keyed.rendered _ hp).trans keyed.src.symm
      obtain ⟨roc, seq, ssrc⟩ := rtpNonce_inj.mp enonce
      refine ⟨sink, data, hp, rtp, ?_, ssrc.symm, seq.symm, roc.symm⟩
      have opened := sealedBody_open S sink.key
        (rtpNonce sink.roc (readUInt16BE data 2) (readUInt32BE data 8)) rtp.1.le
      unfold RtpSrc.openPacket
      dsimp only at edata enonce ⊢
      rw [← edata, ← enonce, ← same]
      exact opened
    · rw [RtpSink.authCall, if_neg rtp] at made
      cases made

/-- Every buffer pushed is a packet the peer's sinks were given, header and payload, and what is
    stored for its SSRC is its sequence number and, modulo `2 ^ 48`, the sender's roll-over counter
    for it. A datagram that is not accepted leaves the receiver as it is and is not pushed. -/
theorem delivered_exactly (S : Sodium) (key : DhtKey) (es : List (MediaEvent ι))
    (ideal : ∀ i (h : i < es.length), (run S key (es.take i)).Ideal S es[i])
    (i : Nat) (h : i < es.length) (r : Received) (e : es[i] = .receive r) :
    ((run S key (es.take i)).src.Accepts S r →
      ∃ sink data roc, (sink, some data) ∈ (run S key (es.take i)).rendered ∧ IsRtp data ∧
        (∀ b, ((run S key (es.take i)).src.receive S r).2.bind Created.buffer = some b → b = data) ∧
        roc.toNat % 2 ^ 48 = sink.roc.toNat % 2 ^ 48 ∧
        ((run S key (es.take i)).src.receive S r).1.streams =
          Function.update (run S key (es.take i)).src.streams (readUInt32BE data 8)
            (some ⟨roc, readUInt16BE data 2⟩)) ∧
    (¬ (run S key (es.take i)).src.Accepts S r →
      ((run S key (es.take i)).src.receive S r).1 = (run S key (es.take i)).src ∧
      ((run S key (es.take i)).src.receive S r).2.bind Created.buffer = none) := by
  refine ⟨fun acc => ?_, RtpSrc.receive_of_not_accepts⟩
  have ideal := ideal i h
  rw [e] at ideal
  obtain ⟨sink, data, hp, rtp, opened, ssrc, seq, roc⟩ :=
    accepted_rendered (keyed_run (es.take i)) ideal acc
  obtain ⟨state, pushed⟩ := RtpSrc.receive_of_accepts acc
  refine ⟨sink, data, _, hp, rtp, fun b eb => (pushed b eb).trans opened, roc, ?_⟩
  rw [state, ssrc, seq]

/-- The peer renders a packet of either SSRC; in between come a forged datagram, the first packet,
    and its replay. -/
def replayed : List (MediaEvent Bool) :=
  let packet (ssrc : UInt8) : List UInt8 := [0x80, 0, 0, 7, 0, 0, 0, 0, 0, 0, 0, ssrc, 42]
  let datagram := sealPacket Sodium.transparent ⟨fun _ => 0⟩ (rtpNonce 0 7 1) (packet 1)
  [.render ⟨true, some (packet 1), none⟩, .receive (.datagram (datagram.map (· ^^^ 1)) true),
    .receive (.datagram (packet 1 ++ List.replicate 16 0) true), .render ⟨false, some (packet 2), none⟩,
    .receive (.datagram datagram true), .receive (.datagram datagram true)]

/-- The replay is pushed once more. -/
theorem delivered_exactly_replayed :
    let m := run Sodium.transparent ⟨fun _ => 0⟩ (replayed.take 5)
    let datagram := sealPacket Sodium.transparent ⟨fun _ => 0⟩ (rtpNonce 0 7 1)
      [0x80, 0, 0, 7, 0, 0, 0, 0, 0, 0, 0, 1, 42]
    ∃ sink data roc, (sink, some data) ∈ m.rendered ∧ IsRtp data ∧
      (∀ b, (m.src.receive Sodium.transparent (.datagram datagram true)).2.bind Created.buffer =
        some b → b = data) ∧
      roc.toNat % 2 ^ 48 = sink.roc.toNat % 2 ^ 48 ∧
      (m.src.receive Sodium.transparent (.datagram datagram true)).1.streams =
        Function.update m.src.streams (readUInt32BE data 8) (some ⟨roc, readUInt16BE data 2⟩) :=
  (delivered_exactly Sodium.transparent ⟨fun _ => 0⟩ replayed (by decide +kernel) 5 (by decide) _
    rfl).1 (by decide +kernel)

end Media

end Nanotalk
