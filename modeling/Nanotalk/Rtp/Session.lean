import Nanotalk.Rtp.Delivery

/-!
# The media session of a call

Model of `src/rtp-session.c`. A session has two pipelines, and of their elements the receiver `rtp_src`
and the sinks `rtp_sink`; the callbacks of the main context, and the loop of the receiver and the calls
of the sinks, which run in threads of their own, are the events of a session, taken one after the other.

* `g_idle_add (accept_cb, …)` counts a call in `idle`.
* A receiver creates buffers while its pipeline is playing. `rtpptdemux` gives a pad to a buffer that
  it got from the receiver, and emits `new-payload-type`.
* C `rtp_sink_render` is called while `tx_pipeline` is playing. The sink for video is in the pipeline
  while `enable_video` is set.
* Sounds, bit rates, the volume and the other elements are left out.

What a session does is kept in `log`, the last action first. `Reached.waiting` is the invariant of a
session that was launched: on hold it begins nothing before it is answered (`BeforeAnswer`), and in
any case it sends nothing before it is answered or the receiver accepts a packet (`BeforePacket`).
-/

namespace Nanotalk
open Glib

/-- The media of a session, each with a sink of its own. -/
inductive Medium where
  | audio
  | video
  deriving DecidableEq

/-- The states of a pipeline in use. -/
inductive GstState where
  | null
  | ready
  | playing
  deriving DecidableEq

/-- What a session does. -/
inductive SessionAction where
  /-- history: `rtp_session_launch` is called -/
  | launch (onHold : Bool)
  /-- history: `rtp_session_accept` is called for the answer to the dialog -/
  | answered
  /-- `gst_element_set_state` on `rx_pipeline` -/
  | setRx (state : GstState)
  /-- `gst_element_set_state` on `tx_pipeline` -/
  | setTx (state : GstState)
  /-- the receiver, as it is, pushes a buffer that it makes of a datagram -/
  | push (src : RtpSrc) (received : Received) (buffer : List UInt8)
  /-- `g_idle_add` of `accept_cb` -/
  | idleAdd
  /-- `g_socket_send` of an empty datagram -/
  | keepalive
  /-- the signal `hangup` -/
  | hangup

/-- C `struct _RtpSessionPrivate`, with the receiver and the sinks in its pipelines. -/
structure RtpSession where
  src : RtpSrc
  sinks : Medium → RtpSink
  rxPipeline : GstState
  txPipeline : GstState
  ioTimeoutSource : Nat
  enableVideo : Bool
  onHold : Bool
  /-- the calls of `accept_cb` that are queued -/
  idle : Nat
  /-- the buffers that `rtpptdemux` got from the receiver -/
  demux : List (List UInt8)
  /-- history: the calls of C `rtp_sink_render`, with the sink as it was -/
  rendered : List (RtpSink × Option (List UInt8))
  log : List SessionAction

/-- A message on the bus of a pipeline; an error has the name of the element that posts it. -/
inductive BusMessage where
  | error (src : String)
  | other

namespace RtpSession

/-- What happens to a session. -/
inductive Event where
  /-- a round of the loop of `rtp_src_create` -/
  | receive (received : Received)
  /-- `rtpptdemux` gives a pad to a buffer -/
  | newPayloadType (buffer : List UInt8) (pt : Nat)
  | render (r : Rendering Medium)
  | bus (message : BusMessage)
  | acceptCb
  | ioTimeout

variable (session : RtpSession)

/-- An entry in the log. -/
def act (action : SessionAction) : RtpSession := { session with log := action :: session.log }

/-- `gst_element_set_state` on `rx_pipeline`. -/
def setRx (state : GstState) : RtpSession :=
  { session.act (.setRx state) with rxPipeline := state }

/-- `gst_element_set_state` on `tx_pipeline`. -/
def setTx (state : GstState) : RtpSession :=
  { session.act (.setTx state) with txPipeline := state }

/-- `gst_child_proxy_set` of the property `enable` of the receiver. -/
def setEnable (enable : Bool) : RtpSession :=
  { session with src := { session.src with enable := enable } }

/-- C `rtp_session_new`. -/
def new (encKey decKey : DhtKey) (enableVideo : Bool) : RtpSession where
  src := .init decKey
  sinks _ := ⟨encKey, 0⟩
  rxPipeline := .null
  txPipeline := .null
  ioTimeoutSource := 0
  enableVideo := enableVideo
  onHold := false
  idle := 0
  demux := []
  rendered := []
  log := []

/-- C `rtp_session_launch`; `source` is the number that `g_timeout_add` gives. -/
def launch (onHold : Bool) (source : Nat) : RtpSession :=
  let session := session.act (.launch onHold)
  let session := if onHold then { session with onHold := true }.setEnable false else session
  if session.ioTimeoutSource = 0 then
    ({ session with ioTimeoutSource := source }.setTx .ready).setRx .playing
  else session

/-- C `rtp_session_accept`. -/
def accept : RtpSession :=
  let session :=
    if session.onHold then { session with onHold := false }.setEnable true else session
  if session.ioTimeoutSource > 0 then { session with ioTimeoutSource := 0 }.setTx .playing
  else session

/-- The call of `rtp_session_accept` in C `dialog_run`. -/
def answer : RtpSession := (session.act .answered).accept

/-- C `rtp_session_destroy`. -/
def destroy : RtpSession := (session.setRx .null).setTx .null

/-- One round of the loop of C `rtp_src_create`, and what becomes of its buffer. -/
def receive (S : Sodium) (received : Received) : RtpSession :=
  if session.rxPipeline = .playing then
    let (src, created) := session.src.receive S received
    match created.bind Created.buffer with
    | some buffer =>
      { session.act (.push session.src received buffer) with
        src := src
        demux := buffer :: session.demux }
    | none => { session with src := src }
  else session

/-- C `new_payload_type_cb`, if `rtpptdemux` got the buffer. -/
def newPayloadType (buffer : List UInt8) (pt : Nat) : RtpSession :=
  if buffer ∈ session.demux ∧ pt = 96 then
    { session.act .idleAdd with idle := session.idle + 1 }
  else session

/-- C `rtp_sink_render` of a sink in the pipeline, if this is playing. -/
def render (S : Sodium) (r : Rendering Medium) : RtpSession :=
  if session.txPipeline = .playing ∧ (r.sink = .video → session.enableVideo = true) then
    { session with
      sinks :=
        Function.update session.sinks r.sink ((session.sinks r.sink).render S r.buffer r.sendError).1
      rendered := session.rendered ++ [(session.sinks r.sink, r.buffer)] }
  else session

/-- C `bus_watch_cb`, and whether it emits the signal `hangup`. -/
def busWatch : BusMessage → RtpSession × Bool
  | .error src =>
    if src.startsWith "video_" ∧ session.ioTimeoutSource > 0 then
      if session.enableVideo then
        -- Try to recover from broken video pipeline
        (({ session with enableVideo := false }.setTx .null).setTx .ready, false)
      else (session, false)
    else (session.act .hangup, true)
  | .other => (session, false)

/-- C `accept_cb`. -/
def acceptCb : RtpSession :=
  if session.idle > 0 then { session with idle := session.idle - 1 }.accept else session

/-- C `io_timeout_cb`. -/
def ioTimeout : RtpSession :=
  if session.ioTimeoutSource > 0 then session.act .keepalive else session

/-- A session after an event, and whether it emits the signal `hangup`. -/
def step (S : Sodium) : Event → RtpSession × Bool
  | .receive received => (session.receive S received, false)
  | .newPayloadType buffer pt => (session.newPayloadType buffer pt, false)
  | .render r => (session.render S r, false)
  | .bus message => session.busWatch message
  | .acceptCb => (session.acceptCb, false)
  | .ioTimeout => (session.ioTimeout, false)

end RtpSession

/-! ## The receiver -/

namespace RtpSrc

variable {S : Sodium} {src : RtpSrc} {received : Received}

/-- Receiving leaves the property `enable`. -/
lemma receive_enable : (src.receive S received).1.enable = src.enable := by
  by_cases acc : src.Accepts S received
  · rw [(receive_of_accepts acc).1]
  · rw [(receive_of_not_accepts acc).1]

/-- A buffer is made of an accepted datagram only. -/
lemma accepts_of_buffer {buffer : List UInt8}
    (pushed : (src.receive S received).2.bind Created.buffer = some buffer) :
    src.Accepts S received := by
  by_contra no
  rw [(receive_of_not_accepts no).2] at pushed
  cases pushed

end RtpSrc

/-! ## Before the call -/

namespace SessionAction

/-- The call begins: media is sent, or received media is passed on. -/
def begins : SessionAction → Prop
  | setTx state => state = .playing
  | push .. => True
  | idleAdd => True
  | _ => False

/-- The receiver accepted a packet that passed authentication. -/
def Heard (S : Sodium) (log : List SessionAction) : Prop :=
  ∃ src received buffer, push src received buffer ∈ log ∧ src.Accepts S received

/-- `Q` holds of every entry of a log and those before it. -/
def Each (Q : SessionAction → List SessionAction → Prop) (log : List SessionAction) : Prop :=
  ∀ action earlier, action :: earlier <:+ log → Q action earlier

/-- An entry is added. -/
lemma each_cons {Q : SessionAction → List SessionAction → Prop} {action : SessionAction}
    {log : List SessionAction} (each : Each Q log) (first : Q action log) : Each Q (action :: log) := by
  intro action' earlier suffix
  rcases List.suffix_cons_iff.mp suffix with e | old
  · obtain ⟨rfl, rfl⟩ := List.cons.inj e
    exact first
  · exact each action' earlier old

/-- What was heard stays heard. -/
lemma Heard.cons {S : Sodium} {log : List SessionAction} (heard : Heard S log)
    (action : SessionAction) : Heard S (action :: log) := by
  obtain ⟨src, received, buffer, mem, accepted⟩ := heard
  exact ⟨src, received, buffer, List.mem_cons_of_mem _ mem, accepted⟩

/-- Nothing begins before the call is answered. -/
def BeforeAnswer (log : List SessionAction) : Prop :=
  Each (fun action earlier => answered ∉ earlier → ¬ action.begins) log

/-- Nothing is sent before the call is answered or a packet is received. -/
def BeforePacket (S : Sodium) (log : List SessionAction) : Prop :=
  Each (fun action earlier => action = setTx .playing → answered ∉ earlier → Heard S earlier) log

end SessionAction

namespace RtpSession
open SessionAction

/-- The sessions that a launch leads to. -/
inductive Reached (S : Sodium) (onHold : Bool) : RtpSession → Prop
  | launch (encKey decKey : DhtKey) (enableVideo : Bool) (source : Nat) :
    Reached S onHold ((new encKey decKey enableVideo).launch onHold source)
  | step {session : RtpSession} (e : Event) (reached : Reached S onHold session) :
    Reached S onHold (session.step S e).1
  | answer {session : RtpSession} (reached : Reached S onHold session) :
    Reached S onHold session.answer
  | destroy {session : RtpSession} (reached : Reached S onHold session) :
    Reached S onHold session.destroy

/-- What holds of a session that was launched. -/
structure Waiting (S : Sodium) (onHold : Bool) (session : RtpSession) : Prop where
  launched : ∀ b, .launch b ∈ session.log ↔ b = onHold
  /-- the receiver of a call that is to be answered drops everything -/
  held : onHold = true → answered ∉ session.log →
    session.src.enable = false ∧ session.idle = 0 ∧ session.demux = []
  heard : 0 < session.idle ∨ session.demux ≠ [] → Heard S session.log
  answer : onHold = true → BeforeAnswer session.log
  packet : BeforePacket S session.log

section Steps

variable {S : Sodium} {onHold : Bool} {session session' : RtpSession}

/-- An entry is added to the log. -/
lemma Waiting.add (W : session.Waiting S onHold) (action : SessionAction)
    (log : session'.log = action :: session.log) (next : ∀ b, .launch b ≠ action)
    (quiet : onHold = true → answered ∉ session.log → ¬ action.begins)
    (late : action = .setTx .playing → answered ∉ session.log → Heard S session.log)
    (held : onHold = true → answered ∉ session'.log →
      session'.src.enable = false ∧ session'.idle = 0 ∧ session'.demux = [])
    (heard : 0 < session'.idle ∨ session'.demux ≠ [] → Heard S session'.log) :
    session'.Waiting S onHold where
  launched b := by
    rw [log, List.mem_cons, or_iff_right (next b)]
    exact W.launched b
  held := held
  heard := heard
  answer hold := log ▸ each_cons (W.answer hold) (quiet hold)
  packet := log ▸ each_cons W.packet late

/-- An entry that begins nothing is added. -/
lemma Waiting.plain (W : session.Waiting S onHold) (action : SessionAction) (plain : ¬ action.begins)
    (log : session'.log = action :: session.log) (next : ∀ b, .launch b ≠ action)
    (enable : session'.src.enable = session.src.enable) (idle : session'.idle = session.idle)
    (demux : session'.demux = session.demux) : session'.Waiting S onHold := by
  refine W.add action log next (fun _ _ => plain) ?_ ?_ ?_
  · rintro rfl
    exact absurd rfl plain
  · rw [log, enable, idle, demux, List.mem_cons, not_or]
    exact fun hold silent => W.held hold silent.2
  · rw [log, idle, demux]
    exact fun some => (W.heard some).cons action

/-- The sending pipeline is set to a state in which it does not send. -/
lemma Waiting.setTx (W : session.Waiting S onHold) (state : GstState) (ne : state ≠ .playing) :
    (session.setTx state).Waiting S onHold :=
  W.plain (.setTx state) ne rfl nofun rfl rfl rfl

/-- The receiving pipeline is set to a state. -/
lemma Waiting.setRx (W : session.Waiting S onHold) (state : GstState) :
    (session.setRx state).Waiting S onHold :=
  W.plain (.setRx state) id rfl nofun rfl rfl rfl

/-- No entry is added. -/
lemma Waiting.same (W : session.Waiting S onHold) (log : session'.log = session.log)
    (held : onHold = true → answered ∉ session'.log →
      session'.src.enable = false ∧ session'.idle = 0 ∧ session'.demux = [])
    (heard : 0 < session'.idle ∨ session'.demux ≠ [] → Heard S session'.log) :
    session'.Waiting S onHold where
  launched := log ▸ W.launched
  held := held
  heard := heard
  answer := log ▸ W.answer
  packet := log ▸ W.packet

/-- A session that is launched waits. -/
lemma waiting_launch (encKey decKey : DhtKey) (enableVideo : Bool) (source : Nat) :
    ((new encKey decKey enableVideo).launch onHold source).Waiting S onHold := by
  have first : ∀ Q : SessionAction → List SessionAction → Prop, Q (.launch onHold) [] →
      Each Q [.launch onHold] := fun Q first =>
    each_cons (fun _ _ suffix => absurd (List.eq_nil_of_suffix_nil suffix) nofun) first
  have launched : ∀ b, .launch b ∈ [SessionAction.launch onHold] ↔ b = onHold := fun b => by simp
  unfold RtpSession.launch
  dsimp only
  generalize held : (if onHold = true then
    { (new encKey decKey enableVideo).act (.launch onHold) with onHold := true }.setEnable false
    else (new encKey decKey enableVideo).act (.launch onHold)) = session
  have W : session.Waiting S onHold := by
    rw [← held]
    split
    · exact
        { launched := launched
          held := fun _ _ => ⟨rfl, rfl, rfl⟩
          heard := by rintro (pos | some) <;> contradiction
          answer := fun _ => first _ fun _ => id
          packet := first _ nofun }
    · rename_i open_
      exact
        { launched := launched
          held := fun hold => absurd hold open_
          heard := by rintro (pos | some) <;> contradiction
          answer := fun hold => absurd hold open_
          packet := first _ nofun }
  split
  · have W' : { session with ioTimeoutSource := source }.Waiting S onHold := W.same rfl W.held W.heard
    exact (W'.setTx .ready nofun).setRx .playing
  · exact W

/-- A call is accepted that was answered, or whose peer was heard. -/
lemma Waiting.accept (W : session.Waiting S onHold)
    (answer : onHold = true → answered ∈ session.log)
    (heard : answered ∉ session.log → Heard S session.log) : session.accept.Waiting S onHold := by
  unfold RtpSession.accept
  dsimp only
  generalize enabled : (if session.onHold = true then
    { session with onHold := false }.setEnable true else session) = session'
  have log : session'.log = session.log := by
    rw [← enabled]
    split <;> rfl
  have same : session'.idle = session.idle ∧ session'.demux = session.demux := by
    rw [← enabled]
    split <;> exact ⟨rfl, rfl⟩
  have W' : session'.Waiting S onHold := by
    refine W.same log ?_ ?_
    · rw [log]
      exact fun hold silent => absurd (answer hold) silent
    · rw [same.1, same.2, log]
      exact W.heard
  rw [← log] at answer heard
  split
  · refine W'.add (.setTx .playing) rfl nofun ?_ ?_ ?_ ?_
    · exact fun hold silent => absurd (answer hold) silent
    · exact fun _ => heard
    · exact fun hold silent => absurd (List.mem_cons_of_mem _ (answer hold)) silent
    · exact fun some => (W'.heard some).cons _
  · exact W'

/-- An answer ends the waiting. -/
lemma Waiting.answer_session (W : session.Waiting S onHold) : session.answer.Waiting S onHold := by
  have W' : (session.act .answered).Waiting S onHold := W.plain .answered id rfl nofun rfl rfl rfl
  exact W'.accept (fun _ => List.mem_cons_self) fun silent => absurd List.mem_cons_self silent

/-- A session is destroyed. -/
lemma Waiting.destroy (W : session.Waiting S onHold) : session.destroy.Waiting S onHold :=
  (W.setRx .null).setTx .null nofun

/-- `accept_cb` runs if it was queued. -/
lemma Waiting.acceptCb (W : session.Waiting S onHold) : session.acceptCb.Waiting S onHold := by
  unfold RtpSession.acceptCb
  split
  · rename_i pos
    have heard := W.heard (.inl pos)
    have W' : { session with idle := session.idle - 1 }.Waiting S onHold := by
      refine W.same rfl ?_ fun _ => heard
      intro hold silent
      obtain ⟨enable, idle, demux⟩ := W.held hold silent
      exact ⟨enable, by simp [idle], demux⟩
    refine W'.accept (fun hold => ?_) fun _ => heard
    by_contra silent
    exact Nat.ne_of_gt pos (W.held hold silent).2.1
  · exact W

/-- A session receives. -/
lemma Waiting.receive (W : session.Waiting S onHold) (received : Received) :
    (session.receive S received).Waiting S onHold := by
  unfold RtpSession.receive
  split
  · dsimp only
    split
    · rename_i buffer pushed
      have accepted := RtpSrc.accepts_of_buffer pushed
      have heard : Heard S (.push session.src received buffer :: session.log) :=
        ⟨_, _, _, List.mem_cons_self, accepted⟩
      -- the receiver is enabled, so the call was answered
      have answered : onHold = true → answered ∈ session.log := by
        intro hold
        by_contra silent
        exact Bool.false_ne_true ((W.held hold silent).1.symm.trans accepted.1)
      refine W.add (.push session.src received buffer) rfl nofun ?_ nofun ?_ fun _ => heard
      · exact fun hold silent => absurd (answered hold) silent
      · exact fun hold silent => absurd (List.mem_cons_of_mem _ (answered hold)) silent
    · refine W.same rfl ?_ W.heard
      rw [RtpSrc.receive_enable]
      exact W.held
  · exact W

/-- The first packet of a payload type. -/
lemma Waiting.newPayloadType (W : session.Waiting S onHold) (buffer : List UInt8) (pt : Nat) :
    (session.newPayloadType buffer pt).Waiting S onHold := by
  unfold RtpSession.newPayloadType
  split
  · rename_i got
    have some : session.demux ≠ [] := List.ne_nil_of_mem got.1
    have answered : onHold = true → answered ∈ session.log := by
      intro hold
      by_contra silent
      exact some (W.held hold silent).2.2
    refine W.add .idleAdd rfl nofun ?_ nofun ?_ fun _ => (W.heard (.inr some)).cons _
    · exact fun hold silent => absurd (answered hold) silent
    · exact fun hold silent => absurd (List.mem_cons_of_mem _ (answered hold)) silent
  · exact W

/-- A sink renders. -/
lemma Waiting.render (W : session.Waiting S onHold) (r : Rendering Medium) :
    (session.render S r).Waiting S onHold := by
  unfold RtpSession.render
  split
  · exact W.same rfl W.held W.heard
  · exact W

/-- A message of the bus. -/
lemma Waiting.busWatch (W : session.Waiting S onHold) (message : BusMessage) :
    (session.busWatch message).1.Waiting S onHold := by
  unfold RtpSession.busWatch
  split
  · split
    · split
      · have W' : { session with enableVideo := false }.Waiting S onHold := W.same rfl W.held W.heard
        exact (W'.setTx .null nofun).setTx .ready nofun
      · exact W
    · exact W.plain .hangup id rfl nofun rfl rfl rfl
  · exact W

/-- The timeout sends a keepalive. -/
lemma Waiting.ioTimeout (W : session.Waiting S onHold) : session.ioTimeout.Waiting S onHold := by
  unfold RtpSession.ioTimeout
  split
  · exact W.plain .keepalive id rfl nofun rfl rfl rfl
  · exact W

/-- What every event keeps. -/
theorem Waiting.step (W : session.Waiting S onHold) (e : Event) :
    (session.step S e).1.Waiting S onHold := by
  cases e with
  | receive received => exact W.receive received
  | newPayloadType buffer pt => exact W.newPayloadType buffer pt
  | render r => exact W.render r
  | bus message => exact W.busWatch message
  | acceptCb => exact W.acceptCb
  | ioTimeout => exact W.ioTimeout

/-- A session that is reached waits for its answer. -/
theorem Reached.waiting (reached : Reached S onHold session) : session.Waiting S onHold := by
  induction reached with
  | launch encKey decKey enableVideo source => exact waiting_launch encKey decKey enableVideo source
  | step e _ ih => exact ih.step e
  | answer _ ih => exact ih.answer_session
  | destroy _ ih => exact ih.destroy

end Steps

end RtpSession

end Nanotalk
