import Nanotalk.App.Application

/-!
# Deferred acceptance

C `new_payload_type_cb` queues C `accept_cb` with `g_idle_add`. The source has neither a reference to
the session nor an id by which C `rtp_session_destroy` could remove it, as it does with the timeouts.

* `Strands`: the events that leave a call of `accept_cb` queued for a destroyed session.
* `accepts_live_iff`: whatever the main loop dispatches next in a run, `accept_cb` gets a session that
  is there, if and only if no event of the run is one of these.
* `stopped_call_accepts`: the user stops a call before a queued `accept_cb` is dispatched.
-/

namespace Nanotalk
namespace Application

variable {app : Application} {S : Sodium}

/-- The number of calls of `accept_cb` that are queued for a session. -/
def queue (app : Application) (n : Nat) : Nat := app.sessions[n]?.elim 0 RtpSession.idle

/-- The main loop has `accept_cb` to dispatch only for sessions that are not destroyed. -/
def AcceptsLive (app : Application) : Prop := ∀ n, app.queue n ≠ 0 → n ∈ app.live

/-- C `call_stop` gets to `app->session`. -/
def Stops (app : Application) : Event → Prop
  | .stop => app.buttonStop = true ∧ app.callDialog = false
  | .toggle _ => app.buttonStart = false ∧ app.buttonStop = true ∧ app.callDialog = false
  | .dialogReturn => ∃ response dialogs, app.dialogs = some response :: dialogs ∧ response ≠ .yes
  | .session n (.bus message) => n ∈ app.live ∧ app.callDialog = false ∧
    ∃ session, app.sessions[n]? = some session ∧ (session.busWatch message).2 = true
  | _ => False

/-- A call of `accept_cb` is queued for a session that is, or now gets, destroyed. -/
def Strands (app : Application) : Event → Prop
  | .session n (.newPayloadType buffer pt) => n ∉ app.live ∧
    ∃ session, app.sessions[n]? = some session ∧ buffer ∈ session.demux ∧ pt = 96
  | e => app.Stops e ∧ ∃ n, app.session = some n ∧ app.queue n ≠ 0

/-! ## The queue -/

/-- A call on a session that leaves its queue alone. -/
lemma queue_call {f : RtpSession → RtpSession} (same : ∀ session, (f session).idle = session.idle)
    (m n : Nat) : (app.call m f).queue n = app.queue n := by
  rw [queue, queue, call, List.getElem?_modify]
  cases app.sessions[n]? with
  | none => rfl
  | some session =>
    show (if m = n then f session else session).idle = session.idle
    split
    · exact same session
    · rfl

/-- A call on a session leaves the queues of the others alone. -/
lemma queue_call_ne {m n : Nat} (f : RtpSession → RtpSession) (ne : m ≠ n) :
    (app.call m f).queue n = app.queue n := by
  rw [queue, queue, call, List.getElem?_modify]
  simp [ne]

/-- The queue of the session that is called. -/
lemma queue_call_self {n : Nat} {session : RtpSession} (f : RtpSession → RtpSession)
    (here : app.sessions[n]? = some session) : (app.call n f).queue n = (f session).idle := by
  rw [queue, call, List.getElem?_modify, here]
  simp

/-- A session is launched with an empty queue. -/
lemma queue_launch (encKey decKey : DhtKey) (enableVideo onHold : Bool) (n : Nat) :
    (app.launch encKey decKey enableVideo onHold).queue n = app.queue n := by
  have idle : ((RtpSession.new encKey decKey enableVideo).launch onHold
      (app.sessions.length + 1)).idle = 0 := by
    cases onHold <;> rfl
  rw [queue, queue, launch]
  rcases Nat.lt_trichotomy n app.sessions.length with lt | e | gt
  · rw [List.getElem?_append_left lt]
  · subst e
    rw [List.getElem?_concat_length, List.getElem?_eq_none (Nat.le_refl _)]
    exact idle
  · rw [List.getElem?_eq_none, List.getElem?_eq_none (Nat.le_of_lt gt)]
    rw [List.length_append]
    exact gt

end Application

namespace RtpSession

variable {S : Sodium} {session : RtpSession}

@[simp] lemma idle_accept : session.accept.idle = session.idle := by
  unfold accept
  dsimp only
  split <;> split <;> rfl

@[simp] lemma idle_answer : session.answer.idle = session.idle := idle_accept

@[simp] lemma idle_busWatch (message : BusMessage) :
    (session.busWatch message).1.idle = session.idle := by
  unfold busWatch
  split
  · split
    · split <;> rfl
    · rfl
  · rfl

lemma idle_destroy (session : RtpSession) : session.destroy.idle = session.idle := rfl

/-- Only a signal of the streaming thread queues a call. -/
lemma idle_step (e : Event) (queued : (session.step S e).1.idle ≠ 0) : session.idle ≠ 0 ∨
    ∃ buffer pt, e = .newPayloadType buffer pt ∧ buffer ∈ session.demux ∧ pt = 96 := by
  cases e with
  | receive received =>
    have queued : (session.receive S received).idle ≠ 0 := queued
    unfold receive at queued
    split at queued
    · dsimp only at queued
      split at queued <;> exact .inl queued
    · exact .inl queued
  | newPayloadType buffer pt =>
    have queued : (session.newPayloadType buffer pt).idle ≠ 0 := queued
    unfold newPayloadType at queued
    split at queued
    · rename_i got
      exact .inr ⟨buffer, pt, rfl, got⟩
    · exact .inl queued
  | render r =>
    have queued : (session.render S r).idle ≠ 0 := queued
    unfold render at queued
    split at queued <;> exact .inl queued
  | bus message =>
    have same : (session.step S (.bus message)).1.idle = session.idle := idle_busWatch message
    exact .inl (same ▸ queued)
  | acceptCb =>
    have queued : session.acceptCb.idle ≠ 0 := queued
    unfold acceptCb at queued
    split at queued
    · rename_i pos
      exact .inl (Nat.ne_of_gt pos)
    · exact .inl queued
  | ioTimeout =>
    have queued : session.ioTimeout.idle ≠ 0 := queued
    unfold ioTimeout at queued
    split at queued <;> exact .inl queued

/-- Only a message on the bus leads to the signal `hangup`. -/
lemma hangup_step (e : Event) (hangup : (session.step S e).2 = true) :
    ∃ message, e = .bus message ∧ (session.busWatch message).2 = true := by
  cases e with
  | bus message => exact ⟨message, rfl, hangup⟩
  | _ => cases hangup

end RtpSession

namespace Application

variable {app : Application} {S : Sodium}

/-! ## Events that strand nothing -/

namespace AcceptsLive

/-- Nothing is queued, and no session that is in the queue is destroyed. -/
lemma of_queue {app' : Application} (A : app.AcceptsLive)
    (queue : ∀ n, app'.queue n ≠ 0 → app.queue n ≠ 0)
    (live : ∀ n, app.queue n ≠ 0 → n ∈ app.live → n ∈ app'.live) : app'.AcceptsLive :=
  fun n queued => live n (queue n queued) (A n (queue n queued))

lemma launch (A : app.AcceptsLive) (encKey decKey : DhtKey) (enableVideo onHold : Bool) :
    (app.launch encKey decKey enableVideo onHold).AcceptsLive :=
  A.of_queue (fun n queued => queue_launch encKey decKey enableVideo onHold n ▸ queued)
    fun _ _ mem => List.mem_cons_of_mem _ mem

/-- A session is stopped, with nothing in its queue. -/
lemma callStop (A : app.AcceptsLive)
    (calm : app.callDialog = false → ∀ n, app.session = some n → app.queue n = 0) :
    app.callStop.AcceptsLive := by
  unfold Application.callStop
  split
  · exact A
  · rename_i quiet
    dsimp only
    split
    · rename_i n here
      have empty := calm (Bool.eq_false_of_not_eq_true quiet) n here
      have same : ∀ m, (app.call n RtpSession.destroy).queue m = app.queue m :=
        queue_call RtpSession.idle_destroy n
      refine A.of_queue (fun m queued => same m ▸ queued) fun m queued mem => ?_
      refine List.mem_filter.mpr ⟨mem, ?_⟩
      simp only [decide_eq_true_eq]
      rintro rfl
      exact queued empty
    · exact A

/-- A dialog returns, and stops no session with a queue. -/
lemma dialogReturn (A : app.AcceptsLive) (calm : ¬ app.Strands .dialogReturn) :
    app.dialogReturn.AcceptsLive := by
  unfold Application.dialogReturn
  split
  · rename_i response dialogs run
    have A' : (app.destroyDialog dialogs).AcceptsLive := A
    dsimp only
    split
    · split
      · rename_i n _
        exact A'.of_queue (fun m queued => queue_call (fun _ => RtpSession.idle_answer) n m ▸ queued)
          fun _ _ mem => mem
      · exact A'
    · rename_i no
      refine A'.callStop fun _ n here => ?_
      by_contra queued
      exact calm ⟨⟨response, dialogs, run, no⟩, n, here, queued⟩
  · exact A

/-- A session takes an event, and the application does not stop it with a queue. -/
lemma sessionEvent (A : app.AcceptsLive) {n : Nat} {e : RtpSession.Event}
    (calm : ¬ app.Strands (.session n e)) : (app.sessionEvent S n e).AcceptsLive := by
  unfold Application.sessionEvent
  split
  · rename_i session here
    have A' : (app.call n fun session => (session.step S e).1).AcceptsLive := by
      intro m queued
      by_cases same : n = m
      · subst same
        rw [queue_call_self _ here] at queued
        rcases RtpSession.idle_step e queued with old | ⟨buffer, pt, rfl, got⟩
        · apply A
          rwa [queue, here]
        · by_contra gone
          exact calm ⟨gone, session, here, got⟩
      · rw [queue_call_ne _ same] at queued
        exact A m queued
    dsimp only
    split
    · rename_i hangup
      obtain ⟨message, rfl, emits⟩ := RtpSession.hangup_step e hangup.1
      refine A'.callStop fun quiet m up => ?_
      by_contra queued
      have same : (app.call n fun session => (session.busWatch message).1).queue m = app.queue m :=
        queue_call (fun session => RtpSession.idle_busWatch message) n m
      have queued : app.queue m ≠ 0 := same ▸ queued
      exact calm ⟨⟨hangup.2, quiet, session, here, emits⟩, m, up, queued⟩
    · exact A'
  · exact A

/-- What an event keeps that strands nothing. -/
lemma step (A : app.AcceptsLive) (e : Event) (calm : ¬ app.Strands e) :
    (app.step S e).AcceptsLive := by
  cases e with
  | newConnection encKey decKey enableVideo =>
    show (app.newConnection encKey decKey enableVideo).AcceptsLive
    unfold Application.newConnection
    split
    · exact A.launch encKey decKey enableVideo true
    · exact A
  | dialogRun =>
    show app.dialogRun.AcceptsLive
    unfold Application.dialogRun
    split
    · dsimp only
      split <;> exact A
    · exact A
  | response dialog response => exact A
  | dialogReturn => exact A.dialogReturn calm
  | close => exact A
  | start id =>
    show (if app.buttonStart then app.callStart id else app).AcceptsLive
    split
    · cases id <;> exact A
    · exact A
  | stop =>
    show (if app.buttonStop then app.callStop else app).AcceptsLive
    split
    · rename_i on
      refine A.callStop fun quiet n here => ?_
      by_contra queued
      exact calm ⟨⟨on, quiet⟩, n, here, queued⟩
    · exact A
  | toggle id =>
    show (app.callToggle id).AcceptsLive
    unfold Application.callToggle
    split
    · cases id <;> exact A
    · rename_i off
      split
      · rename_i on
        refine A.callStop fun quiet n here => ?_
        by_contra queued
        exact calm ⟨⟨Bool.eq_false_of_not_eq_true off, on, quiet⟩, n, here, queued⟩
      · exact A
  | lookupFinished result =>
    show (app.lookupFinished result).AcceptsLive
    unfold Application.lookupFinished
    split
    · cases result with
      | none => exact A
      | some result =>
        have A' : { app with lookups := app.lookups - 1 }.AcceptsLive := A
        exact A'.launch result.1 result.2.1 result.2.2 false
    · exact A
  | session n e => exact A.sessionEvent calm

end AcceptsLive

/-! ## Events that strand a call -/

/-- A session that C `call_stop` destroys is no longer there, and its calls are still queued. -/
lemma callStop_strands {n : Nat} (quiet : app.callDialog = false) (up : app.session = some n)
    (queued : app.queue n ≠ 0) : ¬ app.callStop.AcceptsLive := by
  unfold callStop
  rw [if_neg (by rw [quiet]; exact Bool.false_ne_true), up]
  intro A
  have same : (app.call n RtpSession.destroy).queue n = app.queue n :=
    queue_call RtpSession.idle_destroy n n
  have mem := A n fun empty => queued (same.symm.trans empty)
  simpa using (List.mem_filter.mp mem).2

/-- An event that strands a queue is not one that keeps it. -/
lemma AcceptsLive.calm {e : Event} (next : (app.step S e).AcceptsLive) : ¬ app.Strands e := by
  intro strands
  cases e with
  | newConnection | dialogRun | response | close | start | lookupFinished => exact strands.1
  | dialogReturn =>
    obtain ⟨⟨response, dialogs, run, no⟩, n, up, queued⟩ := strands
    have next : app.dialogReturn.AcceptsLive := next
    rw [Application.dialogReturn, run] at next
    dsimp only at next
    rw [if_neg no] at next
    have strand : ¬ (app.destroyDialog dialogs).callStop.AcceptsLive :=
      callStop_strands rfl up queued
    exact strand next
  | stop =>
    obtain ⟨⟨on, quiet⟩, n, up, queued⟩ := strands
    have next : (if app.buttonStop then app.callStop else app).AcceptsLive := next
    rw [if_pos on] at next
    exact callStop_strands quiet up queued next
  | toggle id =>
    obtain ⟨⟨off, on, quiet⟩, n, up, queued⟩ := strands
    have next : (app.callToggle id).AcceptsLive := next
    rw [Application.callToggle, if_neg (by rw [off]; exact Bool.false_ne_true), if_pos on] at next
    exact callStop_strands quiet up queued next
  | session n e =>
    have next : (app.sessionEvent S n e).AcceptsLive := next
    cases e with
    | receive | render | acceptCb | ioTimeout => exact strands.1
    | newPayloadType buffer pt =>
      obtain ⟨gone, session, here, got⟩ := strands
      rw [Application.sessionEvent, here] at next
      dsimp only at next
      rw [if_neg fun hangup => Bool.false_ne_true hangup.1] at next
      refine gone (next n ?_)
      rw [queue_call_self _ here]
      show (session.newPayloadType buffer pt).idle ≠ 0
      rw [RtpSession.newPayloadType, if_pos got]
      exact Nat.succ_ne_zero _
    | bus message =>
      obtain ⟨⟨mem, quiet, session, here, emits⟩, m, up, queued⟩ := strands
      rw [Application.sessionEvent, here] at next
      dsimp only at next
      rw [if_pos ⟨emits, mem⟩] at next
      have same : (app.call n fun session => (session.step S (.bus message)).1).queue m = app.queue m :=
        queue_call (fun session => RtpSession.idle_busWatch message) n m
      have strand : ¬ (app.call n fun session =>
          (session.step S (.bus message)).1).callStop.AcceptsLive :=
        callStop_strands quiet up fun empty => queued (same.symm.trans empty)
      exact strand next

/-- However a run of the main loop went, and whatever call of `accept_cb` is dispatched next, its
    session is there, if and only if no event of the run leaves a call of `accept_cb` queued for a
    destroyed session. -/
theorem accepts_live_iff (S : Sodium) (events : List Event) :
    (∀ earlier, earlier <+: events → (run S earlier).AcceptsLive) ↔
      Runs.Throughout (fun app e => app.step S e) (fun app e => ¬ app.Strands e) startup
        events := by
  have initial : startup.AcceptsLive := fun n queued => absurd rfl queued
  exact Runs.invariant_iff (fun _ A => A) (fun _ e A _ calm => A.step e calm)
    (fun _ _ _ next => next.calm) initial (.of_forall _ fun _ _ => trivial)

/-- An outgoing call is stopped after the first packet of the peer, before the main loop gets to the
    idle sources. -/
def stoppedCall : List Event :=
  let packet := [0x80, 0, 0, 7, 0, 0, 0, 0, 0, 0, 0, 1, 42]
  let datagram := sealPacket Sodium.transparent ⟨fun _ => 0⟩ (rtpNonce 0 7 1) packet
  [.start (some ⟨fun _ => 1⟩), .lookupFinished (some (⟨fun _ => 1⟩, ⟨fun _ => 0⟩, false)),
    .session 0 (.receive (.datagram datagram true)), .session 0 (.newPayloadType packet 96), .stop]

/-- Then `accept_cb` is dispatched for the session that C `call_stop` destroyed. -/
theorem stopped_call_accepts :
    (run Sodium.transparent stoppedCall).live = [] ∧
    (run Sodium.transparent stoppedCall).queue 0 = 1 ∧
    (run Sodium.transparent (stoppedCall ++ [.session 0 .acceptCb])).queue 0 = 0 ∧
    ¬ (run Sodium.transparent stoppedCall).AcceptsLive := by
  have live : (run Sodium.transparent stoppedCall).live = [] := by decide +kernel
  have queued : (run Sodium.transparent stoppedCall).queue 0 = 1 := by decide +kernel
  refine ⟨live, queued, by decide +kernel, fun A => ?_⟩
  have mem := A 0 (by rw [queued]; exact Nat.one_ne_zero)
  rw [live] at mem
  cases mem

end Application

end Nanotalk
