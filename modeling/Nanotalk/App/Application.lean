import Nanotalk.Lib.Runs
import Nanotalk.Rtp.Session

/-!
# The application

Model of the calls in `src/application.c`. The callbacks of the main loop are the events of the
application.

* C `gtk_dialog_run` runs a main loop of its own, so that any event may happen before it returns,
  another call of C `dialog_run` included. `dialogs` are the dialogs whose run has not returned. The
  innermost one returns first, and it is `app->call_dialog` if this is not `NULL`.
* C `dialog_run` destroys `app->call_dialog`. If this is `NULL`, because a dialog within has returned
  before, the dialog is still there, modal as it was made, until its window is closed (`stray`).
* The client emits `new-connection` while its property `listen` is set. Of the other arguments of
  the signal, the keys go into the session; the alias in the entry is left out.
* A lookup of the client ends with a call of C `lookup_finished_cb`, in any event that comes later.
* A session has the number of its place in `sessions`. Its events are those of `RtpSession.step`, and
  a signal `hangup` of a session that is not destroyed calls C `call_stop`.

`SessionsReached.run`: all that happens to a session is what `RtpSession.Reached` allows, so that
`quiet_until_answered` holds of every session in every order of the events.
-/

namespace Nanotalk

/-- The responses that end a dialog. -/
inductive GtkResponse where
  | none
  | deleteEvent
  | cancel
  | yes
  | no
  deriving DecidableEq

/-- C `struct _Application`. -/
structure Application where
  /-- the number of `session` -/
  session : Option Nat
  /-- `call_dialog` is not `NULL` -/
  callDialog : Bool
  /-- `button_start` is sensitive -/
  buttonStart : Bool
  /-- `button_stop` is sensitive -/
  buttonStop : Bool
  /-- the property `listen` of `client` -/
  listen : Bool
  /-- the lookups of `client` that are to be finished -/
  lookups : Nat
  /-- the calls of `dialog_run` that are queued -/
  idle : Nat
  /-- the dialogs that run, the innermost one first, with their responses -/
  dialogs : List (Option GtkResponse)
  /-- the dialogs whose runs have returned, but that were not destroyed -/
  stray : Nat
  /-- history: the sessions that were created -/
  sessions : List RtpSession
  /-- history: the sessions that were created and not destroyed, the newest first -/
  live : List Nat

namespace Application

/-- What happens to the application. -/
inductive Event where
  /-- the signal `new-connection` -/
  | newConnection (encKey decKey : DhtKey) (enableVideo : Bool)
  | dialogRun
  /-- a running dialog, counted from the innermost one, gets a response -/
  | response (dialog : Nat) (response : GtkResponse)
  /-- `gtk_dialog_run` returns -/
  | dialogReturn
  /-- the window of a dialog is closed whose run has returned -/
  | close
  /-- `button_start` is clicked; the id is what the text in the entry stands for -/
  | start (id : Option DhtId)
  /-- `button_stop` is clicked -/
  | stop
  /-- the entry is activated -/
  | toggle (id : Option DhtId)
  /-- a lookup is finished, without a result if it failed -/
  | lookupFinished (result : Option (DhtKey × DhtKey × Bool))
  | session (n : Nat) (e : RtpSession.Event)

/-- After C `application_startup`. -/
def startup : Application where
  session := none
  callDialog := false
  buttonStart := true
  buttonStop := false
  listen := true
  lookups := 0
  idle := 0
  dialogs := []
  stray := 0
  sessions := []
  live := []

variable (app : Application)

/-- A call on a session. -/
def call (n : Nat) (f : RtpSession → RtpSession) : Application :=
  { app with sessions := app.sessions.modify n f }

/-- `rtp_session_new` and `rtp_session_launch`. The numbers that `g_timeout_add` gives are positive. -/
def launch (encKey decKey : DhtKey) (enableVideo onHold : Bool) : Application :=
  let n := app.sessions.length
  { app with
    session := some n
    sessions := app.sessions ++ [(RtpSession.new encKey decKey enableVideo).launch onHold (n + 1)]
    live := n :: app.live }

/-- C `call_start`. -/
def callStart (id : Option DhtId) : Application :=
  match id with
  | some _ => { app with lookups := app.lookups + 1, buttonStart := false, listen := false }
  | none => app

/-- C `call_stop`. -/
def callStop : Application :=
  if app.callDialog then
    { app with dialogs := app.dialogs.modify 0 fun _ => some .cancel }
  else
    let app :=
      match app.session with
      | some n =>
        { app.call n RtpSession.destroy with session := none, live := app.live.filter (· ≠ n) }
      | none => app
    { app with buttonStart := true, buttonStop := false, listen := true }

/-- C `call_toggle`. -/
def callToggle (id : Option DhtId) : Application :=
  if app.buttonStart then app.callStart id
  else if app.buttonStop then app.callStop
  else app

/-- C `lookup_finished_cb`, if a lookup is to be finished. -/
def lookupFinished (result : Option (DhtKey × DhtKey × Bool)) : Application :=
  if app.lookups > 0 then
    let app := { app with lookups := app.lookups - 1 }
    match result with
    | some (encKey, decKey, enableVideo) =>
      { app.launch encKey decKey enableVideo false with buttonStop := true }
    | none => { app with buttonStart := true, listen := true }
  else app

/-- C `dialog_run` up to the call of `gtk_dialog_run`, if it is queued. -/
def dialogRun : Application :=
  if app.idle > 0 then
    let app := { app with idle := app.idle - 1 }
    if app.session = none then app
    else { app with callDialog := true, dialogs := none :: app.dialogs }
  else app

/-- The innermost run of a dialog is over, and C `gtk_widget_destroy` is called on `call_dialog`. -/
def destroyDialog (dialogs : List (Option GtkResponse)) : Application :=
  { app with
    callDialog := false
    dialogs := dialogs
    stray := if app.callDialog then app.stray else app.stray + 1 }

/-- C `dialog_run` from there on, if the innermost dialog has a response. -/
def dialogReturn : Application :=
  match app.dialogs with
  | some response :: dialogs =>
    let app := app.destroyDialog dialogs
    if response = .yes then
      match app.session with
      | some n => app.call n RtpSession.answer
      | none => app
    else app.callStop
  | _ => app

/-- C `new_connection`, if the client listens. -/
def newConnection (encKey decKey : DhtKey) (enableVideo : Bool) : Application :=
  if app.listen then
    let app := app.launch encKey decKey enableVideo true
    { app with idle := app.idle + 1, buttonStart := false, buttonStop := true }
  else app

/-- An event of a session. -/
def sessionEvent (S : Sodium) (n : Nat) (e : RtpSession.Event) : Application :=
  match app.sessions[n]? with
  | some session =>
    let app := app.call n fun session => (session.step S e).1
    if (session.step S e).2 ∧ n ∈ app.live then app.callStop else app
  | none => app

/-- The application after an event. -/
def step (S : Sodium) : Event → Application
  | .newConnection encKey decKey enableVideo => app.newConnection encKey decKey enableVideo
  | .dialogRun => app.dialogRun
  | .response dialog response =>
    { app with dialogs := app.dialogs.modify dialog fun _ => some response }
  | .dialogReturn => app.dialogReturn
  | .close => { app with stray := app.stray - 1 }
  | .start id => if app.buttonStart then app.callStart id else app
  | .stop => if app.buttonStop then app.callStop else app
  | .toggle id => app.callToggle id
  | .lookupFinished result => app.lookupFinished result
  | .session n e => app.sessionEvent S n e

/-- The application after a run of the main loop. -/
def run (S : Sodium) (events : List Event) : Application :=
  events.foldl (fun app e => app.step S e) startup

/-! ## The sessions -/

/-- What happened to each session is what may happen to a session. -/
def SessionsReached (S : Sodium) (sessions : List RtpSession) : Prop :=
  ∀ session ∈ sessions, ∃ onHold, RtpSession.Reached S onHold session

section Rule

/-! What an event does with the sessions: one is launched, stopped, answered, or takes an event. What is
kept by this, and does not depend on the rest of the application, is kept by every event. -/

variable {S : Sodium} {P : Application → Prop} {app}
  (quiet : ∀ {app app' : Application}, P app → app'.sessions = app.sessions → app'.live = app.live →
    P app')
  (launch : ∀ app encKey decKey enableVideo onHold, P app →
    P (Application.launch app encKey decKey enableVideo onHold))
  (stop : ∀ app n, P app → P { Application.call app n RtpSession.destroy with
    session := none, live := app.live.filter (· ≠ n) })
  (answer : ∀ app n, P app → P (Application.call app n RtpSession.answer))

include quiet stop in
/-- A call is stopped, if no dialog is up. -/
lemma callStop_rule (here : P app) : P app.callStop := by
  unfold callStop
  split
  · exact quiet here rfl rfl
  · dsimp only
    split
    · exact quiet (stop app _ here) rfl rfl
    · exact quiet here rfl rfl

include quiet in
/-- A call is started, if the text in the entry stands for an id. -/
lemma callStart_rule (id : Option DhtId) (here : P app) : P (app.callStart id) := by
  cases id with
  | none => exact here
  | some id => exact quiet here rfl rfl

include quiet launch stop answer in
/-- What every event keeps. -/
lemma step_rule (e : Event)
    (event : ∀ n e', e = .session n e' → P (app.call n fun session => (session.step S e').1))
    (here : P app) : P (app.step S e) := by
  have stopped : ∀ {app}, P app → P app.callStop := callStop_rule quiet stop
  have started : ∀ id, P (app.callStart id) := fun id => callStart_rule quiet id here
  cases e with
  | newConnection encKey decKey enableVideo =>
    unfold step newConnection
    dsimp only
    split
    · exact quiet (launch app encKey decKey enableVideo true here) rfl rfl
    · exact here
  | dialogRun =>
    unfold step dialogRun
    dsimp only
    split
    · split <;> exact quiet here rfl rfl
    · exact here
  | response dialog response => exact quiet here rfl rfl
  | dialogReturn =>
    unfold step dialogReturn
    dsimp only
    split
    · rename_i response dialogs _
      have ended : P (app.destroyDialog dialogs) := quiet here rfl rfl
      split
      · split
        · exact answer _ _ ended
        · exact ended
      · exact stopped ended
    · exact here
  | close => exact quiet here rfl rfl
  | start id =>
    unfold step
    dsimp only
    split
    · exact started id
    · exact here
  | stop =>
    unfold step
    dsimp only
    split
    · exact stopped here
    · exact here
  | toggle id =>
    unfold step callToggle
    dsimp only
    split
    · exact started id
    · split
      · exact stopped here
      · exact here
  | lookupFinished result =>
    unfold step lookupFinished
    dsimp only
    split
    · have taken : P { app with lookups := app.lookups - 1 } := quiet here rfl rfl
      split
      · rename_i encKey decKey enableVideo
        exact quiet (launch _ encKey decKey enableVideo false taken) rfl rfl
      · exact quiet taken rfl rfl
    · exact here
  | session n e' =>
    have called := event n e' rfl
    unfold step sessionEvent
    dsimp only
    split
    · split
      · exact stopped called
      · exact called
    · exact here

end Rule

section Sessions

variable {S : Sodium} {app}

/-- A call on a session that it can take. -/
lemma SessionsReached.call (R : SessionsReached S app.sessions) (n : Nat)
    {f : RtpSession → RtpSession}
    (reach : ∀ onHold session, RtpSession.Reached S onHold session →
      RtpSession.Reached S onHold (f session)) : SessionsReached S (app.call n f).sessions := by
  intro session mem
  obtain ⟨i, here⟩ := List.mem_iff_getElem?.mp mem
  rw [Application.call, List.getElem?_modify] at here
  obtain ⟨old, there, changed⟩ := Option.map_eq_some_iff.mp here
  obtain ⟨onHold, reached⟩ := R old (List.mem_of_getElem? there)
  refine ⟨onHold, ?_⟩
  rw [← changed]
  split
  · exact reach onHold old reached
  · exact reached

lemma SessionsReached.launch (R : SessionsReached S app.sessions) (encKey decKey : DhtKey)
    (enableVideo onHold : Bool) :
    SessionsReached S (app.launch encKey decKey enableVideo onHold).sessions := by
  intro session mem
  rcases List.mem_append.mp mem with old | new
  · exact R session old
  · rw [List.mem_singleton.mp new]
    exact ⟨onHold, .launch encKey decKey enableVideo _⟩

/-- What every event keeps. -/
lemma SessionsReached.step (R : SessionsReached S app.sessions) (e : Event) :
    SessionsReached S (app.step S e).sessions := by
  refine step_rule (P := fun app => SessionsReached S app.sessions) ?_ ?_ ?_ ?_ e ?_ R
  · intro app app' R sessions _
    rw [sessions]
    exact R
  · exact fun app encKey decKey enableVideo onHold R => R.launch encKey decKey enableVideo onHold
  · exact fun app n R => R.call n fun _ _ => .destroy
  · exact fun app n R => R.call n fun _ _ => .answer
  · exact fun n e' _ => R.call n fun _ _ => .step e'

/-- Sessions are reached in every state of a run. -/
lemma SessionsReached.run (events : List Event) : SessionsReached S (run S events).sessions := by
  induction events using List.reverseRecOn with
  | nil => exact List.forall_mem_nil _
  | append_singleton events e ih =>
    rw [Application.run, List.foldl_append]
    exact ih.step e

end Sessions

open SessionAction in
/-- A session that is launched on hold begins nothing before the dialog for it is answered with yes,
    and one that is not sends nothing before its receiver accepts a packet, in whatever order the
    callbacks run and whatever is received. -/
theorem quiet_until_answered (S : Sodium) (events : List Event) :
    ∀ session ∈ (run S events).sessions,
      (.launch true ∈ session.log → BeforeAnswer session.log) ∧
      (.launch false ∈ session.log → BeforePacket S session.log) := by
  intro session mem
  obtain ⟨onHold, reached⟩ := SessionsReached.run events session mem
  have W := reached.waiting
  constructor
  · intro launched
    exact W.answer ((W.launched true).mp launched).symm
  · exact fun _ => W.packet

/-- A call that rings while a packet of the peer arrives, and is answered. -/
def answeredCall : List Event :=
  let packet := [0x80, 0, 0, 7, 0, 0, 0, 0, 0, 0, 0, 1, 42]
  let datagram := sealPacket Sodium.transparent ⟨fun _ => 0⟩ (rtpNonce 0 7 1) packet
  [.newConnection ⟨fun _ => 1⟩ ⟨fun _ => 0⟩ false, .session 0 .ioTimeout,
    .session 0 (.receive (.datagram datagram true)), .dialogRun, .response 0 .yes, .dialogReturn,
    .session 0 (.receive (.datagram datagram true)), .session 0 (.newPayloadType packet 96)]

/-- The call of `answeredCall` begins after it is answered. -/
theorem quiet_until_answered_call : ∃ session,
    (run Sodium.transparent answeredCall).sessions[0]? = some session ∧
    session.log.take 1 = [.idleAdd] ∧ SessionAction.BeforeAnswer session.log := by
  refine ⟨_, rfl, ?_, ?_⟩
  · rfl
  · refine (quiet_until_answered Sodium.transparent answeredCall _ ?_).1 ?_
    · exact List.mem_of_getElem? (i := 0) rfl
    · exact List.mem_of_getElem? (i := 7) rfl

end Application

end Nanotalk
