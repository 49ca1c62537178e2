import Nanotalk.App.Application

/-!
# The way out

Whatever order the callbacks run in, second calls and nested dialogs included, the user is never left
with a window that does nothing: the buttons, the dialogs and the lookup fit together (`Control`), and
there is a way back to where a call can be made and received (`way_out`). As dialogs are modal, this is
not before the last one is gone.
-/

namespace Nanotalk
namespace Application

variable {app : Application} {S : Sodium}

/-- No call is up, and the buttons and the client are set for one. -/
structure Idle (app : Application) : Prop where
  session : app.session = none
  callDialog : app.callDialog = false
  buttonStart : app.buttonStart = true
  buttonStop : app.buttonStop = false
  listen : app.listen = true

/-- A call can be made and received: no dialog keeps the user from the window. -/
structure Free (app : Application) : Prop extends app.Idle where
  dialogs : app.dialogs = []
  stray : app.stray = 0

/-- What the state of the widgets says about the call. -/
structure Control (app : Application) : Prop where
  dialog : app.callDialog = true → app.session ≠ none ∧ app.dialogs ≠ []
  stop : app.session ≠ none → app.buttonStop = true
  start : app.buttonStart = true → app.listen = true
  quiet : app.listen = false → app.session ≠ none ∨ 0 < app.lookups
  busy : app.buttonStart = true ∨ app.buttonStop = true ∨ 0 < app.lookups

namespace Control

lemma startup : startup.Control := ⟨nofun, fun up => absurd rfl up, fun _ => rfl, nofun, .inl rfl⟩

/-- The end of `call_stop`. -/
lemma idle_callStop (closed : app.callDialog = false) : app.callStop.Idle := by
  unfold Application.callStop
  rw [if_neg (closed ▸ Bool.false_ne_true)]
  cases up : app.session with
  | none => exact ⟨up, closed, rfl, rfl, rfl⟩
  | some n => exact ⟨rfl, closed, rfl, rfl, rfl⟩

/-- Without a call everything fits. -/
lemma of_idle (idle : app.Idle) : app.Control where
  dialog shown := absurd (idle.callDialog.symm.trans shown) Bool.false_ne_true
  stop up := absurd idle.session up
  start _ := idle.listen
  quiet off := absurd (off.symm.trans idle.listen) Bool.false_ne_true
  busy := .inl idle.buttonStart

/-- With the dialog open, `call_stop` only cancels it. -/
lemma callStop (C : app.Control) : app.callStop.Control := by
  cases shown : app.callDialog with
  | false => exact of_idle (idle_callStop shown)
  | true =>
    unfold Application.callStop
    rw [if_pos shown]
    refine ⟨fun _ => ⟨(C.dialog shown).1, ?_⟩, C.stop, C.start, C.quiet, C.busy⟩
    exact fun none => (C.dialog shown).2 (List.modify_eq_nil_iff.mp none)

lemma callStart (C : app.Control) (id : Option DhtId) : (app.callStart id).Control := by
  cases id with
  | none => exact C
  | some id =>
    exact ⟨C.dialog, C.stop, nofun, fun _ => .inr (Nat.succ_pos _), .inr (.inr (Nat.succ_pos _))⟩

lemma newConnection (C : app.Control) (encKey decKey : DhtKey) (enableVideo : Bool) :
    (app.newConnection encKey decKey enableVideo).Control := by
  unfold Application.newConnection
  split
  · exact ⟨fun shown => ⟨Option.some_ne_none _, (C.dialog shown).2⟩, fun _ => rfl, nofun,
      fun _ => .inl (Option.some_ne_none _), .inr (.inl rfl)⟩
  · exact C

lemma lookupFinished (C : app.Control) (result : Option (DhtKey × DhtKey × Bool)) :
    (app.lookupFinished result).Control := by
  unfold Application.lookupFinished
  split
  · cases result with
    | none => exact ⟨C.dialog, C.stop, fun _ => rfl, nofun, .inl rfl⟩
    | some result =>
      exact ⟨fun shown => ⟨Option.some_ne_none _, (C.dialog shown).2⟩, fun _ => rfl, C.start,
        fun _ => .inl (Option.some_ne_none _), .inr (.inl rfl)⟩
  · exact C

lemma dialogRun (C : app.Control) : app.dialogRun.Control := by
  unfold Application.dialogRun
  split
  · dsimp only
    split
    · exact ⟨C.dialog, C.stop, C.start, C.quiet, C.busy⟩
    · rename_i up
      exact ⟨fun _ => ⟨up, List.cons_ne_nil _ _⟩, C.stop, C.start, C.quiet, C.busy⟩
  · exact C

lemma dialogReturn (C : app.Control) : app.dialogReturn.Control := by
  unfold Application.dialogReturn
  split
  · rename_i response dialogs _
    have C' : (app.destroyDialog dialogs).Control := ⟨nofun, C.stop, C.start, C.quiet, C.busy⟩
    dsimp only
    split
    · split
      · exact ⟨nofun, C.stop, C.start, C.quiet, C.busy⟩
      · exact C'
    · exact C'.callStop
  · exact C

lemma response (C : app.Control) (dialog : Nat) (response : GtkResponse) :
    { app with dialogs := app.dialogs.modify dialog fun _ => some response }.Control :=
  ⟨fun shown => ⟨(C.dialog shown).1, fun none =>
    (C.dialog shown).2 (List.modify_eq_nil_iff.mp none)⟩, C.stop, C.start, C.quiet, C.busy⟩

lemma sessionEvent (C : app.Control) (n : Nat) (e : RtpSession.Event) :
    (app.sessionEvent S n e).Control := by
  unfold Application.sessionEvent
  split
  · have C' : (app.call n fun session => (session.step S e).1).Control :=
      ⟨C.dialog, C.stop, C.start, C.quiet, C.busy⟩
    dsimp only
    split
    · exact C'.callStop
    · exact C'
  · exact C

/-- What every event keeps. -/
lemma step (C : app.Control) (e : Event) : (app.step S e).Control := by
  cases e with
  | newConnection encKey decKey enableVideo => exact C.newConnection encKey decKey enableVideo
  | dialogRun => exact C.dialogRun
  | response dialog response => exact C.response dialog response
  | dialogReturn => exact C.dialogReturn
  | close => exact ⟨C.dialog, C.stop, C.start, C.quiet, C.busy⟩
  | start id =>
    show (if app.buttonStart then app.callStart id else app).Control
    split
    · exact C.callStart id
    · exact C
  | stop =>
    show (if app.buttonStop then app.callStop else app).Control
    split
    · exact C.callStop
    · exact C
  | toggle id =>
    show (app.callToggle id).Control
    unfold Application.callToggle
    split
    · exact C.callStart id
    · split
      · exact C.callStop
      · exact C
  | lookupFinished result => exact C.lookupFinished result
  | session n e => exact C.sessionEvent n e

/-- The window is under control in every state of a run. -/
lemma run (events : List Event) : (run S events).Control := by
  induction events using List.reverseRecOn with
  | nil => exact startup
  | append_singleton events e ih =>
    rw [Application.run, List.foldl_append]
    exact ih.step e

end Control

/-! ## Nothing to stop -/

/-- Without a session there is nothing to stop. -/
lemma off_callStop (off : app.session = none → app.buttonStop = false) :
    app.callStop.session = none → app.callStop.buttonStop = false := by
  unfold callStop
  split
  · exact off
  · exact fun _ => rfl

/-- Without a session the button that stops it stays off. -/
lemma off_step (off : app.session = none → app.buttonStop = false) (e : Event) :
    (app.step S e).session = none → (app.step S e).buttonStop = false := by
  cases e with
  | newConnection encKey decKey enableVideo =>
    unfold step newConnection
    dsimp only
    split
    · nofun
    · exact off
  | dialogRun =>
    unfold step dialogRun
    dsimp only
    split
    · split <;> exact off
    · exact off
  | response dialog response => exact off
  | dialogReturn =>
    unfold step dialogReturn
    dsimp only
    split
    · split
      · split <;> exact off
      · exact off_callStop off
    · exact off
  | close => exact off
  | start id =>
    unfold step callStart
    dsimp only
    split
    · split <;> exact off
    · exact off
  | stop =>
    unfold step
    dsimp only
    split
    · exact off_callStop off
    · exact off
  | toggle id =>
    unfold step callToggle callStart
    dsimp only
    split
    · split <;> exact off
    · split
      · exact off_callStop off
      · exact off
  | lookupFinished result =>
    unfold step lookupFinished
    dsimp only
    split
    · split
      · nofun
      · exact off
    · exact off
  | session n e =>
    unfold step sessionEvent
    dsimp only
    split
    · split
      · exact off_callStop off
      · exact off
    · exact off

/-- Without a session the button that stops it is off. -/
lemma off_run (events : List Event) :
    (run S events).session = none → (run S events).buttonStop = false := by
  induction events using List.reverseRecOn with
  | nil => exact fun _ => rfl
  | append_singleton events e ih =>
    rw [run, List.foldl_append]
    exact off_step ih e

/-- Without a session, a lookup and a dialog, a call can be made and received. -/
lemma free_run {events : List Event} (up : (run S events).session = none)
    (idle : (run S events).lookups = 0) (dialogs : (run S events).dialogs = [])
    (stray : (run S events).stray = 0) : (run S events).Free := by
  have C := Control.run (S := S) events
  have off := off_run events up
  refine ⟨⟨up, ?_, ?_, off, ?_⟩, dialogs, stray⟩
  · by_contra shown
    exact (C.dialog (Bool.eq_true_of_not_eq_false shown)).1 up
  · rcases C.busy with start | stop | busy
    · exact start
    · exact absurd (off.symm.trans stop) Bool.false_ne_true
    · omega
  · by_contra deaf
    rcases C.quiet (Bool.eq_false_of_not_eq_true deaf) with some | busy
    · exact some up
    · omega

/-! ## Dialogs -/

/-- Without a dialog, `call_stop` leaves the others as they are. -/
lemma callStop_dialogs (closed : app.callDialog = false) :
    app.callStop.dialogs = app.dialogs ∧ app.callStop.stray = app.stray := by
  unfold callStop
  rw [if_neg (closed ▸ Bool.false_ne_true)]
  dsimp only
  split <;> exact ⟨rfl, rfl⟩

/-- The innermost dialog is answered, and its run returns. -/
lemma answer_dialogs (response : GtkResponse) :
    ((app.step S (.response 0 response)).step S .dialogReturn).dialogs = app.dialogs.tail := by
  show (dialogReturn { app with dialogs := app.dialogs.modify 0 fun _ => some response }).dialogs = _
  unfold dialogReturn
  cases app.dialogs with
  | nil => rfl
  | cons dialog rest =>
    dsimp only [List.modify_zero_cons]
    split
    · split <;> rfl
    · exact (callStop_dialogs rfl).1

/-- Answers to `n` dialogs, from the innermost one on. -/
def answers (answer : Nat → GtkResponse) (n : Nat) : List Event :=
  (List.range n).flatMap fun i => [.response 0 (answer i), .dialogReturn]

/-- Every answer takes one dialog away. -/
lemma answers_dialogs (answer : Nat → GtkResponse) (n : Nat) :
    ((answers answer n).foldl (fun app e => app.step S e) app).dialogs = app.dialogs.drop n := by
  induction n with
  | zero => rfl
  | succ n ih =>
    have last : answers answer (n + 1) = answers answer n ++ [.response 0 (answer n), .dialogReturn] := by
      rw [answers, answers, List.range_succ, List.flatMap_append, List.flatMap_singleton]
    rw [last, List.foldl_append, List.foldl_cons, List.foldl_cons, List.foldl_nil, answer_dialogs, ih,
      List.tail_drop]

/-- The dialogs that are left are closed. -/
lemma close_all (n : Nat) : (List.replicate n Event.close).foldl (fun app e => app.step S e) app =
    { app with stray := app.stray - n } := by
  induction n with
  | zero => rfl
  | succ n ih =>
    rw [List.replicate_succ', List.foldl_append, ih]
    rfl

/-! ## The user -/

/-- The button. -/
lemma free_stop (on : app.buttonStop = true) (closed : app.callDialog = false)
    (dialogs : app.dialogs = []) (stray : app.stray = 0) : (app.step S .stop).Free := by
  show Free (if app.buttonStop then app.callStop else app)
  rw [if_pos on]
  obtain ⟨same, same'⟩ := callStop_dialogs closed
  exact ⟨Control.idle_callStop closed, same.trans dialogs, same'.trans stray⟩

/-- Once the dialogs are gone, there is the button, or a lookup that ends. -/
lemma Control.released (C : app.Control) (dialogs : app.dialogs = []) (stray : app.stray = 0) :
    app.Free ∨ (app.buttonStop = true ∧ (app.step S .stop).Free) ∨
    (0 < app.lookups ∧ (app.step S (.lookupFinished none)).Free ∧
      ∀ result, ((app.step S (.lookupFinished (some result))).step S .stop).Free) := by
  have shown : app.callDialog = false := by
    by_contra shown
    exact (C.dialog (Bool.eq_true_of_not_eq_false shown)).2 dialogs
  cases on : app.buttonStop with
  | true => exact .inr (.inl ⟨rfl, free_stop on shown dialogs stray⟩)
  | false =>
    have up : app.session = none := by
      by_contra up
      exact absurd (on.symm.trans (C.stop up)) Bool.false_ne_true
    cases start : app.buttonStart with
    | true => exact .inl ⟨⟨up, shown, start, on, C.start start⟩, dialogs, stray⟩
    | false =>
      have pos : 0 < app.lookups := by
        rcases C.busy with h | h | h
        · exact absurd (start.symm.trans h) Bool.false_ne_true
        · exact absurd (on.symm.trans h) Bool.false_ne_true
        · exact h
      refine .inr (.inr ⟨pos, ?_, fun result => ?_⟩)
      · show Free (app.lookupFinished none)
        unfold Application.lookupFinished
        rw [if_pos pos]
        exact ⟨⟨up, shown, rfl, on, rfl⟩, dialogs, stray⟩
      · have next : app.step S (.lookupFinished (some result)) =
            { { app with lookups := app.lookups - 1 }.launch result.1 result.2.1 result.2.2 false with
              buttonStop := true } := if_pos pos
        rw [next]
        exact free_stop rfl shown dialogs stray

/-- From every state that callbacks in any order lead to, the user gets back to where a call can be made
    and received: answers every dialog that runs, whatever the answers are, closes those that are left,
    and then it is so, or after a click on the button, or at the end of the lookup, whatever its
    result. -/
theorem way_out (S : Sodium) (events : List Event) (answer : Nat → GtkResponse) :
    let answered := events ++ answers answer (run S events).dialogs.length
    let closed := answered ++ List.replicate (run S answered).stray .close
    (run S closed).Free ∨
    ((run S closed).buttonStop = true ∧ (run S (closed ++ [.stop])).Free) ∨
    (0 < (run S closed).lookups ∧ (run S (closed ++ [.lookupFinished none])).Free ∧
      ∀ result, (run S (closed ++ [.lookupFinished (some result), .stop])).Free) := by
  intro answered closed
  have more : ∀ rest, run S (closed ++ rest) = rest.foldl (fun app e => app.step S e) (run S closed) :=
    fun rest => List.foldl_append
  have gone : (run S answered).dialogs = [] := by
    have left : (run S answered).dialogs = _ := congrArg Application.dialogs List.foldl_append
    rw [left, answers_dialogs]
    exact List.drop_length
  have same : run S closed = { run S answered with stray := 0 } := by
    have all : run S closed =
        { run S answered with stray := (run S answered).stray - (run S answered).stray } :=
      List.foldl_append.trans (close_all _)
    rw [all, Nat.sub_self]
  simp only [more, List.foldl_cons, List.foldl_nil]
  have C := Control.run (S := S) closed
  exact C.released (same ▸ gone) (same ▸ rfl)

/-- Two calls come in, and both dialogs run when the inner one is refused. -/
def nestedDialogs : List Event :=
  [.newConnection ⟨fun _ => 0⟩ ⟨fun _ => 1⟩ false, .dialogRun,
    .newConnection ⟨fun _ => 2⟩ ⟨fun _ => 3⟩ false, .dialogRun, .response 0 .no, .dialogReturn]

/-- Then no call is up, but a dialog keeps the user from the window, and is not destroyed at its end. -/
example : (run Sodium.transparent nestedDialogs).buttonStart = true ∧
    (run Sodium.transparent nestedDialogs).dialogs.length = 1 ∧
    (run Sodium.transparent (nestedDialogs ++ [.response 0 .no, .dialogReturn])).stray = 1 := by
  decide

end Application

end Nanotalk
