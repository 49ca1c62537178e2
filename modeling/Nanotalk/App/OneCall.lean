import Nanotalk.App.Application

/-!
# One call at a time

C `call_start` clears the property `listen` of the client and C `call_stop` sets it, but C
`new_connection` leaves it set: while an incoming call is up, another one replaces it in
`app->session`, and the first session is never destroyed.

* `Calls`: the invariant of the buttons, the lookups and the sessions.
* `one_call_iff`: the application owns at most one session in every state of a run if and only if
  no call comes in while there is one. The dialog is modal, so that the user does not start a call
  while one runs.
* `second_call_orphans`: what a second incoming call does.
-/

namespace Nanotalk
namespace Application

variable {app : Application} {S : Sodium}

/-- At most one session is not destroyed, and it is `app->session`. -/
def OneCall (app : Application) : Prop := app.live.length ≤ 1 ∧ app.session = app.live.head?

instance : Decidable app.OneCall := inferInstanceAs (Decidable (_ ∧ _))

/-- The client emits `new-connection` while there is a session. -/
def SecondCall (app : Application) : Event → Prop
  | .newConnection .. => app.listen = true ∧ app.session ≠ none
  | _ => False

instance : (e : Event) → Decidable (app.SecondCall e)
  | .newConnection .. => inferInstanceAs (Decidable (_ ∧ _))
  | .dialogRun | .response .. | .dialogReturn | .close | .start _ | .stop | .toggle _
  | .lookupFinished _ | .session .. => .isFalse id

/-- With `GTK_DIALOG_MODAL`, the user does not get to the button and the entry while a dialog runs. -/
def Modal (app : Application) : Event → Prop
  | .start _ => app.dialogs = []
  | .toggle _ => app.dialogs = []
  | _ => True

instance : (e : Event) → Decidable (app.Modal e)
  | .start _ | .toggle _ => inferInstanceAs (Decidable (_ = _))
  | .newConnection .. | .dialogRun | .response .. | .dialogReturn | .close | .stop
  | .lookupFinished _ | .session .. => .isTrue trivial

/-- The sessions, and what the buttons and the property `listen` say about them. -/
structure Calls (app : Application) : Prop where
  live : app.live = app.session.toList
  /-- while a lookup runs, there is no session and no way to get to one -/
  lookup : app.lookups ≠ 0 → app.lookups = 1 ∧ app.session = none ∧ app.listen = false ∧
    app.buttonStart = false ∧ app.buttonStop = false ∧ app.dialogs = []
  start : app.buttonStart = true → app.session = none ∧ app.buttonStop = false

namespace Calls

/-- There is one call at most. -/
lemma one (C : app.Calls) : app.OneCall := by
  unfold OneCall
  rw [C.live]
  cases app.session with
  | none => exact ⟨Nat.zero_le 1, rfl⟩
  | some n => exact ⟨Nat.le_refl 1, rfl⟩

/-- Without a lookup. -/
lemma of_idle (idle : app.lookups = 0) (live : app.live = app.session.toList)
    (start : app.buttonStart = true → app.session = none ∧ app.buttonStop = false) : app.Calls :=
  ⟨live, fun busy => absurd idle busy, start⟩

/-- Whatever shows that no lookup runs. -/
lemma idle (C : app.Calls) (active : app.session ≠ none ∨ app.listen = true ∨
    app.buttonStart = true ∨ app.buttonStop = true ∨ app.dialogs ≠ []) : app.lookups = 0 := by
  by_contra busy
  obtain ⟨_, session, listen, start, stop, dialogs⟩ := C.lookup busy
  rcases active with ne | on | on | on | ne
  · exact ne session
  · rw [listen] at on
    cases on
  · rw [start] at on
    cases on
  · rw [stop] at on
    cases on
  · exact ne dialogs

/-- A call is stopped that has no lookup. -/
lemma callStop (C : app.Calls) (idle : app.lookups = 0) : app.callStop.Calls := by
  unfold Application.callStop
  split
  · exact of_idle idle C.live C.start
  · dsimp only
    split
    · rename_i n here
      refine of_idle idle ?_ fun _ => ⟨rfl, rfl⟩
      show app.live.filter (· ≠ n) = []
      rw [C.live, here]
      simp
    · rename_i none
      exact of_idle idle C.live fun _ => ⟨none, rfl⟩

/-- A call is started with the button, and no dialog over it. -/
lemma callStart (C : app.Calls) (on : app.buttonStart = true) (modal : app.dialogs = [])
    (id : Option DhtId) : (app.callStart id).Calls := by
  cases id with
  | none => exact C
  | some id =>
    obtain ⟨session, stop⟩ := C.start on
    have idle := C.idle (.inr (.inr (.inl on)))
    refine ⟨C.live, fun _ => ⟨?_, session, rfl, rfl, stop, modal⟩, nofun⟩
    show app.lookups + 1 = 1
    rw [idle]

/-- The client signals a connection, which it does without a call. -/
lemma newConnection (C : app.Calls) (encKey decKey : DhtKey) (enableVideo : Bool)
    (first : app.listen = true → app.session = none) :
    (app.newConnection encKey decKey enableVideo).Calls := by
  unfold Application.newConnection
  split
  · rename_i on
    refine of_idle (C.idle (.inr (.inl on))) ?_ nofun
    show app.sessions.length :: app.live = [app.sessions.length]
    rw [C.live, first on]
    rfl
  · exact C

lemma lookupFinished (C : app.Calls) (result : Option (DhtKey × DhtKey × Bool)) :
    (app.lookupFinished result).Calls := by
  unfold Application.lookupFinished
  split
  · rename_i pos
    obtain ⟨one, session, -, start, stop, -⟩ := C.lookup (Nat.ne_of_gt pos)
    have idle : app.lookups - 1 = 0 := by rw [one]
    cases result with
    | none => exact of_idle idle C.live fun _ => ⟨session, stop⟩
    | some result =>
      refine of_idle idle ?_ fun on => ?_
      · show app.sessions.length :: app.live = [app.sessions.length]
        rw [C.live, session]
        rfl
      · exact absurd (start.symm.trans on) Bool.false_ne_true
  · exact C

lemma dialogRun (C : app.Calls) : app.dialogRun.Calls := by
  unfold Application.dialogRun
  split
  · dsimp only
    split
    · exact ⟨C.live, C.lookup, C.start⟩
    · rename_i up
      exact of_idle (C.idle (.inl up)) C.live C.start
  · exact C

lemma response (C : app.Calls) (dialog : Nat) (response : GtkResponse) :
    { app with dialogs := app.dialogs.modify dialog fun _ => some response }.Calls := by
  refine ⟨C.live, fun busy => ?_, C.start⟩
  obtain ⟨one, session, listen, start, stop, dialogs⟩ := C.lookup busy
  exact ⟨one, session, listen, start, stop, List.modify_eq_nil_iff.mpr dialogs⟩

lemma dialogReturn (C : app.Calls) : app.dialogReturn.Calls := by
  unfold Application.dialogReturn
  split
  · rename_i response dialogs run
    have idle := C.idle (.inr (.inr (.inr (.inr (run ▸ List.cons_ne_nil _ _)))))
    have C' : (app.destroyDialog dialogs).Calls := of_idle idle C.live C.start
    dsimp only
    split
    · split
      · exact of_idle idle C.live C.start
      · exact C'
    · exact C'.callStop idle
  · exact C

lemma sessionEvent (C : app.Calls) (n : Nat) (e : RtpSession.Event) :
    (app.sessionEvent S n e).Calls := by
  unfold Application.sessionEvent
  split
  · have C' : (app.call n fun session => (session.step S e).1).Calls := ⟨C.live, C.lookup, C.start⟩
    dsimp only
    split
    · rename_i hangup
      have up : app.session ≠ none := by
        intro none
        have mem : n ∈ app.live := hangup.2
        rw [C.live, none] at mem
        cases mem
      exact C'.callStop (C.idle (.inl up))
    · exact C'
  · exact C

/-- What an event keeps, unless it is a second call. -/
lemma step (C : app.Calls) (e : Event) (modal : app.Modal e) (first : ¬ app.SecondCall e) :
    (app.step S e).Calls := by
  cases e with
  | newConnection encKey decKey enableVideo =>
    refine C.newConnection encKey decKey enableVideo fun on => ?_
    by_contra up
    exact first ⟨on, up⟩
  | dialogRun => exact C.dialogRun
  | response dialog response => exact C.response dialog response
  | dialogReturn => exact C.dialogReturn
  | close => exact ⟨C.live, C.lookup, C.start⟩
  | start id =>
    show (if app.buttonStart then app.callStart id else app).Calls
    split
    · rename_i on
      exact C.callStart on modal id
    · exact C
  | stop =>
    show (if app.buttonStop then app.callStop else app).Calls
    split
    · rename_i on
      exact C.callStop (C.idle (.inr (.inr (.inr (.inl on)))))
    · exact C
  | toggle id =>
    show (app.callToggle id).Calls
    unfold Application.callToggle
    split
    · rename_i on
      exact C.callStart on modal id
    · split
      · rename_i on
        exact C.callStop (C.idle (.inr (.inr (.inr (.inl on)))))
      · exact C
  | lookupFinished result => exact C.lookupFinished result
  | session n e => exact C.sessionEvent n e

end Calls

/-- A second call leaves two sessions. -/
lemma OneCall.first (one : app.OneCall) {e : Event} (next : (app.step S e).OneCall) :
    ¬ app.SecondCall e := by
  intro second
  cases e with
  | newConnection encKey decKey enableVideo =>
    obtain ⟨on, up⟩ := second
    have two : (app.newConnection encKey decKey enableVideo).live.length ≤ 1 := next.1
    unfold Application.newConnection at two
    rw [if_pos on] at two
    -- so there was none before
    have zero : app.live.length = 0 := Nat.le_zero.mp (Nat.le_of_succ_le_succ two)
    rw [one.2, List.eq_nil_of_length_eq_zero zero] at up
    exact up rfl
  | _ => exact second

/-- The application owns at most one session in every state of a run, if and only if no call comes in
    while there is a session. -/
theorem one_call_iff (S : Sodium) (events : List Event)
    (modal : Runs.Throughout (fun app e => app.step S e) Modal startup events) :
    (∀ earlier, earlier <+: events → (run S earlier).OneCall) ↔
      Runs.Throughout (fun app e => app.step S e) (fun app e => ¬ app.SecondCall e) startup
        events := by
  have initial : startup.Calls := Calls.of_idle rfl rfl fun _ => ⟨rfl, rfl⟩
  exact Runs.invariant_iff (fun _ C => C.one) (fun _ e C modal first => C.step e modal first)
    (fun _ _ one next => one.first next) initial modal

/-- An incoming call that is answered and stopped, and then an outgoing one. -/
def twoCalls : List Event :=
  [.newConnection ⟨fun _ => 0⟩ ⟨fun _ => 1⟩ false, .dialogRun, .response 0 .yes, .dialogReturn, .stop,
    .start (some ⟨fun _ => 1⟩), .lookupFinished (some (⟨fun _ => 2⟩, ⟨fun _ => 3⟩, true))]

/-- After `twoCalls` only the second session is there. -/
theorem one_call_iff_twoCalls : (run Sodium.transparent twoCalls).OneCall ∧
    (run Sodium.transparent twoCalls).session = some 1 := by
  refine ⟨?_, by decide⟩
  exact (one_call_iff Sodium.transparent twoCalls (by decide)).mpr (by decide) _ List.prefix_rfl

/-- A call that comes in while another one rings replaces it, and neither the answer nor the end of
    the second call destroys the first session. -/
theorem second_call_orphans :
    let calls : List Event := [.newConnection ⟨fun _ => 0⟩ ⟨fun _ => 1⟩ false,
      .newConnection ⟨fun _ => 2⟩ ⟨fun _ => 3⟩ false]
    let later : List Event := [.dialogRun, .response 0 .yes, .dialogReturn, .stop]
    (run Sodium.transparent calls).live = [1, 0] ∧
    (run Sodium.transparent calls).session = some 1 ∧
    ¬ (run Sodium.transparent calls).OneCall ∧
    (run Sodium.transparent (calls ++ later)).live = [0] ∧
    (run Sodium.transparent (calls ++ later)).session = none := by
  decide

end Application

end Nanotalk
