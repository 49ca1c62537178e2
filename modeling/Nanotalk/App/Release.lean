import Nanotalk.App.Phone

/-!
# The end of a call

When nothing arrives and the user does nothing, a call that is being made comes to an end, and the phone
can be used again (`frees_run`), unless a dialog is left for the user.
-/

namespace Nanotalk

/-- The session and the dialogs are as they were. -/
structure Application.Unmoved (app app' : Application) : Prop where
  session : app'.session = app.session
  dialogs : app'.dialogs = app.dialogs
  stray : app'.stray = app.stray

/-- Nothing has moved. -/
lemma Application.Unmoved.refl (app : Application) : app.Unmoved app := ⟨rfl, rfl, rfl⟩

/-- Nothing has moved twice. -/
lemma Application.Unmoved.trans {app app' app'' : Application} (first : app.Unmoved app')
    (second : app'.Unmoved app'') : app.Unmoved app'' :=
  ⟨second.session.trans first.session, second.dialogs.trans first.dialogs,
    second.stray.trans first.stray⟩

namespace Phone

open DhtClient (Env)

variable {S : Sodium} {w : WordSize} {random : Nat → DhtKey} {key : DhtKey} {phone : Phone}
  {events : List Event}

/-- A timeout of the client, or a callback that is queued. -/
def lapses (phone : Phone) : Event → Bool
  | .client _ e _ => phone.client.fires e
  | .finished n => n < phone.queue.length
  | .app .. => false

variable (S w random) in
/-- Nothing else happens. -/
def Lapses (phone : Phone) (events : List Event) : Prop :=
  Runs.Throughout (step S w random) (fun phone e => phone.lapses e = true) phone events

/-- Nothing is left to happen by itself. -/
def Still (phone : Phone) : Prop := phone.client.Still ∧ phone.queue = []

/-- What is left to happen by itself at most. -/
noncomputable def work (phone : Phone) : Nat := phone.client.work ⟨0, 1⟩ + phone.app.lookups

/-- What happens by itself leaves less of it, and touches neither the session nor the dialogs. -/
lemma Sound.lapse (P : Sound S w random key events 0 phone) {e : Event}
    (lapses : phone.lapses e = true) :
    (phone.step S w random e).work < phone.work ∧
      phone.app.Unmoved (phone.step S w random e).app := by
  cases e with
  | client env e enableVideo =>
    obtain ⟨source, timer, rfl, live⟩ := DhtClient.fires_iff.mp lapses
    have less := DhtClient.work_fires S w random (e := (env, .timeout source)) P.consistent lapses
    have app : (phone.step S w random (.client env (.timeout source) enableVideo)).app = phone.app :=
      serve_app (DhtClient.fire_mute env source) enableVideo
    have client : (phone.step S w random (.client env (.timeout source) enableVideo)).client =
        phone.client.step S w random env (.timeout source) := foldl_client enableVideo _
    rw [work, work, app, client]
    exact ⟨Nat.add_lt_add_right less _, .refl _⟩
  | finished n =>
    have queued : n < phone.queue.length := of_decide_eq_true lapses
    have pos : 0 < phone.app.lookups := Nat.lt_of_lt_of_le (Nat.zero_lt_of_lt queued) P.queue_le
    rw [step_finished queued, Application.lookupFinished_none pos]
    exact ⟨Nat.add_lt_add_left (Nat.sub_lt pos Nat.one_pos) _, rfl, rfl, rfl⟩
  | app env e => cases lapses

variable (S w random key)

/-- Some events lead here. -/
def Reached (phone : Phone) : Prop := ∃ events, Sound S w random key events 0 phone

variable {S w random key} in
/-- A phone that is reached takes an event. -/
lemma Reached.step (R : Reached S w random key phone) (e : Event) :
    Reached S w random key (phone.step S w random e) := by
  obtain ⟨events, P⟩ := R
  exact ⟨events ++ [e], (P.mono (List.subset_append_left events [e])).step
    (List.mem_append_right _ (List.mem_singleton_self e))⟩

variable {S w random key} in
/-- What happens by itself touches neither the session nor the dialogs. -/
lemma Lapses.unmoved (R : Reached S w random key phone) {rest : List Event}
    (lapses : Lapses S w random phone rest) :
    phone.app.Unmoved (rest.foldl (Phone.step S w random) phone).app := by
  induction rest generalizing phone with
  | nil => exact .refl _
  | cons e rest ih =>
    obtain ⟨events, P⟩ := R
    exact (P.lapse lapses.1).2.trans (ih (Reached.step ⟨events, P⟩ e) lapses.2)

variable {S w random key} in
/-- Where nothing is left to happen by itself, nothing is waited for. -/
lemma Still.lookups (P : Sound S w random key events 0 phone) (still : phone.Still) :
    phone.app.lookups = 0 := by
  obtain ⟨es, same, -⟩ := P.client
  have completed := DhtClient.Still.completions S w random key es (same ▸ still.1)
  have lookups := P.lookups
  rw [← same] at completed
  rw [still.2, List.length_nil] at lookups
  omega

/-- From every state of a run, when nothing happens but timeouts of queries and connections and the
    callbacks that are queued, these come to an end. Then no lookup is waited for, and the session and the
    dialogs are as they were: without any, a call can be made and received. -/
theorem frees_run (events : List Event) :
    let phone := run S w random key events
    (∀ rest, Lapses S w random phone rest → rest.length ≤ phone.work ∧
      ∃ more, Lapses S w random phone (rest ++ more) ∧
        (run S w random key (events ++ (rest ++ more))).Still) ∧
    ∀ rest, Lapses S w random phone rest → (run S w random key (events ++ rest)).Still →
      (run S w random key (events ++ rest)).app.lookups = 0 ∧
      phone.app.Unmoved (run S w random key (events ++ rest)).app ∧
      (phone.app.session = none → phone.app.dialogs = [] → phone.app.stray = 0 →
        (run S w random key (events ++ rest)).app.Free ∧
        (run S w random key (events ++ rest)).client.listen = true) := by
  intro phone
  have R : Reached S w random key phone := ⟨events, sound_run S w random key events⟩
  have after : ∀ rest, run S w random key (events ++ rest) = rest.foldl (step S w random) phone :=
    fun rest => List.foldl_append
  have keeps := fun (phone : Phone) (e : Event) (R : Reached S w random key phone)
    (_ : phone.lapses e = true) => R.step e
  have lower : ∀ (phone : Phone) (e : Event), Reached S w random key phone → phone.lapses e = true →
      (phone.step S w random e).work < phone.work := by
    rintro phone e ⟨events, P⟩ lapses
    exact (P.lapse lapses).1
  constructor
  · intro rest lapses
    have length := Runs.length_le keeps lower R lapses
    obtain ⟨more, further, stuck⟩ := Runs.exists_end keeps lower (lapses.keeps keeps R)
    refine ⟨Nat.le_of_add_right_le length, more, lapses.append further, ?_⟩
    rw [after, List.foldl_append]
    generalize more.foldl (step S w random) _ = last at stuck
    constructor
    · intro source
      cases live : last.client.sources source with
      | none => rfl
      | some timer =>
        exact absurd (DhtClient.fires_iff.mpr ⟨source, timer, rfl, live⟩)
          (stuck (.client ⟨0, 0, false⟩ (.timeout source) false))
    · by_contra queued
      exact stuck (.finished 0) (decide_eq_true (List.length_pos_iff.mpr queued))
  · intro rest lapses still
    have P := sound_run S w random key (events ++ rest)
    have idle := still.lookups P
    have unmoved : phone.app.Unmoved (run S w random key (events ++ rest)).app := by
      rw [after]
      exact lapses.unmoved R
    refine ⟨idle, unmoved, fun up dialogs stray => ?_⟩
    obtain ⟨es, same⟩ := P.app
    have free : (run S w random key (events ++ rest)).app.Free := by
      rw [same] at unmoved idle ⊢
      exact Application.free_run (unmoved.session.trans up) idle (unmoved.dialogs.trans dialogs)
        (unmoved.stray.trans stray)
    exact ⟨free, P.listen.trans free.listen⟩

end Phone

end Nanotalk
