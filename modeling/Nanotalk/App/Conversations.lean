import Nanotalk.App.Phones

/-!
# From the click to the sound

What happens to the sessions that the phones of `Phones` make, when packets arrive between anything else
that happens to the phones. `Moves` is what one event does to one session, `Genuine` what is asked of the
packets: those that a session accepts were sealed by the sinks of the session at the other end.

`conversations_run`: to every new connection of a phone belongs a call of another one, and the sessions
that the two applications have made of these converse (`RtpSession.Conversing`).
-/

namespace Nanotalk
open DhtClient (Env)

/-! ## What happens to a session -/

namespace RtpSession

variable {S : Sodium} {onHold : Bool} {session session' session'' : RtpSession} {hears : Option Received}

/-- The receiver of a session gets this. -/
def Event.received : Event → Option Received
  | receive received => some received
  | _ => none

/-- What may happen to a session when its receiver gets something. -/
structure Evolves (S : Sodium) (hears : Option Received) (session session' : RtpSession) : Prop where
  origin : session'.origin = session.origin
  rendered : ∀ p ∈ session.rendered, p ∈ session'.rendered
  passes : ∀ rendered, session.Passed rendered → (∀ p ∈ rendered, p.1.key = session.src.key) →
    (∀ received ∈ hears, session.Genuine S rendered received) → session'.Passed rendered

/-- Nothing happens. -/
lemma Evolves.refl (session : RtpSession) : Evolves S hears session session :=
  ⟨rfl, fun _ => id, fun _ passed _ _ => passed⟩

/-- What happens without a datagram may come on top. -/
lemma Evolves.trans (first : Evolves S hears session session')
    (second : Evolves S none session' session'') : Evolves S hears session session'' where
  origin := second.origin.trans first.origin
  rendered p mem := second.rendered p (first.rendered p mem)
  passes rendered passed keyed genuine := by
    refine second.passes rendered (first.passes rendered passed keyed genuine) ?_ nofun
    have same : session'.src.key = session.src.key := congrArg Origin.decKey first.origin
    exact fun p mem => (keyed p mem).trans same.symm

/-- Entries that neither launch nor receive. -/
lemma Adds.evolves {A : SessionAction → Prop} (adds : Adds A session session')
    (once : ∀ action, A action → action.rings = false)
    (quiet : ∀ src received buffer, ¬ A (.push src received buffer)) :
    Evolves S hears session session' :=
  ⟨adds.origin once, fun _ => adds.mem_rendered, fun _ passed _ _ => passed.adds adds quiet⟩

/-- A session is destroyed. -/
lemma evolves_destroy : Evolves S none session session.destroy := by
  have adds : Adds Plain session session.destroy := adds_destroy
  exact adds.evolves (fun _ => Plain.quiet) fun _ _ _ => id

/-- A session is answered. -/
lemma evolves_answer : Evolves S none session session.answer :=
  ⟨origin_answer, fun _ => adds_answer.mem_rendered,
    fun _ passed _ _ => passed.adds adds_answer fun _ _ _ => by simp [Plain]⟩

/-- A session takes an event. -/
lemma evolves_step (e : Event) : Evolves S e.received session (session.step S e).1 := by
  refine ⟨origin_step S e, fun _ => (adds_step e).mem_rendered, fun rendered passed keyed genuine => ?_⟩
  refine passed.step e keyed ?_
  rintro received rfl
  exact genuine received rfl

/-- A launched session has passed nothing on. -/
lemma passed_launch (encKey decKey : DhtKey) (enableVideo onHold : Bool) (source : Nat) :
    ((new encKey decKey enableVideo).launch onHold source).Passed [] := fun src received buffer mem =>
  absurd ((adds_launch source).new mem) (by simp [Launches, Plain, new])

/-- How a session was launched is seen in its log. -/
lemma Reached.rung (reached : Reached S onHold session) : session.rung = onHold := by
  have launched := reached.waiting.launched
  rw [Bool.eq_iff_iff]
  constructor
  · intro rung
    obtain ⟨action, mem, rings⟩ := List.any_eq_true.mp rung
    cases action with
    | launch b =>
      obtain rfl : b = true := rings
      exact ((launched true).mp mem).symm
    | _ => cases rings
  · rintro rfl
    exact List.any_eq_true.mpr ⟨_, (launched true).mpr rfl, rfl⟩

/-- What may happen to a place in a list of sessions. -/
def Moves (S : Sodium) (hears : Option Received) : Option RtpSession → Option RtpSession → Prop
  | some session, some session' => Evolves S hears session session'
  | some _, none => False
  | none, some session' => session'.Passed []
  | none, none => True

namespace Moves

variable {x y z : Option RtpSession}

/-- A session stays as it is. -/
lemma refl (x : Option RtpSession) : Moves S hears x x := by
  cases x with
  | none => trivial
  | some session => exact Evolves.refl session

/-- What a session hears comes first. -/
lemma trans (first : Moves S hears x y) (second : Moves S none y z) : Moves S hears x z := by
  cases x with
  | none =>
    cases y with
    | none =>
      cases z with
      | none => trivial
      | some session => exact second
    | some session =>
      cases z with
      | none => exact absurd second id
      | some session' => exact second.passes [] first (List.forall_mem_nil _) nofun
  | some session =>
    cases y with
    | none => exact absurd first id
    | some session' =>
      cases z with
      | none => exact absurd second id
      | some session'' => exact Evolves.trans first second

end Moves

end RtpSession

namespace Application
open RtpSession (Moves Evolves)

variable {S : Sodium} {app : Application} {n : Nat}

/-- What the receiver of the session with a number gets in an event. -/
def Event.received (n : Nat) : Event → Option Received
  | session m e => if m = n then e.received else none
  | _ => none

/-- A call on a session. -/
lemma moves_call {m : Nat} {f : RtpSession → RtpSession} {hears : Option Received}
    (own : m = n → ∀ session, Evolves S hears session (f session)) :
    Moves S hears app.sessions[n]? (app.call m f).sessions[n]? := by
  rw [call, List.getElem?_modify]
  cases app.sessions[n]? with
  | none => trivial
  | some session =>
    show Evolves S hears session (if m = n then f session else session)
    split
    · rename_i same
      exact own same session
    · exact .refl session

/-- A session is launched at the end of the list. -/
lemma moves_launch (encKey decKey : DhtKey) (enableVideo onHold : Bool) :
    Moves S none app.sessions[n]? (app.launch encKey decKey enableVideo onHold).sessions[n]? := by
  rw [launch]
  rcases Nat.lt_trichotomy n app.sessions.length with lt | rfl | gt
  · rw [List.getElem?_append_left lt]
    exact .refl _
  · rw [List.getElem?_concat_length, List.getElem?_eq_none (Nat.le_refl _)]
    exact RtpSession.passed_launch encKey decKey enableVideo onHold _
  · rw [List.getElem?_eq_none (Nat.le_of_lt gt), List.getElem?_eq_none]
    · trivial
    · rw [List.length_append]
      exact gt

/-- What an event does to a session. -/
lemma moves_step (e : Event) : Moves S (e.received n) app.sessions[n]? (app.step S e).sessions[n]? := by
  refine step_rule (P := fun app' => Moves S (e.received n) app.sessions[n]? app'.sessions[n]?)
    ?_ ?_ ?_ ?_ e ?_ (.refl _)
  · intro app₁ app₂ moves sessions _
    rw [sessions]
    exact moves
  · exact fun _ encKey decKey enableVideo onHold moves =>
      moves.trans (moves_launch encKey decKey enableVideo onHold)
  · exact fun _ m moves => moves.trans (moves_call fun _ _ => RtpSession.evolves_destroy)
  · exact fun _ m moves => moves.trans (moves_call fun _ _ => RtpSession.evolves_answer)
  · intro m e' this
    refine moves_call fun same session => ?_
    rw [this, Event.received, if_pos same]
    exact RtpSession.evolves_step e'

end Application

namespace Phone
open RtpSession (Moves)

variable {S : Sodium} {w : WordSize} {random : Nat → DhtKey} {phone : Phone} {n : Nat}

/-- What the receiver of the session with a number gets in an event. -/
def Event.received (n : Nat) : Event → Option Received
  | app _ e => e.received n
  | _ => none

/-- What the client does makes sessions only. -/
lemma moves_foldl (enableVideo : Bool) (actions : List Action) :
    Moves S none phone.app.sessions[n]? (actions.foldl (perform enableVideo) phone).app.sessions[n]? := by
  induction actions generalizing phone with
  | nil => exact .refl _
  | cons action actions ih =>
    have first : Moves S none phone.app.sessions[n]?
        (phone.perform enableVideo action).app.sessions[n]? := by
      cases action with
      | complete result k =>
        exact Application.moves_step (.lookupFinished (some (k.encrypts, k.decrypts, enableVideo)))
      | newConnection k =>
        exact Application.moves_step (.newConnection k.encrypts k.decrypts enableVideo)
      | _ => exact .refl _
    exact first.trans ih

/-- The call of `dht_client_lookup_async` leaves the application as it is. -/
lemma lookup_app (env : Env) (id : Option DhtId) : (phone.lookup S w random env id).app = phone.app := by
  cases id with
  | none => rfl
  | some id => exact serve_app (DhtClient.lookupAsync_mute random env.searchTime id) false

/-- What an event does to a session. -/
lemma moves_step (e : Event) :
    Moves S (e.received n) phone.app.sessions[n]? (phone.step S w random e).app.sessions[n]? := by
  cases e with
  | client env e enableVideo =>
    unfold step
    dsimp only
    split
    · show Moves S none { phone with client := phone.client.step S w random env e }.app.sessions[n]? _
      exact moves_foldl enableVideo _
    · exact .refl _
  | finished i =>
    unfold step
    dsimp only
    split
    · exact Application.moves_step (.lookupFinished none)
    · exact .refl _
  | app env e =>
    unfold step
    dsimp only
    split
    · show Moves S (e.received n) phone.app.sessions[n]?
        ((phone.lookup S w random env (phone.app.asks e)).app.step S e).sessions[n]?
      rw [lookup_app]
      exact Application.moves_step e
    · exact .refl _

end Phone

/-! ## Two sessions -/

namespace Phones
open RtpSession (Moves Evolves Passed Conversing Reached)

variable {ι : Type} [DecidableEq ι] (S : Sodium) (site : ι → Site)

/-- The session with a number of a phone. -/
def session {ι : Type} (phones : ι → Phone) (x : ι × Nat) : Option RtpSession :=
  (phones x.1).app.sessions[x.2]?

/-- What a session has rendered. -/
def said {ι : Type} (phones : ι → Phone) (x : ι × Nat) : List (RtpSink × Option (List UInt8)) :=
  (session phones x).elim [] RtpSession.rendered

/-- What the receiver of a session gets in an event of a phone. -/
def received (x : ι × Nat) (i : ι) (e : Phone.Event) : Option Received :=
  if i = x.1 then e.received x.2 else none

/-- What the session `x` accepts was sealed by the session `y`. -/
def Genuine (x y : ι × Nat) (phones : ι → Phone) (i : ι) (e : Phone.Event) : Prop :=
  ∀ r ∈ received x i e, ∀ a ∈ session phones x, a.Genuine S (said phones y) r

/-- Throughout a schedule, two sessions accept only what the other one has sealed. -/
def Undisturbed (x y : ι × Nat) (schedule : List (ι × Phone.Event)) : Prop :=
  Parties.Throughout (step S site)
    (fun phones i e => Genuine S x y phones i e ∧ Genuine S y x phones i e) (new S site) schedule

variable {S site} {phones last : ι → Phone} {x y : ι × Nat} {i : ι} {e : Phone.Event}
  {schedule : List (ι × Phone.Event)}

/-- What an event of a phone does to a session. -/
lemma moves_act (x : ι × Nat) (i : ι) (e : Phone.Event) : Moves S (received x i e) (session phones x)
    (session (Parties.act (step S site) phones (i, e)) x) := by
  rw [session, session, received, Parties.act, Function.update_apply]
  by_cases same : x.1 = i
  · rw [if_pos same.symm, if_pos same, same]
    exact Phone.moves_step e
  · rw [if_neg fun other => same other.symm, if_neg same]
    exact .refl _

/-- What was said stays so. -/
lemma said_act {p : RtpSink × Option (List UInt8)} (mem : p ∈ said phones y) :
    p ∈ said (Parties.act (step S site) phones (i, e)) y := by
  have moves : Moves S (received y i e) (session phones y)
    (session (Parties.act (step S site) phones (i, e)) y) := moves_act y i e
  rw [said] at mem ⊢
  cases before : session phones y with
  | none =>
    rw [before] at mem
    exact absurd mem List.not_mem_nil
  | some b =>
    rw [before] at moves mem
    cases after : session (Parties.act (step S site) phones (i, e)) y with
    | none =>
      rw [after] at moves
      exact absurd moves id
    | some b' =>
      rw [after] at moves
      exact moves.rendered p mem

/-- What a session gave to its decoders was rendered by another one. -/
def Heard (x y : ι × Nat) (phones : ι → Phone) : Prop :=
  ∀ a ∈ session phones x, a.Passed (said phones y)

/-- What an event keeps. -/
lemma Heard.act (heard : Heard x y phones) (genuine : Genuine S x y phones i e)
    (keyed : ∀ a ∈ session phones x, ∀ p ∈ said phones y, p.1.key = a.src.key) :
    Heard x y (Parties.act (step S site) phones (i, e)) := by
  intro a' here
  have moves : Moves S (received x i e) (session phones x)
    (session (Parties.act (step S site) phones (i, e)) x) := moves_act x i e
  rw [Option.mem_def.mp here] at moves
  refine Passed.mono ?_ fun p mem => said_act mem
  cases before : session phones x with
  | none =>
    rw [before] at moves
    exact Passed.mono moves fun p mem => absurd mem List.not_mem_nil
  | some a =>
    rw [before] at moves
    exact moves.passes _ (heard a before) (keyed a before) fun r hears => genuine r hears a before

/-! ## The keys -/

/-- A session of a phone is there later, made with the same keys, and has said no less. -/
def Later (phone phone' : Phone) : Prop :=
  ∀ (n : Nat) a, phone.app.sessions[n]? = some a → ∃ a', phone'.app.sessions[n]? = some a' ∧
    a'.origin = a.origin ∧ ∀ p ∈ a.rendered, p ∈ a'.rendered

omit [DecidableEq ι] in
/-- What an event leads to is later. -/
lemma later_step (i : ι) (phone : Phone) (e : Phone.Event) : Later phone (step S site i phone e) := by
  intro n a here
  have moves : Moves S (e.received n) phone.app.sessions[n]? (step S site i phone e).app.sessions[n]? :=
    Phone.moves_step e
  rw [here] at moves
  cases after : (step S site i phone e).app.sessions[n]? with
  | none =>
    rw [after] at moves
    exact absurd moves id
  | some a' =>
    rw [after] at moves
    exact ⟨a', rfl, moves.origin, moves.rendered⟩

variable (S site) in
/-- The sessions of the phones later in a schedule. -/
lemma later_run (phones : ι → Phone) (schedule : List (ι × Phone.Event)) (i : ι) :
    Later (phones i) (Parties.run (step S site) phones schedule i) := by
  refine Parties.run_related (fun phone n a here => ⟨a, here, rfl, fun _ => id⟩) ?_ later_step schedule i
  intro phone phone' phone'' first second n a here
  obtain ⟨a', here', origin, rendered⟩ := first n a here
  obtain ⟨a'', here'', origin', rendered'⟩ := second n a' here'
  exact ⟨a'', here'', origin'.trans origin, fun p mem => rendered' p (rendered p mem)⟩

/-- The sessions `x` and `y` have the keys the other way round. -/
def Mirrored (x y : ι × Nat) (phones : ι → Phone) : Prop :=
  ∀ a ∈ session phones x, ∀ b ∈ session phones y, ∀ m, (b.sinks m).key = a.src.key

/-- What is rendered with, in the end and before. -/
lemma keyed_of_last (mirrored : Mirrored x y last)
    (voiced : ∀ b ∈ session last y, ∃ encKey, b.Voiced encKey)
    {rest : List (ι × Phone.Event)} (reached : Parties.run (step S site) phones rest = last) :
    ∀ a ∈ session phones x, ∀ p ∈ said phones y, p.1.key = a.src.key := by
  intro a here p mem
  rw [said] at mem
  cases there : session phones y with
  | none =>
    rw [there] at mem
    exact absurd mem List.not_mem_nil
  | some b =>
    rw [there] at mem
    obtain ⟨a', here', origin, -⟩ := later_run S site phones rest x.1 x.2 a here
    obtain ⟨b', there', -, rendered⟩ := later_run S site phones rest y.1 y.2 b there
    rw [reached] at here' there'
    obtain ⟨encKey, V⟩ := voiced b' there'
    have key : a'.src.key = a.src.key := congrArg Origin.decKey origin
    rw [V.rendered p (rendered p mem), ← V.sinks .audio, mirrored a' here' b' there' .audio, key]

/-- The sessions of the phones are sessions that a launch has led to. -/
lemma reached_session {a : RtpSession} (here : a ∈ session (run S site schedule) x) :
    Reached S a.rung a := by
  have mem : a ∈ (run S site schedule x.1).app.sessions := List.mem_of_getElem? here
  rw [run_own] at mem
  obtain ⟨es, same⟩ := (Phone.sound_run S (site x.1).wordSize (site x.1).random (site x.1).key
    (own schedule x.1)).app
  rw [same] at mem
  obtain ⟨onHold, reached⟩ := Application.SessionsReached.run es a mem
  rwa [reached.rung]

/-- Two sessions that have the keys of each other hear what the other one says. -/
lemma heard_run (mirrored : Mirrored x y (run S site schedule))
    (mirrored' : Mirrored y x (run S site schedule))
    (undisturbed : Undisturbed S site x y schedule) :
    Heard x y (run S site schedule) ∧ Heard y x (run S site schedule) := by
  have voiced : ∀ z, ∀ b ∈ session (run S site schedule) z, ∃ encKey, b.Voiced encKey :=
    fun z b here => (reached_session here).voiced
  refine Parties.run_induct (P := fun phones => Heard x y phones ∧ Heard y x phones) ?_ undisturbed rfl
    ⟨nofun, nofun⟩
  rintro phones i e rest ⟨genuine, genuine'⟩ reached ⟨heard, heard'⟩
  have reached : Parties.run (step S site) phones ((i, e) :: rest) = run S site schedule := reached
  exact ⟨heard.act genuine (keyed_of_last mirrored (voiced y) reached),
    heard'.act genuine' (keyed_of_last mirrored' (voiced x) reached)⟩

/-! ## Calls -/

/-- The session of a connection that was handed out. -/
lemma session_of_handed {i : ι} {handed : DhtConnection × Bool}
    (mem : handed ∈ (run S site schedule i).client.log.filterMap Action.handed) :
    ∃ n, (run S site schedule i).client.deliveries.reverse[n]? = some handed.1 ∧
      ∃ a, session (run S site schedule) (i, n) = some a ∧ a.origin = DhtConnection.origin handed := by
  have mem' : handed ∈ (run S site schedule i).client.log.reverse.filterMap Action.handed := by
    rw [List.filterMap_reverse]
    exact List.mem_reverse.mpr mem
  obtain ⟨n, here⟩ := List.mem_iff_getElem?.mp mem'
  have origins :=
    (Phone.sound_run S (site i).wordSize (site i).random (site i).key (own schedule i)).origins
  rw [← run_own] at origins
  have same := congrArg (fun list : List Origin => list[n]?) origins
  rw [Application.origins, List.getElem?_map, List.getElem?_map, here] at same
  obtain ⟨a, there, origin⟩ := Option.map_eq_some_iff.mp same
  refine ⟨n, ?_, a, there, origin⟩
  rw [Phone.deliveries_handed, List.getElem?_map, here]
  rfl

/-- To every new connection of a phone belongs one that another phone called for. The sessions that the
    two applications have made of these have the keys of each other, and if each of them accepts only what
    the other one has sealed, each hears what the other one says, and nothing is said or heard before the
    call is answered. -/
theorem conversations_run [Fintype ι] (relaying : Relaying S site schedule)
    (fresh : Network.Fresh site (clients (run S site schedule)))
    (symmetric : ∀ i j, Network.secret S site i j = Network.secret S site j i) {j : ι}
    {k : DhtConnection} (signalled : .newConnection k ∈ (run S site schedule j).client.log) :
    ∃ i ≠ j, ∃ r e, .complete r e ∈ (run S site schedule i).client.log ∧
      Phone.Called (own schedule i) (run S site schedule j).client.id ∧
      ∃ n m caller called,
        (run S site schedule i).client.deliveries.reverse[n]? = some e ∧
        (run S site schedule i).app.sessions[n]? = some caller ∧
        (run S site schedule j).client.deliveries.reverse[m]? = some k ∧
        (run S site schedule j).app.sessions[m]? = some called ∧
        (∀ medium, (caller.sinks medium).key = called.src.key) ∧
        (∀ medium, (called.sinks medium).key = caller.src.key) ∧
        (Undisturbed S site (i, n) (j, m) schedule → Conversing caller called) := by
  have C := run_connected relaying
  obtain ⟨i, r, e, completed, id, -, enc, dec⟩ := C.caller fresh symmetric signalled
  obtain ⟨called, foreign⟩ := completed_run completed
  refine ⟨i, ?_, r, e, completed, id ▸ called, ?_⟩
  · rintro rfl
    exact foreign (id.trans (C.traced i).before.id)
  · obtain ⟨n, here, a, made, origin⟩ := session_of_handed (List.mem_filterMap.mpr ⟨_, completed, rfl⟩)
    obtain ⟨m, here', b, made', origin'⟩ := session_of_handed (List.mem_filterMap.mpr ⟨_, signalled, rfl⟩)
    have key : ∀ medium, (a.sinks medium).key = b.src.key := by
      intro medium
      have sink : (a.sinks medium).key = e.encrypts := congrFun (congrArg Origin.encKey origin) medium
      have src : b.src.key = k.decrypts := congrArg Origin.decKey origin'
      rw [sink, src, DhtConnection.encrypts, DhtConnection.decrypts, enc]
    have key' : ∀ medium, (b.sinks medium).key = a.src.key := by
      intro medium
      have sink : (b.sinks medium).key = k.encrypts := congrFun (congrArg Origin.encKey origin') medium
      have src : a.src.key = e.decrypts := congrArg Origin.decKey origin
      rw [sink, src, DhtConnection.encrypts, DhtConnection.decrypts, dec]
    refine ⟨n, m, a, b, here, made, here', made', key, key', fun undisturbed => ?_⟩
    have mirrored : Mirrored (i, n) (j, m) (run S site schedule) := by
      intro a' here b' there
      obtain rfl := Option.some.inj (made.symm.trans here)
      obtain rfl := Option.some.inj (made'.symm.trans there)
      exact key'
    have mirrored' : Mirrored (j, m) (i, n) (run S site schedule) := by
      intro b' there a' here
      obtain rfl := Option.some.inj (made.symm.trans here)
      obtain rfl := Option.some.inj (made'.symm.trans there)
      exact key
    obtain ⟨heard, heard'⟩ := heard_run mirrored mirrored' undisturbed
    have rung : b.rung = true := congrArg Origin.onHold origin'
    have second : Reached S true b := rung ▸ reached_session made'
    have said : said (run S site schedule) (i, n) = a.rendered := by rw [Phones.said, made]; rfl
    have said' : Phones.said (run S site schedule) (j, m) = b.rendered := by rw [Phones.said, made']; rfl
    exact (reached_session made).conversing second (said' ▸ heard a made) (said ▸ heard' b made')

/-! ## A conversation -/

instance (x y : ι × Nat) (phones : ι → Phone) (i : ι) (e : Phone.Event) :
    Decidable (Genuine S x y phones i e) :=
  inferInstanceAs (Decidable (∀ r ∈ _, ∀ a ∈ _, RtpSession.Genuine ..))

/-- Of a schedule of inputs, nothing but packets is asked for. -/
lemma undisturbed_schedule {inputs : List (ι × Input)} (short : ∀ e ∈ inputs, e.2.Short) :
    Undisturbed S site x y (Phones.schedule inputs) ↔ Parties.Throughout (take S site)
      (fun phones i e => Genuine S x y phones i e.toEvent ∧ Genuine S y x phones i e.toEvent)
      (new S site) inputs :=
  Parties.throughout_translate Input.toEvent inputs
    (fun e mem i phone => step_toEvent (short e mem) i phone) fun _ _ _ _ => Iff.rfl

/-- The second phone is answered and its user speaks, the first one hears this and its user speaks too. -/
def speaking : List (Bool × Input) :=
  let packet (ssrc : UInt8) : List UInt8 := [0x80, 96, 0, 7, 0, 0, 0, 0, 0, 0, 0, ssrc, 42]
  let key (a b : UInt8) : DhtKey := ⟨fun i => [3, a, b].getD i 0⟩
  let datagram (key : DhtKey) (ssrc : UInt8) : Received :=
    .datagram (sealPacket Sodium.transparent key (rtpNonce 0 7 ssrc.toUInt32) (packet ssrc)) true
  let app (e : Application.Event) : Input := .event (.app ⟨0, 0, false⟩ e)
  ringing ++ [(true, app .dialogRun), (true, app (.response 0 .yes)), (true, app .dialogReturn),
    (true, app (.session 0 (.render ⟨.audio, some (packet 2), none⟩))),
    (false, app (.session 0 (.receive (datagram (key 20 10) 2)))),
    (false, app (.session 0 (.newPayloadType (packet 2) 96))), (false, app (.session 0 .acceptCb)),
    (false, app (.session 0 (.render ⟨.audio, some (packet 1), none⟩))),
    (true, app (.session 0 (.receive (datagram (key 10 20) 1))))]

/-- The messages fit into a datagram. -/
lemma speaking_short : ∀ e ∈ speaking, e.2.Short := by
  refine List.forall_mem_append.mpr ⟨ringing_short, ?_⟩
  simp [Input.Short]

/-- The only session of a phone. -/
lemma speaking_session {i : Bool} {n : Nat} {a : RtpSession}
    (here : (run Sodium.transparent Network.pair (Phones.schedule speaking) i).app.sessions[n]? = some a) :
    n = 0 := by
  have one : ∀ i,
      (run Sodium.transparent Network.pair (Phones.schedule speaking) i).app.sessions.length = 1 := by
    rw [run_schedule speaking_short]
    decide +kernel
  have lt := (List.getElem?_eq_some_iff.mp here).1
  rw [one i] at lt
  exact Nat.lt_one_iff.mp lt

/-- In the end both users have spoken, and they converse. -/
theorem conversations_run_speaking : ∃ caller called,
    (run Sodium.transparent Network.pair (Phones.schedule speaking) false).app.sessions[0]? = some caller ∧
    (run Sodium.transparent Network.pair (Phones.schedule speaking) true).app.sessions[0]? = some called ∧
    caller.rendered ≠ [] ∧ called.rendered ≠ [] ∧ Conversing caller called := by
  have relaying : Relaying Sodium.transparent Network.pair (Phones.schedule speaking) := by
    rw [relaying_schedule speaking_short]
    decide +kernel
  have fresh : Network.Fresh Network.pair
      (clients (run Sodium.transparent Network.pair (Phones.schedule speaking))) := by
    rw [run_schedule speaking_short, Network.fresh_iff]
    decide +kernel
  have undisturbed : Undisturbed Sodium.transparent Network.pair (false, 0) (true, 0)
      (Phones.schedule speaking) := by
    rw [undisturbed_schedule speaking_short]
    decide +kernel
  have said : ∀ i, (run Sodium.transparent Network.pair (Phones.schedule speaking) i).app.sessions[0]?.all
      fun a => !a.rendered.isEmpty := by
    rw [run_schedule speaking_short]
    decide +kernel
  have signalled : ((run Sodium.transparent Network.pair (Phones.schedule speaking) true).client.log.any
      fun action => action.delivery.isSome && action.completed.isEmpty) := by
    rw [run_schedule speaking_short]
    decide +kernel
  obtain ⟨action, mem, delivers⟩ := List.any_eq_true.mp signalled
  cases action with
  | newConnection k =>
    obtain ⟨i, ne, -, -, -, -, n, m, caller, called, -, here, -, there, -, -, converse⟩ :=
      conversations_run relaying fresh pair_symmetric mem
    obtain rfl : i = false := Bool.eq_false_of_not_eq_true ne
    obtain rfl := speaking_session here
    obtain rfl := speaking_session there
    have spoken : ∀ {i a},
        (run Sodium.transparent Network.pair (Phones.schedule speaking) i).app.sessions[0]? = some a →
        a.rendered ≠ [] := by
      intro i a here
      have some := said i
      rw [here] at some
      simpa using some
    exact ⟨caller, called, here, there, spoken here, spoken there, converse undisturbed⟩
  | _ => cases delivers

end Phones

end Nanotalk
