import Nanotalk.App.Control
import Nanotalk.Dht.Handover
import Nanotalk.Rtp.Call

/-!
# The application with its client

C `application_run` gives the application a client: C `call_start` calls `dht_client_lookup_async`, the
client calls C `lookup_finished_cb` and emits `new-connection`, and the application sets its property
`listen`. Events are those of the client that are not of the application's making, those of the
application that the client does not make, and the calls of `lookup_finished_cb` that are queued.

* `g_simple_async_result_complete` calls C `lookup_finished_cb` at once, and so does the signal C
  `new_connection`. These do not call the client, so that they run after the event.
* `g_simple_async_result_complete_in_idle` queues the call, which is taken out in any order.
* The client that C `config_apply` makes is in `Program`.

`Sound` is the invariant (`sound_run`): each half is in a state of a run of its own, so that what holds
of its runs holds here; they agree on `listen` and on the calls that are waited for; and the sessions
are the connections that were handed out, with their keys, on hold if the peer has called.
-/

namespace Nanotalk
open DhtClient (Env)

/-- The key for encryption that a connection is handed out with. It was written by then. -/
def DhtConnection.encrypts (k : DhtConnection) : DhtKey := k.encKey.getD ⟨fun _ => 0⟩

/-- The key for decryption that a connection is handed out with. It was written by then. -/
def DhtConnection.decrypts (k : DhtConnection) : DhtKey := k.decKey.getD ⟨fun _ => 0⟩

/-- A connection that is handed out, and whether its session is launched on hold. -/
def Action.handed : Action → Option (DhtConnection × Bool)
  | complete _ k => some (k, false)
  | newConnection k => some (k, true)
  | _ => none

/-- What a session is made with. -/
structure Origin where
  encKey : Medium → DhtKey
  decKey : DhtKey
  onHold : Bool

/-- What a session was made with, as it is seen later. -/
def RtpSession.origin (session : RtpSession) : Origin :=
  ⟨fun m => (session.sinks m).key, session.src.key, session.rung⟩

/-- What the session for a connection is made with. -/
def DhtConnection.origin (handed : DhtConnection × Bool) : Origin :=
  ⟨fun _ => handed.1.encrypts, handed.1.decrypts, handed.2⟩

namespace Application

/-- An event that the client does not make. -/
def Event.outer : Event → Bool
  | newConnection .. => false
  | lookupFinished _ => false
  | _ => true

/-- The id that C `call_start` calls `dht_client_lookup_async` for. -/
def asks (app : Application) : Event → Option DhtId
  | .start id => if app.buttonStart then id else none
  | .toggle id => if app.buttonStart then id else none
  | _ => none

end Application

/-- An application with its client. -/
structure Phone where
  app : Application
  client : DhtClient
  /-- the calls of C `lookup_finished_cb` that are queued, with the errors -/
  queue : List (Nat × GError)

namespace DhtClient

/-- What a client has done since an earlier state, in order. -/
def since (c c' : DhtClient) : List Action := (c'.log.take (c'.log.length - c.log.length)).reverse

/-- What was added to the log, the first first. -/
lemma since_eq {c c' : DhtClient} {added : List Action} (log : c'.log = added ++ c.log) :
    c.since c' = added.reverse := by
  rw [since, log, List.length_append, Nat.add_sub_cancel, List.take_left]

end DhtClient

namespace Phone

/-- What happens to the application and its client. -/
inductive Event where
  /-- something happens to the client; `enableVideo` is what is configured for a session -/
  | client (env : Env) (e : Nanotalk.Event) (enableVideo : Bool)
  /-- a queued call of C `lookup_finished_cb` -/
  | finished (n : Nat)
  | app (env : Env) (e : Application.Event)

variable (S : Sodium) (w : WordSize) (random : Nat → DhtKey)

/-- What an action of the client is for the application. -/
def perform (enableVideo : Bool) (phone : Phone) : Action → Phone
  | .completeInIdle result error => { phone with queue := phone.queue ++ [(result, error)] }
  | .complete _ k =>
    { phone with app := phone.app.lookupFinished (some (k.encrypts, k.decrypts, enableVideo)) }
  | .newConnection k =>
    { phone with app := phone.app.newConnection k.encrypts k.decrypts enableVideo }
  | _ => phone

/-- The client is in another state, and the callbacks for what it has done are called. -/
def follow (phone : Phone) (client : DhtClient) (enableVideo : Bool) : Phone :=
  (phone.client.since client).foldl (perform enableVideo) { phone with client := client }

/-- The client takes an event. -/
def serve (phone : Phone) (env : Env) (e : Nanotalk.Event) (enableVideo : Bool) : Phone :=
  phone.follow (phone.client.step S w random env e) enableVideo

/-- The call of `dht_client_lookup_async` in C `call_start`. -/
def lookup (phone : Phone) (env : Env) : Option DhtId → Phone
  | some id => phone.serve S w random env (.lookupAsync id) false
  | none => phone

/-- `g_object_set` of the property `listen` of the client. -/
def setListen (phone : Phone) : Phone :=
  { phone with client := { phone.client with listen := phone.app.listen } }

/-- After an event. -/
def step (phone : Phone) : Event → Phone
  | .client env e enableVideo =>
    if e.outer then phone.serve S w random env e enableVideo else phone
  | .finished n =>
    if n < phone.queue.length then
      { phone with
        app := phone.app.lookupFinished none
        queue := phone.queue.eraseIdx n }.setListen
    else phone
  | .app env e =>
    if e.outer then
      let phone' := phone.lookup S w random env (phone.app.asks e)
      { phone' with app := phone'.app.step S e }.setListen
    else phone

/-- What happens to the client in an event. -/
def inputs (phone : Phone) : Event → List (Env × Nanotalk.Event)
  | .client env e _ => if e.outer then [(env, e)] else []
  | .finished n =>
    if n < phone.queue.length then
      [(⟨0, 0, false⟩, .setListen (phone.step S w random (.finished n)).app.listen)]
    else []
  | .app env e =>
    if e.outer then
      (phone.app.asks e).toList.map (fun id => (env, .lookupAsync id)) ++
        [(env, .setListen (phone.step S w random (.app env e)).app.listen)]
    else []

/-- After C `application_startup`. -/
def startup (key : DhtKey) : Phone :=
  { app := .startup, client := .new S key, queue := [] : Phone }.setListen

/-- After a run of the main loop. -/
def run (key : DhtKey) (events : List Event) : Phone :=
  events.foldl (step S w random) (startup S key)

end Phone

/-! ## The application -/

namespace RtpSession

variable {session session' : RtpSession}

/-- What a session was made with stays. -/
lemma Adds.origin {A : SessionAction → Prop} (adds : Adds A session session')
    (once : ∀ action, A action → action.rings = false) : session'.origin = session.origin := by
  rw [RtpSession.origin, RtpSession.origin, funext adds.enc, adds.dec, adds.rung once]

/-- The keys that a session is launched with. -/
lemma origin_launch (encKey decKey : DhtKey) (enableVideo onHold : Bool) (source : Nat) :
    ((new encKey decKey enableVideo).launch onHold source).origin =
      ⟨fun _ => encKey, decKey, onHold⟩ := by
  cases onHold <;> rfl

/-- Destroying a session leaves its origin. -/
lemma origin_destroy : session.destroy.origin = session.origin := by
  have adds : Adds Plain session session.destroy := adds_destroy
  exact adds.origin fun _ => Plain.quiet

/-- Answering leaves the origin. -/
lemma origin_answer : session.answer.origin = session.origin := by
  refine adds_answer.origin fun action new => ?_
  rcases new with rfl | plain
  · rfl
  · exact plain.quiet

/-- An event leaves the origin. -/
lemma origin_step (S : Sodium) (e : Event) : (session.step S e).1.origin = session.origin :=
  (adds_step e).origin fun _ => Entry.quiet

end RtpSession

namespace Application

variable {S : Sodium} {app : Application}

/-- What the sessions were made with. -/
def origins (app : Application) : List Origin := app.sessions.map RtpSession.origin

/-- A call on a session leaves what it was made with. -/
lemma origins_call (n : Nat) {f : RtpSession → RtpSession} (same : ∀ s, (f s).origin = s.origin) :
    (app.call n f).origins = app.origins := by
  rw [origins, origins, call]
  refine List.ext_getElem? fun i => ?_
  rw [List.getElem?_map, List.getElem?_map, List.getElem?_modify]
  cases app.sessions[i]? with
  | none => rfl
  | some s =>
    refine congrArg some ?_
    split
    · exact same s
    · rfl

/-- A session that is launched is the last one. -/
lemma origins_launch (encKey decKey : DhtKey) (enableVideo onHold : Bool) :
    (app.launch encKey decKey enableVideo onHold).origins =
      app.origins ++ [⟨fun _ => encKey, decKey, onHold⟩] := by
  rw [origins, launch, List.map_append, List.map_singleton, RtpSession.origin_launch]
  rfl

/-- Stopping a call leaves the origins. -/
lemma origins_callStop : app.callStop.origins = app.origins := by
  unfold callStop
  split
  · rfl
  · dsimp only
    split
    · exact origins_call _ fun _ => RtpSession.origin_destroy
    · rfl

/-- The event of a session leaves the origins. -/
lemma origins_sessionEvent (n : Nat) (e : RtpSession.Event) :
    (app.sessionEvent S n e).origins = app.origins := by
  have same : (app.call n fun session => (session.step S e).1).origins = app.origins :=
    origins_call n fun _ => RtpSession.origin_step S e
  unfold sessionEvent
  split
  · dsimp only
    split
    · exact origins_callStop.trans same
    · exact same
  · rfl

/-- A dialog that returns leaves the origins. -/
lemma origins_dialogReturn : app.dialogReturn.origins = app.origins := by
  unfold dialogReturn
  split
  · dsimp only
    split
    · split
      · exact origins_call _ fun _ => RtpSession.origin_answer
      · rfl
    · exact origins_callStop
  · rfl

/-- Stopping a call leaves the lookups. -/
lemma callStop_lookups : app.callStop.lookups = app.lookups := by
  unfold callStop
  split
  · rfl
  · dsimp only
    split <;> rfl

/-- The callback for a lookup that failed. -/
lemma lookupFinished_none (pos : 0 < app.lookups) : app.lookupFinished none =
    { app with lookups := app.lookups - 1, buttonStart := true, listen := true } := if_pos pos

/-- What the client has no part in makes no session, and waits for a lookup if it asks for one. -/
lemma step_outer {e : Event} (outer : e.outer = true) :
    (app.step S e).origins = app.origins ∧
      (app.step S e).lookups = app.lookups + (app.asks e).isSome.toNat := by
  cases e with
  | newConnection encKey decKey enableVideo => cases outer
  | lookupFinished result => cases outer
  | dialogRun =>
    unfold step dialogRun
    dsimp only
    split
    · split <;> exact ⟨rfl, rfl⟩
    · exact ⟨rfl, rfl⟩
  | response dialog response => exact ⟨rfl, rfl⟩
  | dialogReturn =>
    refine ⟨origins_dialogReturn, ?_⟩
    unfold step dialogReturn
    dsimp only
    split
    · split
      · split <;> rfl
      · exact callStop_lookups
    · rfl
  | close => exact ⟨rfl, rfl⟩
  | start id =>
    unfold step asks
    dsimp only
    split
    · cases id <;> exact ⟨rfl, rfl⟩
    · exact ⟨rfl, rfl⟩
  | stop =>
    unfold step
    dsimp only
    split
    · exact ⟨origins_callStop, callStop_lookups⟩
    · exact ⟨rfl, rfl⟩
  | toggle id =>
    unfold step callToggle asks
    dsimp only
    split
    · cases id <;> exact ⟨rfl, rfl⟩
    · split
      · exact ⟨origins_callStop, callStop_lookups⟩
      · exact ⟨rfl, rfl⟩
  | session n e =>
    refine ⟨origins_sessionEvent n e, ?_⟩
    unfold step sessionEvent
    dsimp only
    split
    · split
      · exact callStop_lookups
      · rfl
    · rfl

end Application

/-! ## What is handed over -/

/-- A connection is handed to the callback that waits for it. -/
def Action.succeeded : Action → Bool
  | complete .. => true
  | _ => false

/-- An error is queued for the callback. -/
def Action.failed : Action → Bool
  | completeInIdle .. => true
  | _ => false

/-- What is completed, by success and by failure. -/
lemma completed_length (actions : List Action) :
    (actions.flatMap Action.completed).length =
      actions.countP Action.succeeded + actions.countP Action.failed := by
  induction actions with
  | nil => rfl
  | cons action actions ih =>
    rw [List.flatMap_cons, List.length_append, ih, List.countP_cons, List.countP_cons]
    cases action <;> simp [Action.completed, Action.succeeded, Action.failed] <;> omega

namespace Phone

variable {S : Sodium} {phone phone' phone'' : Phone}

variable (S) in
/-- What actions of the client change. -/
structure Handed (actions : List Action) (phone phone' : Phone) : Prop where
  app : ∃ es : List Application.Event, phone'.app = es.foldl (fun app e => app.step S e) phone.app
  client : phone'.client = phone.client
  listen : phone'.app.listen = phone.app.listen
  lookups : phone'.app.lookups + actions.countP Action.succeeded = phone.app.lookups
  queue : phone'.queue.length = phone.queue.length + actions.countP Action.failed
  origins : phone'.app.origins =
    phone.app.origins ++ (actions.filterMap Action.handed).map DhtConnection.origin

/-- One action is handed to the application. -/
lemma handed_perform (enableVideo : Bool) {action : Action}
    (enough : action.succeeded = true → 0 < phone.app.lookups)
    (admitted : action.admitted phone.app.listen = true) :
    Handed S [action] phone (phone.perform enableVideo action) := by
  cases action with
  | completeInIdle result error =>
    exact ⟨⟨[], rfl⟩, rfl, rfl, rfl, List.length_append, (List.append_nil _).symm⟩
  | complete result k =>
    have pos := enough rfl
    have next : (phone.perform enableVideo (.complete result k)).app =
        { { phone.app with lookups := phone.app.lookups - 1 }.launch k.encrypts k.decrypts enableVideo
            false with
          buttonStop := true } := if_pos pos
    refine ⟨⟨[.lookupFinished (some (k.encrypts, k.decrypts, enableVideo))], rfl⟩, rfl, ?_, ?_, rfl, ?_⟩
    · rw [next]
      rfl
    · rw [next]
      exact Nat.sub_add_cancel pos
    · rw [next]
      exact Application.origins_launch _ _ _ _
  | newConnection k =>
    have next : (phone.perform enableVideo (.newConnection k)).app =
        { phone.app.launch k.encrypts k.decrypts enableVideo true with
          idle := phone.app.idle + 1, buttonStart := false, buttonStop := true } := if_pos admitted
    refine ⟨⟨[.newConnection k.encrypts k.decrypts enableVideo], rfl⟩, rfl, ?_, ?_, rfl, ?_⟩
    · rw [next]
      rfl
    · rw [next]
      rfl
    · rw [next]
      exact Application.origins_launch _ _ _ _
  | _ => exact ⟨⟨[], rfl⟩, rfl, rfl, rfl, rfl, (List.append_nil _).symm⟩

/-- Actions one after the other. -/
lemma Handed.append {actions actions' : List Action} (first : Handed S actions phone phone')
    (rest : Handed S actions' phone' phone'') : Handed S (actions ++ actions') phone phone'' where
  app := by
    obtain ⟨es, e⟩ := first.app
    obtain ⟨es', e'⟩ := rest.app
    exact ⟨es ++ es', by rw [e', e, List.foldl_append]⟩
  client := rest.client.trans first.client
  listen := rest.listen.trans first.listen
  lookups := by
    rw [← first.lookups, ← rest.lookups, List.countP_append]
    omega
  queue := by
    rw [rest.queue, first.queue, List.countP_append]
    omega
  origins := by
    rw [rest.origins, first.origins, List.filterMap_append, List.map_append, List.append_assoc]

/-- Actions that the application can take are handed to it. -/
lemma handed_foldl (enableVideo : Bool) {actions : List Action}
    (enough : actions.countP Action.succeeded ≤ phone.app.lookups)
    (admitted : ∀ action ∈ actions, action.admitted phone.app.listen = true) :
    Handed S actions phone (actions.foldl (perform enableVideo) phone) := by
  induction actions generalizing phone with
  | nil => exact ⟨⟨[], rfl⟩, rfl, rfl, rfl, rfl, (List.append_nil _).symm⟩
  | cons action actions ih =>
    rw [List.countP_cons] at enough
    rw [List.forall_mem_cons] at admitted
    have first : Handed S [action] phone (phone.perform enableVideo action) := by
      refine handed_perform enableVideo (fun succeeded => ?_) admitted.1
      rw [if_pos succeeded] at enough
      omega
    have lookups := first.lookups
    rw [List.countP_singleton] at lookups
    refine first.append (ih ?_ ?_)
    · omega
    · rw [first.listen]
      exact admitted.2

/-- What hands no connection out leaves the application as it is. -/
lemma foldl_app (enableVideo : Bool) {actions : List Action}
    (mute : ∀ action ∈ actions, action.delivery.isNone = true) :
    (actions.foldl (perform enableVideo) phone).app = phone.app := by
  induction actions generalizing phone with
  | nil => rfl
  | cons action actions ih =>
    rw [List.forall_mem_cons] at mute
    rw [List.foldl_cons, ih mute.2]
    cases action with
    | complete result k => cases mute.1
    | newConnection k => cases mute.1
    | _ => rfl

/-- What is performed leaves the client. -/
lemma foldl_client (enableVideo : Bool) (actions : List Action) :
    (actions.foldl (perform enableVideo) phone).client = phone.client := by
  induction actions generalizing phone with
  | nil => rfl
  | cons action actions ih =>
    rw [List.foldl_cons, ih]
    cases action <;> rfl

/-- A call is an event of the client. -/
lemma lookup_client {w : WordSize} {random : Nat → DhtKey} (env : Env) (id : Option DhtId) :
    (phone.lookup S w random env id).client =
      (id.toList.map fun id => (env, Nanotalk.Event.lookupAsync id)).foldl
        (fun c e => c.step S w random e.1 e.2) phone.client := by
  cases id with
  | none => rfl
  | some id => exact foldl_client false _

/-- A lookup that failed finishes when it is taken from the queue. -/
lemma step_finished {w : WordSize} {random : Nat → DhtKey} {n : Nat} (queued : n < phone.queue.length) :
    phone.step S w random (.finished n) =
      { phone with
        app := phone.app.lookupFinished none
        queue := phone.queue.eraseIdx n }.setListen := if_pos queued

/-- The client takes its part of an event. -/
lemma step_client (S : Sodium) (w : WordSize) (random : Nat → DhtKey) (phone : Phone) (e : Event) :
    (phone.step S w random e).client = (phone.inputs S w random e).foldl
      (fun c e => c.step S w random e.1 e.2) phone.client := by
  cases e with
  | client env e enableVideo =>
    unfold step inputs
    dsimp only
    split
    · exact foldl_client enableVideo _
    · rfl
  | finished n =>
    unfold inputs
    dsimp only
    split
    · rename_i queued
      rw [step_finished queued]
      rfl
    · rename_i done
      exact congrArg Phone.client (if_neg done)
  | app env e =>
    unfold inputs
    dsimp only
    split
    · rename_i outer
      have next : (phone.step S w random (.app env e)).client =
          { (phone.lookup S w random env (phone.app.asks e)).client with
            listen := (phone.step S w random (.app env e)).app.listen } := by
        rw [Phone.step, if_pos outer]
        rfl
      rw [next, lookup_client, List.foldl_append]
      rfl
    · rename_i inner
      exact congrArg Phone.client (if_neg inner)

/-- An event of the client that hands nothing over leaves the application. -/
lemma serve_app {w : WordSize} {random : Nat → DhtKey} {env : Env} {e : Nanotalk.Event}
    (mute : DhtClient.Mute phone.client (phone.client.step S w random env e)) (enableVideo : Bool) :
    (phone.serve S w random env e enableVideo).app = phone.app := by
  obtain ⟨added, log, kind⟩ := mute.log
  rw [Phone.serve, follow, DhtClient.since_eq log]
  exact foldl_app enableVideo fun action mem => kind action (List.mem_reverse.mp mem)

/-! ## The halves together -/

variable (S) (w : WordSize) (random : Nat → DhtKey) (key : DhtKey)

/-- The user calls this id. -/
def Called (events : List Event) (id : DhtId) : Prop :=
  ∃ env, .app env (.start (some id)) ∈ events ∨ .app env (.toggle (some id)) ∈ events

/-- What an event of the client comes from. -/
def Stems (events : List Event) (e : Env × Nanotalk.Event) : Prop :=
  match e.2 with
  | .lookupAsync id => Called events id
  | .setListen _ => True
  | other => ∃ enableVideo, .client e.1 other enableVideo ∈ events

/-- What holds in every state of a run, and while the application makes calls that it does not wait for
    yet, `due`. -/
structure Sound (events : List Event) (due : Nat) (phone : Phone) : Prop where
  app : ∃ es, phone.app = Application.run S es
  client : ∃ es, phone.client = DhtClient.run S w random key es ∧ ∀ e ∈ es, Stems events e
  listen : phone.client.listen = phone.app.listen
  /-- a call that the application waits for is the client's, or its end is queued -/
  lookups : phone.app.lookups + due + phone.client.completions.length =
    phone.client.calls + phone.queue.length
  origins : phone.app.origins =
    (phone.client.log.reverse.filterMap Action.handed).map DhtConnection.origin

variable {S w random key}

/-- More events. -/
lemma Stems.mono {events events' : List Event} (sub : events ⊆ events') {e : Env × Nanotalk.Event}
    (stems : Stems events e) : Stems events' e := by
  obtain ⟨env, e⟩ := e
  cases e with
  | lookupAsync id =>
    obtain ⟨env, mem⟩ := stems
    exact ⟨env, mem.imp (fun mem => sub mem) fun mem => sub mem⟩
  | setListen listen => trivial
  | _ =>
    obtain ⟨enableVideo, mem⟩ := stems
    exact ⟨enableVideo, sub mem⟩

variable {events : List Event} {due : Nat}

/-- The client is in a state of a run after one more event. -/
lemma Sound.client_step (P : Sound S w random key events due phone) {e : Env × Nanotalk.Event}
    (stems : Stems events e) : ∃ es, phone.client.step S w random e.1 e.2 =
      DhtClient.run S w random key es ∧ ∀ e ∈ es, Stems events e := by
  obtain ⟨es, same, all⟩ := P.client
  refine ⟨es ++ [e], ?_, List.forall_mem_append.mpr ⟨all, List.forall_mem_singleton.mpr stems⟩⟩
  rw [same, DhtClient.run_concat]

/-- The books of the client are consistent. -/
lemma Sound.consistent (P : Sound S w random key events due phone) :
    phone.client.books.Consistent none := by
  obtain ⟨es, same, -⟩ := P.client
  rw [same]
  exact DhtClient.run_consistent S w random key es

/-- The client counts its calls. -/
lemma Sound.calls_step (P : Sound S w random key events due phone) (env : Env) (e : Nanotalk.Event) :
    (phone.client.step S w random env e).calls = phone.client.calls + e.isCall.toNat :=
  (DhtClient.accounts_step S w random P.consistent env e).1

/-- More events. -/
lemma Sound.mono {events' : List Event} (sub : events ⊆ events')
    (P : Sound S w random key events due phone) : Sound S w random key events' due phone := by
  obtain ⟨es, run, stems⟩ := P.client
  exact ⟨P.app, ⟨es, run, fun e mem => (stems e mem).mono sub⟩, P.listen, P.lookups, P.origins⟩

/-- The client takes an event, of which it hands out no more than is waited for. -/
lemma Sound.serve (P : Sound S w random key events 0 phone) {env : Env} {e : Nanotalk.Event}
    (grows : DhtClient.Grows phone.client.listen phone.client (phone.client.step S w random env e))
    (stems : Stems events (env, e)) (enableVideo : Bool)
    (enough : ∀ added, (phone.client.step S w random env e).log = added ++ phone.client.log →
      added.countP Action.succeeded ≤ phone.app.lookups) :
    Sound S w random key events e.isCall.toNat (phone.serve S w random env e enableVideo) := by
  obtain ⟨added, log, admitted⟩ := grows.log
  have H : Handed S added.reverse { phone with client := phone.client.step S w random env e }
      (phone.serve S w random env e enableVideo) := by
    rw [Phone.serve, follow, DhtClient.since_eq log]
    refine handed_foldl enableVideo ?_ fun action mem => ?_
    · rw [List.countP_reverse]
      exact enough added log
    · exact P.listen ▸ admitted action (List.mem_reverse.mp mem)
  refine ⟨?_, ?_, ?_, ?_, ?_⟩
  · obtain ⟨es, eq⟩ := P.app
    obtain ⟨es', eq'⟩ := H.app
    exact ⟨es ++ es', by rw [eq', Application.run, List.foldl_append, ← Application.run, ← eq]⟩
  · rw [H.client]
    exact P.client_step stems
  · rw [H.client, H.listen]
    exact (congrArg Prod.fst grows.same).trans P.listen
  · have calls := P.calls_step env e
    have before := P.lookups
    have lookups := H.lookups
    have queue := H.queue
    have completed := completed_length added
    rw [List.countP_reverse] at lookups queue
    dsimp only at lookups queue
    rw [H.client]
    dsimp only
    rw [calls, DhtClient.completions, log, List.flatMap_append, List.length_append, completed,
      ← DhtClient.completions]
    omega
  · rw [H.origins, H.client]
    dsimp only
    rw [P.origins, log, List.reverse_append, List.filterMap_append, List.map_append]

/-- The application takes an event that makes no session, and sets `listen`. -/
lemma Sound.act (P : Sound S w random key events due phone) (e : Application.Event)
    (queue : List (Nat × GError))
    (lookups : (phone.app.step S e).lookups + phone.queue.length =
      phone.app.lookups + due + queue.length)
    (origins : (phone.app.step S e).origins = phone.app.origins) :
    Sound S w random key events 0
      { phone with app := phone.app.step S e, queue := queue }.setListen where
  app := by
    obtain ⟨es, eq⟩ := P.app
    refine ⟨es ++ [e], ?_⟩
    rw [Application.run, List.foldl_append, ← Application.run, ← eq]
    rfl
  client := P.client_step (e := (⟨0, 0, false⟩, .setListen (phone.app.step S e).listen)) trivial
  listen := rfl
  lookups := by
    have before := P.lookups
    show (phone.app.step S e).lookups + 0 + phone.client.completions.length =
      phone.client.calls + queue.length
    omega
  origins := origins.trans P.origins

/-- No more is waited for than the client has to complete, and what is queued. -/
lemma Sound.queue_le (P : Sound S w random key events 0 phone) :
    phone.queue.length ≤ phone.app.lookups := by
  obtain ⟨es, same, -⟩ := P.client
  have le := DhtClient.completions_le S w random key es
  rw [← same] at le
  have lookups := P.lookups
  omega

/-- What the application asks for is a call. -/
lemma Called.of_asks {env : Env} {e : Application.Event} {id : DhtId}
    (asks : phone.app.asks e = some id) (mem : .app env e ∈ events) : Called events id := by
  cases e with
  | start id' =>
    replace asks : (if phone.app.buttonStart then id' else none) = some id := asks
    split at asks
    · exact ⟨env, .inl (asks ▸ mem)⟩
    · cases asks
  | toggle id' =>
    replace asks : (if phone.app.buttonStart then id' else none) = some id := asks
    split at asks
    · exact ⟨env, .inr (asks ▸ mem)⟩
    · cases asks
  | _ => cases asks

/-- Something happens to the client. -/
lemma Sound.event (P : Sound S w random key events 0 phone) {env : Env} {e : Nanotalk.Event}
    {enableVideo : Bool} (outer : e.outer = true) (mem : .client env e enableVideo ∈ events) :
    Sound S w random key events 0 (phone.serve S w random env e enableVideo) := by
  have stems : Stems events (env, e) := by
    cases e with
    | lookupAsync id => cases outer
    | setListen listen => cases outer
    | _ => exact ⟨enableVideo, mem⟩
  have silent : e.isCall = false := by
    cases e with
    | lookupAsync id => cases outer
    | _ => rfl
  have next := P.serve (DhtClient.step_grows S w random env outer) stems enableVideo
    fun added log => ?_
  · rw [silent] at next
    exact next
  · -- what is handed out completes calls, and no more are completed than were made
    obtain ⟨es, same, -⟩ := P.client_step stems
    have le := DhtClient.completions_le S w random key es
    have calls := P.calls_step env e
    have lookups := P.lookups
    have completed := completed_length added
    rw [← same] at le
    dsimp only at le
    rw [calls, silent, DhtClient.completions, log, List.flatMap_append, List.length_append,
      completed, ← DhtClient.completions, Bool.toNat_false] at le
    omega

/-- A queued callback is called. -/
lemma Sound.finished (P : Sound S w random key events 0 phone) {n : Nat}
    (queued : n < phone.queue.length) : Sound S w random key events 0
      { phone with
        app := phone.app.lookupFinished none
        queue := phone.queue.eraseIdx n }.setListen := by
  have pos : 0 < phone.app.lookups := Nat.lt_of_lt_of_le (Nat.zero_lt_of_lt queued) P.queue_le
  have next : phone.app.step S (.lookupFinished none) =
      { phone.app with lookups := phone.app.lookups - 1, buttonStart := true, listen := true } :=
    Application.lookupFinished_none pos
  refine P.act (.lookupFinished none) (phone.queue.eraseIdx n) ?_ ?_
  · rw [next, List.length_eraseIdx, if_pos queued]
    dsimp only
    omega
  · rw [next]
    rfl

/-- C `call_start` calls the client. -/
lemma Sound.lookup (P : Sound S w random key events 0 phone) {env : Env} {id : Option DhtId}
    (called : ∀ id' ∈ id, Called events id') :
    Sound S w random key events id.isSome.toNat (phone.lookup S w random env id) ∧
      (phone.lookup S w random env id).app = phone.app := by
  cases id with
  | none => exact ⟨P, rfl⟩
  | some id =>
    have mute : DhtClient.Mute phone.client (phone.client.step S w random env (.lookupAsync id)) :=
      DhtClient.lookupAsync_mute random env.searchTime id
    refine ⟨P.serve mute.grows (called id rfl) false fun added log => ?_, serve_app mute false⟩
    obtain ⟨added', log', kind⟩ := mute.log
    obtain rfl := List.append_cancel_right (log.symm.trans log')
    have none : added.countP Action.succeeded = 0 := by
      rw [List.countP_eq_zero]
      intro action mem succeeded
      have handed := kind action mem
      cases action with
      | complete result k => cases handed
      | _ => cases succeeded
    rw [none]
    exact Nat.zero_le _

/-- What every event keeps. -/
lemma Sound.step (P : Sound S w random key events 0 phone) {e : Event} (mem : e ∈ events) :
    Sound S w random key events 0 (phone.step S w random e) := by
  cases e with
  | client env e enableVideo =>
    unfold Phone.step
    dsimp only
    split
    · rename_i outer
      exact P.event outer mem
    · exact P
  | finished n =>
    unfold Phone.step
    dsimp only
    split
    · rename_i queued
      exact P.finished queued
    · exact P
  | app env e =>
    unfold Phone.step
    dsimp only
    split
    · rename_i outer
      have called : ∀ id ∈ phone.app.asks e, Called events id := fun id asks => Called.of_asks asks mem
      have next : Sound S w random key events (phone.app.asks e).isSome.toNat
          (phone.lookup S w random env (phone.app.asks e)) := (P.lookup called).1
      have app : (phone.lookup S w random env (phone.app.asks e)).app = phone.app := (P.lookup called).2
      have origins : (phone.app.step S e).origins = phone.app.origins :=
        (Application.step_outer outer).1
      have lookups : (phone.app.step S e).lookups =
          phone.app.lookups + (phone.app.asks e).isSome.toNat := (Application.step_outer outer).2
      rw [← app] at origins lookups
      refine next.act e _ ?_ origins
      rw [lookups, app]
    · exact P

variable (S w random key)

/-- Every state of a run is sound. -/
lemma sound_run (events : List Event) : Sound S w random key events 0 (run S w random key events) := by
  induction events using List.reverseRecOn with
  | nil =>
    refine ⟨⟨[], rfl⟩, ⟨[(⟨0, 0, false⟩, .setListen true)], rfl, ?_⟩, rfl, rfl, rfl⟩
    exact List.forall_mem_singleton.mpr trivial
  | append_singleton events e ih =>
    rw [run, List.foldl_append, ← run]
    exact (ih.mono (List.subset_append_left events [e])).step
      (List.mem_append_right _ (List.mem_singleton_self e))

end Phone

end Nanotalk
