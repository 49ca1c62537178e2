import Nanotalk.Lib.Parties
import Nanotalk.Rtp.Session

/-!
# Both sides of a call

The sessions of a caller and of the one who is called. C `lookup_finished_cb` launches the one, C
`new_connection` the other one on hold, until its user answers. What a session encrypts with is what the
other one decrypts with. Datagrams are events, so that the network may bring anything, of which a
receiver accepts what the sinks of the other side have sealed (`Genuine`).

C `dialog_run` calls `rtp_session_accept` on the session that there is when its dialog is answered. After
a dialog that an earlier call has left this may be the session of a caller, so that either side may be
answered.

`Side.conversation`: what one side hears is what the other one said, before the call is answered the side
that is called says and hears nothing, and a caller that is not answered says nothing before the other
side does.
-/

namespace Nanotalk

/-! ## What a session does -/

/-- A launch of a call that is to be answered. -/
def SessionAction.rings : SessionAction → Bool
  | launch onHold => onHold
  | _ => false

namespace RtpSession
open SessionAction

/-- The session was launched on hold. -/
def rung (session : RtpSession) : Bool := session.log.any rings

/-- A pipeline that sends was set to playing. -/
def Sent (session session' : RtpSession) : Prop :=
  session.txPipeline = .playing ∨ .setTx .playing ∈ session'.log

/-- The log grows by entries with a property, the keys stay, and what is rendered comes from the sinks of
    a pipeline that sends. -/
structure Adds (A : SessionAction → Prop) (session session' : RtpSession) : Prop where
  log : ∃ added, session'.log = added ++ session.log ∧ ∀ action ∈ added, A action
  enc : ∀ m, (session'.sinks m).key = (session.sinks m).key
  dec : session'.src.key = session.src.key
  sends : session'.txPipeline = .playing → Sent session session'
  said : ∃ more, session'.rendered = session.rendered ++ more ∧
    ∀ p ∈ more, (∃ m, p.1.key = (session.sinks m).key) ∧ Sent session session'

namespace Adds

variable {A B : SessionAction → Prop} {session session' session'' : RtpSession}

/-- No entry is added. -/
lemma none (log : session'.log = session.log) (sinks : session'.sinks = session.sinks)
    (dec : session'.src.key = session.src.key) (tx : session'.txPipeline = session.txPipeline)
    (rendered : session'.rendered = session.rendered) : Adds A session session' where
  log := ⟨[], log, List.forall_mem_nil _⟩
  enc m := by rw [sinks]
  dec := dec
  sends playing := .inl (tx ▸ playing)
  said := ⟨[], rendered.trans (List.append_nil _).symm, List.forall_mem_nil _⟩

/-- One entry is added. -/
lemma one (action : SessionAction) (new : A action) (log : session'.log = action :: session.log)
    (sinks : session'.sinks = session.sinks) (dec : session'.src.key = session.src.key)
    (tx : session'.txPipeline = session.txPipeline ∨ action = .setTx session'.txPipeline)
    (rendered : session'.rendered = session.rendered) : Adds A session session' where
  log := ⟨[action], log, List.forall_mem_singleton.mpr new⟩
  enc m := by rw [sinks]
  dec := dec
  sends playing := by
    rcases tx with same | rfl
    · exact .inl (same ▸ playing)
    · rw [playing] at log
      exact .inr (log ▸ List.mem_cons_self)
  said := ⟨[], rendered.trans (List.append_nil _).symm, List.forall_mem_nil _⟩

/-- What is in the log stays there. -/
lemma old (adds : Adds A session session') {action : SessionAction} (mem : action ∈ session.log) :
    action ∈ session'.log := by
  obtain ⟨added, log, -⟩ := adds.log
  exact log ▸ List.mem_append_right _ mem

/-- What is in the log is new or was there. -/
lemma new (adds : Adds A session session') {action : SessionAction} (mem : action ∈ session'.log) :
    A action ∨ action ∈ session.log := by
  obtain ⟨added, log, new⟩ := adds.log
  rw [log, List.mem_append] at mem
  exact mem.imp_left (new action)

/-- One change after the other. -/
lemma trans (first : Adds A session session') (second : Adds A session' session'') :
    Adds A session session'' := by
  have sent : Sent session' session'' → Sent session session'' := by
    rintro (before | now)
    · exact (first.sends before).imp_right second.old
    · exact .inr now
  refine ⟨?_, fun m => (second.enc m).trans (first.enc m), second.dec.trans first.dec,
    fun playing => sent (second.sends playing), ?_⟩
  · obtain ⟨added, log, new⟩ := first.log
    obtain ⟨added', log', new'⟩ := second.log
    refine ⟨added' ++ added, ?_, List.forall_mem_append.mpr ⟨new', new⟩⟩
    rw [log', log, List.append_assoc]
  · obtain ⟨more, said, keyed⟩ := first.said
    obtain ⟨more', said', keyed'⟩ := second.said
    refine ⟨more ++ more', by rw [said', said, List.append_assoc], List.forall_mem_append.mpr ⟨?_, ?_⟩⟩
    · exact fun p mem => ⟨(keyed p mem).1, (keyed p mem).2.imp_right second.old⟩
    · intro p mem
      obtain ⟨⟨m, key⟩, playing⟩ := keyed' p mem
      exact ⟨⟨m, key.trans (first.enc m)⟩, sent playing⟩

/-- The property of the entries may be weakened. -/
lemma mono (adds : Adds A session session') (imp : ∀ action, A action → B action) :
    Adds B session session' := by
  obtain ⟨added, log, new⟩ := adds.log
  exact ⟨⟨added, log, fun action mem => imp action (new action mem)⟩, adds.enc, adds.dec, adds.sends,
    adds.said⟩

/-- What was rendered stays so. -/
lemma mem_rendered (adds : Adds A session session') {p : RtpSink × Option (List UInt8)}
    (mem : p ∈ session.rendered) : p ∈ session'.rendered := by
  obtain ⟨more, said, -⟩ := adds.said
  exact said ▸ List.mem_append_left _ mem

/-- A session is launched once. -/
lemma rung (adds : Adds A session session') (once : ∀ action, A action → action.rings = false) :
    session'.rung = session.rung := by
  obtain ⟨added, log, new⟩ := adds.log
  have quiet : added.any rings = false := by
    rw [List.any_eq_false]
    exact fun action mem => Bool.eq_false_iff.mp (once action (new action mem))
  rw [RtpSession.rung, RtpSession.rung, log, List.any_append, quiet, Bool.false_or]

end Adds

variable {S : Sodium} {onHold : Bool} {session session' : RtpSession} {action : SessionAction}

/-- An entry that neither launches nor answers nor receives. -/
def Plain : SessionAction → Prop
  | .launch _ => False
  | .answered => False
  | .push .. => False
  | _ => True

/-- A plain entry launches nothing. -/
lemma Plain.quiet (plain : Plain action) : action.rings = false := by
  cases action with
  | launch onHold => exact absurd plain id
  | _ => rfl

/-- The state of the sending pipeline is set. -/
lemma adds_setTx (state : GstState) : Adds Plain session (session.setTx state) :=
  .one (.setTx state) trivial rfl rfl rfl (.inr rfl) rfl

/-- The state of the receiving pipeline is set. -/
lemma adds_setRx (state : GstState) : Adds Plain session (session.setRx state) :=
  .one (.setRx state) trivial rfl rfl rfl (.inl rfl) rfl

/-- An entry that comes with a launch. -/
def Launches (onHold : Bool) (action : SessionAction) : Prop := action = .launch onHold ∨ Plain action

/-- A session is launched. -/
lemma adds_launch (source : Nat) : Adds (Launches onHold) session (session.launch onHold source) := by
  unfold RtpSession.launch
  dsimp only
  have first : Adds (Launches onHold) session (session.act (.launch onHold)) :=
    .one (.launch onHold) (.inl rfl) rfl rfl rfl (.inl rfl) rfl
  generalize held : (if onHold = true then { session.act (.launch onHold) with onHold := true }.setEnable
    false else session.act (.launch onHold)) = session'
  have second : Adds (Launches onHold) session session' := by
    rw [← held]
    split
    · exact first.trans (.none rfl rfl rfl rfl rfl)
    · exact first
  split
  · have armed : Adds Plain session' { session' with ioTimeoutSource := source } :=
      .none rfl rfl rfl rfl rfl
    have set := armed.trans ((adds_setTx .ready).trans (adds_setRx .playing))
    exact second.trans (set.mono fun _ => Or.inr)
  · exact second

/-- A session is accepted. -/
lemma adds_accept : Adds Plain session session.accept := by
  unfold RtpSession.accept
  dsimp only
  generalize enabled : (if session.onHold = true then
    { session with onHold := false }.setEnable true else session) = session'
  have first : Adds Plain session session' := by
    rw [← enabled]
    split <;> exact .none rfl rfl rfl rfl rfl
  split
  · have disarmed : Adds Plain session' { session' with ioTimeoutSource := 0 } :=
      .none rfl rfl rfl rfl rfl
    exact first.trans (disarmed.trans (adds_setTx .playing))
  · exact first

/-- A session is destroyed. -/
lemma adds_destroy : Adds Plain session session.destroy :=
  (adds_setRx .null).trans (adds_setTx .null)

/-- A session is answered. -/
lemma adds_answer : Adds (fun action => action = .answered ∨ Plain action) session session.answer := by
  have asked : Adds (fun action => action = .answered ∨ Plain action) session (session.act .answered) :=
    .one .answered (.inl rfl) rfl rfl rfl (.inl rfl) rfl
  exact asked.trans (adds_accept.mono fun _ => Or.inr)

/-- What is rendered is kept with the sink that renders it. -/
lemma adds_render (r : Rendering Medium) : Adds Plain session (session.render S r) := by
  unfold RtpSession.render
  split
  · rename_i playing
    refine ⟨⟨[], rfl, List.forall_mem_nil _⟩, fun m => ?_, rfl, .inl, _, rfl,
      List.forall_mem_singleton.mpr ⟨⟨r.sink, rfl⟩, .inl playing.1⟩⟩
    dsimp only
    rw [Function.update_apply]
    split
    · rename_i same
      rw [render_sink, same]
    · rfl
  · exact .none rfl rfl rfl rfl rfl

/-- An entry that comes with an event. -/
inductive Entry (S : Sodium) (session : RtpSession) : Event → SessionAction → Prop
  | push {received : Received} {buffer : List UInt8} (playing : session.rxPipeline = .playing)
    (pushed : (session.src.receive S received).2.bind Created.buffer = some buffer) :
    Entry S session (.receive received) (.push session.src received buffer)
  | plain {e : Event} (action : SessionAction) (plain : Plain action) : Entry S session e action

/-- An entry that comes with an event launches nothing. -/
lemma Entry.quiet {e : Event} (entry : Entry S session e action) : action.rings = false := by
  cases entry with
  | push playing pushed => rfl
  | plain _ plain => exact plain.quiet

/-- What an event adds. -/
lemma adds_step (e : Event) : Adds (Entry S session e) session (session.step S e).1 := by
  cases e with
  | receive received =>
    unfold step RtpSession.receive
    dsimp only
    split
    · rename_i playing
      split
      · rename_i buffer pushed
        exact .one _ (.push playing pushed) rfl rfl (Media.receive_key _ _) (.inl rfl) rfl
      · exact .none rfl rfl (Media.receive_key _ _) rfl rfl
    · exact .none rfl rfl rfl rfl rfl
  | newPayloadType buffer pt =>
    unfold step newPayloadType
    dsimp only
    split
    · exact .one .idleAdd (.plain _ trivial) rfl rfl rfl (.inl rfl) rfl
    · exact .none rfl rfl rfl rfl rfl
  | render r =>
    have adds : Adds Plain session (session.render S r) := adds_render r
    exact adds.mono fun action => .plain action
  | bus message =>
    refine Adds.mono (A := Plain) ?_ fun action => .plain action
    unfold step busWatch
    dsimp only
    split
    · split
      · split
        · have broken : Adds Plain session { session with enableVideo := false } :=
            .none rfl rfl rfl rfl rfl
          exact broken.trans ((adds_setTx .null).trans (adds_setTx .ready))
        · exact .none rfl rfl rfl rfl rfl
      · exact .one .hangup trivial rfl rfl rfl (.inl rfl) rfl
    · exact .none rfl rfl rfl rfl rfl
  | acceptCb =>
    refine Adds.mono (A := Plain) ?_ fun action => .plain action
    unfold step RtpSession.acceptCb
    dsimp only
    split
    · have served : Adds Plain session { session with idle := session.idle - 1 } :=
        .none rfl rfl rfl rfl rfl
      exact served.trans adds_accept
    · exact .none rfl rfl rfl rfl rfl
  | ioTimeout =>
    unfold step ioTimeout
    dsimp only
    split
    · exact .one .keepalive (.plain _ trivial) rfl rfl rfl (.inl rfl) rfl
    · exact .none rfl rfl rfl rfl rfl

/-! ## One side -/

/-- What holds of a session whatever comes in. -/
structure Voiced (encKey : DhtKey) (session : RtpSession) : Prop where
  sinks : ∀ m, (session.sinks m).key = encKey
  rendered : ∀ p ∈ session.rendered, p.1.key = encKey
  sends : session.txPipeline = .playing → .setTx .playing ∈ session.log
  said : session.rendered ≠ [] → .setTx .playing ∈ session.log

/-- Something happens to a session. -/
lemma Voiced.adds {A : SessionAction → Prop} {encKey : DhtKey} (V : session.Voiced encKey)
    (adds : Adds A session session') : session'.Voiced encKey := by
  obtain ⟨more, said, keyed⟩ := adds.said
  have sent : Sent session session' → .setTx .playing ∈ session'.log := fun sent =>
    sent.elim (fun before => adds.old (V.sends before)) id
  refine ⟨fun m => (adds.enc m).trans (V.sinks m), ?_, fun playing => sent (adds.sends playing), ?_⟩
  · rw [said]
    refine List.forall_mem_append.mpr ⟨V.rendered, fun p mem => ?_⟩
    obtain ⟨⟨m, key⟩, -⟩ := keyed p mem
    exact key.trans (V.sinks m)
  · intro some
    by_cases silent : session.rendered = []
    · obtain ⟨p, mem⟩ := List.exists_mem_of_ne_nil _ some
      rw [said, silent, List.nil_append] at mem
      exact sent (keyed p mem).2
    · exact adds.old (V.said silent)

/-- All that a session renders, it renders with the key that it was made with. -/
lemma Reached.voiced (reached : Reached S onHold session) : ∃ encKey, session.Voiced encKey := by
  induction reached with
  | launch encKey decKey enableVideo source =>
    have V : (RtpSession.new encKey decKey enableVideo).Voiced encKey :=
      ⟨fun _ => rfl, List.forall_mem_nil _, nofun, fun some => absurd rfl some⟩
    exact ⟨encKey, V.adds (adds_launch source)⟩
  | step e _ ih =>
    obtain ⟨encKey, V⟩ := ih
    exact ⟨encKey, V.adds (adds_step e)⟩
  | answer _ ih =>
    obtain ⟨encKey, V⟩ := ih
    exact ⟨encKey, V.adds adds_answer⟩
  | destroy _ ih =>
    obtain ⟨encKey, V⟩ := ih
    exact ⟨encKey, V.adds adds_destroy⟩

/-- What a session says, it says after its pipeline was started. -/
lemma Reached.said (reached : Reached S onHold session) (some : session.rendered ≠ []) :
    .setTx .playing ∈ session.log := by
  obtain ⟨encKey, V⟩ := reached.voiced
  exact V.said some

/-- Before its user answers, the side that is called neither sends nor passes anything on. -/
lemma Reached.called (reached : Reached S true session) (mem : action ∈ session.log)
    (begins : action.begins) : .answered ∈ session.log := by
  obtain ⟨later, earlier, log⟩ := List.append_of_mem mem
  by_contra silent
  refine reached.waiting.answer rfl action earlier ⟨later, log.symm⟩ (fun answered => silent ?_) begins
  rw [log]
  exact List.mem_append_right _ (List.mem_cons_of_mem _ answered)

/-- A side that is not answered sends after it has received. -/
lemma Reached.caller (reached : Reached S onHold session) (silent : .answered ∉ session.log)
    (mem : .setTx .playing ∈ session.log) :
    ∃ src received buffer, .push src received buffer ∈ session.log := by
  obtain ⟨later, earlier, log⟩ := List.append_of_mem mem
  have before : ∀ action ∈ earlier, action ∈ session.log := fun action mem =>
    log ▸ List.mem_append_right _ (List.mem_cons_of_mem _ mem)
  obtain ⟨src, received, buffer, heard, -⟩ := reached.waiting.packet _ earlier ⟨later, log.symm⟩ rfl
    fun answered => silent (before _ answered)
  exact ⟨src, received, buffer, before _ heard⟩

/-! ## Two sides -/

/-- A receiver, and what the sinks of the other side have rendered. -/
def incoming (rendered : List (RtpSink × Option (List UInt8))) (src : RtpSrc) : Media Medium :=
  ⟨fun _ => ⟨src.key, 0⟩, src, rendered⟩

/-- The tag of a datagram, if it is accepted, was computed for something that was rendered. -/
def Genuine (S : Sodium) (rendered : List (RtpSink × Option (List UInt8))) (session : RtpSession)
    (received : Received) : Prop :=
  session.rxPipeline = .playing → (incoming rendered session.src).Ideal S (.receive received)

instance (rendered : List (RtpSink × Option (List UInt8))) (received : Received) :
    Decidable (session.Genuine S rendered received) := inferInstanceAs (Decidable (_ → _))

/-- What a session gave to its decoders was rendered. -/
def Passed (rendered : List (RtpSink × Option (List UInt8))) (session : RtpSession) : Prop :=
  ∀ src received buffer, .push src received buffer ∈ session.log →
    ∃ sink, (sink, some buffer) ∈ rendered ∧ IsRtp buffer

/-- More is rendered. -/
lemma Passed.mono {rendered rendered' : List (RtpSink × Option (List UInt8))}
    (passed : session.Passed rendered) (more : ∀ p ∈ rendered, p ∈ rendered') :
    session.Passed rendered' := by
  intro src received buffer mem
  obtain ⟨sink, here, rtp⟩ := passed src received buffer mem
  exact ⟨sink, more _ here, rtp⟩

/-- Nothing is received. -/
lemma Passed.adds {A : SessionAction → Prop} {rendered : List (RtpSink × Option (List UInt8))}
    (passed : session.Passed rendered) (adds : Adds A session session')
    (quiet : ∀ src received buffer, ¬ A (.push src received buffer)) : session'.Passed rendered :=
  fun src received buffer mem =>
    passed src received buffer ((adds.new mem).resolve_left (quiet src received buffer))

/-- An event passes on what was rendered. -/
lemma Passed.step {rendered : List (RtpSink × Option (List UInt8))} (passed : session.Passed rendered)
    (e : Event) (keyed : ∀ p ∈ rendered, p.1.key = session.src.key)
    (genuine : ∀ received, e = .receive received → session.Genuine S rendered received) :
    (session.step S e).1.Passed rendered := by
  intro src received buffer mem
  rcases (adds_step e).new mem with entry | old
  · cases entry with
    | push playing pushed =>
      have acc := RtpSrc.accepts_of_buffer pushed
      have keyed : (incoming rendered session.src).Keyed session.src.key := ⟨fun _ => rfl, rfl, keyed⟩
      obtain ⟨sink, data, mem, rtp, opened, -⟩ :=
        Media.accepted_rendered keyed (genuine received rfl playing) acc
      obtain rfl : buffer = data := ((RtpSrc.receive_of_accepts acc).2 buffer pushed).trans opened
      exact ⟨sink, mem, rtp⟩
    | plain _ plain => exact absurd plain id
  · exact passed src received buffer old

/-- What holds of the two sides of a call. -/
structure Conversing (caller called : RtpSession) : Prop where
  /-- what a side gives to its decoders was rendered by the other one -/
  passed : caller.Passed called.rendered ∧ called.Passed caller.rendered
  /-- a caller that was not answered says nothing before the other side does -/
  follows : .answered ∉ caller.log → caller.rendered ≠ [] → called.rendered ≠ []
  /-- before the call is answered, the side that is called says and hears nothing, and the caller hears
      nothing -/
  silent : .answered ∉ called.log → called.rendered = [] ∧ (∀ action ∈ called.log, ¬ action.begins) ∧
    ∀ src received buffer, .push src received buffer ∉ caller.log
  /-- nor does the caller say anything, if it was not answered -/
  waits : .answered ∉ called.log → .answered ∉ caller.log →
    caller.rendered = [] ∧ .setTx .playing ∉ caller.log

/-- What both sides pass on decides the rest. -/
lemma Reached.conversing {caller called : RtpSession} (first : Reached S onHold caller)
    (second : Reached S true called) (heard : caller.Passed called.rendered)
    (heard' : called.Passed caller.rendered) : Conversing caller called := by
  have follows : .answered ∉ caller.log → .setTx .playing ∈ caller.log → called.rendered ≠ [] := by
    intro silent sends none
    obtain ⟨src, received, buffer, mem⟩ := first.caller silent sends
    obtain ⟨sink, mem, -⟩ := heard src received buffer mem
    exact List.not_mem_nil (none ▸ mem)
  have silent : .answered ∉ called.log → called.rendered = [] := by
    intro silent
    by_contra said
    exact silent (second.called (second.said said) rfl)
  refine ⟨⟨heard, heard'⟩, fun quiet said => follows quiet (first.said said), fun quiet => ?_,
    fun quiet quiet' => ?_⟩
  · refine ⟨silent quiet, fun action mem begins => quiet (second.called mem begins), ?_⟩
    intro src received buffer mem
    obtain ⟨sink, mem, -⟩ := heard src received buffer mem
    exact List.not_mem_nil (silent quiet ▸ mem)
  · have idle : .setTx .playing ∉ caller.log := fun sends => follows quiet' sends (silent quiet)
    refine ⟨?_, idle⟩
    by_contra said
    exact idle (first.said said)

end RtpSession

namespace Side

open RtpSession (Adds Plain Entry Reached Passed Conversing)

/-- What happens to a side. -/
inductive Event where
  | session (e : RtpSession.Event)
  /-- the response to a dialog that lets C `dialog_run` call `rtp_session_accept` -/
  | answer
  | destroy

variable (S : Sodium) (keys : Bool → DhtKey)

/-- A side after an event. -/
def step (session : RtpSession) : Event → RtpSession
  | .session e => (session.step S e).1
  | .answer => session.answer
  | .destroy => session.destroy

/-- The caller and the one who is called. A side has its key for encryption and the key of the other
    side for decryption. -/
def start (video : Bool → Bool) (source : Bool → Nat) (i : Bool) : RtpSession :=
  (RtpSession.new (keys i) (keys !i) (video i)).launch i (source i)

/-- What a side accepts was sealed by the other side. -/
def Genuine (sides : Bool → RtpSession) (i : Bool) : Event → Prop
  | .session (.receive received) => (sides i).Genuine S (sides !i).rendered received
  | _ => True

instance Genuine.decidable (sides : Bool → RtpSession) (i : Bool) (e : Event) :
    Decidable (Genuine S sides i e) :=
  match e with
  | .session (.receive _) => inferInstanceAs (Decidable (RtpSession.Genuine ..))
  | .session (.newPayloadType _ _) | .session (.render _) | .session (.bus _) | .session .acceptCb
  | .session .ioTimeout | .answer | .destroy => .isTrue trivial

variable {S keys} {video : Bool → Bool} {source : Bool → Nat} {sides : Bool → RtpSession} {i : Bool}
  {session : RtpSession}

/-- What an event adds to a side. -/
lemma adds_step (e : Event) : ∃ A, Adds A session (step S session e) := by
  cases e with
  | session e => exact ⟨_, RtpSession.adds_step e⟩
  | answer => exact ⟨_, RtpSession.adds_answer⟩
  | destroy => exact ⟨_, RtpSession.adds_destroy⟩

/-- A side stays one that a launch leads to. -/
lemma reached_step (reached : Reached S i session) (e : Event) : Reached S i (step S session e) := by
  cases e with
  | session e => exact .step e reached
  | answer => exact .answer reached
  | destroy => exact .destroy reached

/-- A side passes on what the other one rendered. -/
lemma passed_step {rendered : List (RtpSink × Option (List UInt8))} (passed : session.Passed rendered)
    (keyed : ∀ p ∈ rendered, p.1.key = session.src.key) {e : Event}
    (genuine : ∀ received, e = .session (.receive received) → session.Genuine S rendered received) :
    (step S session e).Passed rendered := by
  cases e with
  | session e => exact passed.step e keyed fun received same => genuine received (congrArg _ same)
  | answer => exact passed.adds RtpSession.adds_answer fun _ _ _ => by simp [Plain]
  | destroy => exact passed.adds RtpSession.adds_destroy fun _ _ _ => id

/-- What holds of the sides: each was launched with its keys, and passed on what the other one said. -/
structure Sound (S : Sodium) (keys : Bool → DhtKey) (sides : Bool → RtpSession) : Prop where
  reached : ∀ i, Reached S i (sides i)
  voiced : ∀ i, (sides i).Voiced (keys i)
  key : ∀ i, (sides i).src.key = keys !i
  passed : ∀ i, (sides i).Passed (sides !i).rendered

/-- What every event keeps. -/
lemma Sound.act (N : Sound S keys sides) {e : Event} (genuine : Genuine S sides i e) :
    Sound S keys (Parties.act (fun _ => step S) sides (i, e)) := by
  obtain ⟨A, adds⟩ : ∃ A, Adds A (sides i) (step S (sides i) e) := adds_step e
  have here : Parties.act (fun _ => step S) sides (i, e) i = step S (sides i) e :=
    Function.update_self ..
  have there : ∀ j ≠ i, Parties.act (fun _ => step S) sides (i, e) j = sides j := fun j ne =>
    Function.update_of_ne ne ..
  have more : ∀ j, ∀ p ∈ (sides j).rendered,
      p ∈ (Parties.act (fun _ => step S) sides (i, e) j).rendered := by
    intro j p mem
    by_cases same : j = i
    · rw [same] at mem ⊢
      rw [here]
      exact adds.mem_rendered mem
    · rwa [there j same]
  refine ⟨fun j => ?_, fun j => ?_, fun j => ?_, fun j => ?_⟩ <;> by_cases same : j = i
  · rw [same, here]
    exact reached_step (N.reached i) e
  · rw [there j same]
    exact N.reached j
  · rw [same, here]
    exact (N.voiced i).adds adds
  · rw [there j same]
    exact N.voiced j
  · rw [same, here]
    exact adds.dec.trans (N.key i)
  · rw [there j same]
    exact N.key j
  · rw [same, here]
    have passed : (step S (sides i) e).Passed (sides !i).rendered := by
      refine passed_step (N.passed i) (fun p mem => ?_) ?_
      · exact ((N.voiced !i).rendered p mem).trans (N.key i).symm
      · rintro received rfl
        exact genuine
    exact passed.mono (more !i)
  · rw [there j same]
    exact (N.passed j).mono (more !j)

/-- The sides as they are launched. -/
lemma sound_start : Sound S keys (start keys video source) where
  reached i := .launch _ _ _ _
  voiced i := by
    have V : (RtpSession.new (keys i) (keys !i) (video i)).Voiced (keys i) :=
      ⟨fun _ => rfl, List.forall_mem_nil _, nofun, fun some => absurd rfl some⟩
    exact V.adds (RtpSession.adds_launch _)
  key i := (RtpSession.adds_launch _).dec
  passed i src received buffer mem :=
    absurd ((RtpSession.adds_launch _).new mem) (by simp [RtpSession.Launches, Plain, RtpSession.new])

/-- The sides after a schedule. -/
def run (S : Sodium) (keys : Bool → DhtKey) (video : Bool → Bool) (source : Bool → Nat)
    (schedule : List (Bool × Event)) : Bool → RtpSession :=
  Parties.run (fun _ => step S) (start keys video source) schedule

/-- What a side hears was said by the other one, before the call is answered the side that is called says
    and hears nothing, and a caller that is not answered says nothing before the other side does, whatever
    the network brings. -/
theorem conversation (S : Sodium) (keys : Bool → DhtKey) (video : Bool → Bool) (source : Bool → Nat)
    (schedule : List (Bool × Event)) (genuine : Parties.Throughout (fun _ => step S) (Genuine S)
      (start keys video source) schedule) :
    Conversing (run S keys video source schedule false) (run S keys video source schedule true) := by
  have N : Sound S keys (run S keys video source schedule) :=
    Parties.run_induct (fun sides i e _ genuine _ N => Sound.act N genuine) genuine rfl sound_start
  exact (N.reached false).conversing (N.reached true) (N.passed false) (N.passed true)

/-- A call: the callee answers and speaks, the caller hears this and speaks too. -/
def dialogue : List (Bool × Event) :=
  let packet (ssrc : UInt8) : List UInt8 := [0x80, 96, 0, 7, 0, 0, 0, 0, 0, 0, 0, ssrc, 42]
  let datagram (key : UInt8) : List UInt8 := sealPacket Sodium.transparent ⟨fun _ => key⟩
    (rtpNonce 0 7 key.toUInt32) (packet key)
  [(true, .session (.render ⟨.audio, some (packet 2), none⟩)), (false, .session .ioTimeout),
    (true, .answer), (true, .session (.render ⟨.audio, some (packet 2), none⟩)),
    (false, .session (.receive (.datagram ((datagram 1).map (· ^^^ 1)) true))),
    (false, .session (.receive (.datagram (datagram 2) true))),
    (false, .session (.newPayloadType (packet 2) 96)), (false, .session .acceptCb),
    (false, .session (.render ⟨.audio, some (packet 1), none⟩)),
    (true, .session (.receive (.datagram (datagram 1) true)))]

/-- Both sides of the dialogue speak. -/
theorem conversation_dialogue :
    let sides := run Sodium.transparent (fun i => ⟨fun _ => if i then 2 else 1⟩) (fun _ => false)
      (fun _ => 1) dialogue
    (sides false).rendered.length = 1 ∧ (sides true).rendered ≠ [] := by
  refine ⟨by decide +kernel, ?_⟩
  refine (conversation Sodium.transparent (fun i => ⟨fun _ => if i then 2 else 1⟩) (fun _ => false)
    (fun _ => 1) dialogue (by decide +kernel)).follows ?_ ?_
  · have unanswered : (run Sodium.transparent (fun i => ⟨fun _ => if i then 2 else 1⟩) (fun _ => false)
        (fun _ => 1) dialogue false).log.all (fun | .answered => false | _ => true) := by
      decide +kernel
    intro mem
    exact absurd (List.all_eq_true.mp unanswered _ mem) Bool.false_ne_true
  · exact List.ne_nil_of_length_pos (by decide +kernel)

end Side

end Nanotalk
