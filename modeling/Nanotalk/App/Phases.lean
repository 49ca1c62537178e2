import Nanotalk.App.Application
import Nanotalk.Rtp.Call

/-!
# The phases of a session

A session waits, sending empty datagrams to keep the way open, until C `rtp_session_accept` sets its
sending pipeline to playing. This happens once, and there is no way back (`phases_run`). While the call
is on hold, the receiver is disabled. Until it is destroyed, a session receives, and it sends exactly if
it was accepted (`connects`).
-/

namespace Nanotalk

/-- What a session does before it sends, and the beginning of it. -/
def SessionAction.early : SessionAction → Prop
  | keepalive => True
  | setTx state => state ≠ .null
  | _ => False

namespace RtpSession
open SessionAction

/-- The sending pipeline was set to playing. -/
def Sends (log : List SessionAction) : Prop := .setTx .playing ∈ log

/-- Where a session is. -/
structure Phase (session : RtpSession) : Prop where
  sending : Sends session.log → session.ioTimeoutSource = 0
  once : Each (fun action earlier => Sends earlier → ¬ action.early) session.log
  gate : session.src.enable = !session.onHold

namespace Phase

variable {S : Sodium} {session session' : RtpSession}

/-- No entry is added, and the timeout is kept. -/
lemma same (P : session.Phase) (log : session'.log = session.log)
    (source : session'.ioTimeoutSource = session.ioTimeoutSource)
    (gate : session'.src.enable = !session'.onHold) : session'.Phase :=
  ⟨by rw [log, source]; exact P.sending, log ▸ P.once, gate⟩

/-- An entry is added that may come at any time. -/
lemma late (P : session.Phase) (action : SessionAction) (late : ¬ action.early)
    (log : session'.log = action :: session.log)
    (source : session'.ioTimeoutSource = session.ioTimeoutSource)
    (gate : session'.src.enable = !session'.onHold) : session'.Phase := by
  refine ⟨?_, log ▸ each_cons P.once fun _ => late, gate⟩
  rw [log, source]
  intro sends
  rcases List.mem_cons.mp sends with rfl | before
  · exact absurd nofun late
  · exact P.sending before

/-- An entry is added while the timeout is there. -/
lemma waiting (P : session.Phase) (pos : session.ioTimeoutSource > 0) (action : SessionAction)
    (ne : action ≠ .setTx .playing) (log : session'.log = action :: session.log)
    (gate : session'.src.enable = !session'.onHold) : session'.Phase := by
  have silent : ¬ Sends session.log := fun sends => Nat.ne_of_gt pos (P.sending sends)
  refine ⟨?_, log ▸ each_cons P.once fun sends => absurd sends silent, gate⟩
  rw [log]
  intro sends
  rcases List.mem_cons.mp sends with e | before
  · exact absurd e.symm ne
  · exact absurd before silent

lemma accept (P : session.Phase) : session.accept.Phase := by
  unfold RtpSession.accept
  dsimp only
  generalize opened : (if session.onHold = true then
    { session with onHold := false }.setEnable true else session) = session'
  have P' : session'.Phase := by
    rw [← opened]
    split
    · exact P.same rfl rfl rfl
    · exact P
  split
  · rename_i pos
    have silent : ¬ Sends session'.log := fun sends => Nat.ne_of_gt pos (P'.sending sends)
    exact ⟨fun _ => rfl, each_cons P'.once fun sends => absurd sends silent, P'.gate⟩
  · exact P'

lemma launch (encKey decKey : DhtKey) (enableVideo onHold : Bool) (source : Nat) :
    ((new encKey decKey enableVideo).launch onHold source).Phase := by
  have silent : ¬ Sends [SessionAction.launch onHold] := by
    intro sends
    rcases List.mem_singleton.mp sends
  have first : Each (fun action earlier => Sends earlier → ¬ action.early)
      [SessionAction.launch onHold] := by
    refine each_cons (fun _ _ suffix => ?_) fun _ => id
    exact absurd (List.eq_nil_of_suffix_nil suffix) nofun
  unfold RtpSession.launch
  dsimp only
  generalize held : (if onHold = true then
    { (new encKey decKey enableVideo).act (.launch onHold) with onHold := true }.setEnable false
    else (new encKey decKey enableVideo).act (.launch onHold)) = session
  have log : session.log = [.launch onHold] := by
    rw [← held]
    split <;> rfl
  have gate : session.src.enable = !session.onHold := by
    rw [← held]
    split <;> rfl
  split
  · -- the pipelines are set while nothing is sent
    refine ⟨fun sends => absurd (log ▸ sends) ?_, ?_, gate⟩
    · intro sends
      rcases List.mem_cons.mp sends with e | sends
      · cases e
      · rcases List.mem_cons.mp sends with e | sends
        · cases e
        · exact silent sends
    · refine each_cons (each_cons (log ▸ first) ?_) fun _ => id
      exact fun sends => absurd (log ▸ sends) silent
  · exact ⟨fun sends => absurd (log ▸ sends) silent, log ▸ first, gate⟩

lemma destroy (P : session.Phase) : session.destroy.Phase := by
  have P' : (session.setRx .null).Phase := P.late (.setRx .null) id rfl rfl P.gate
  exact P'.late (.setTx .null) (fun early => early rfl) rfl rfl P.gate

lemma receive (P : session.Phase) (received : Received) : (session.receive S received).Phase := by
  unfold RtpSession.receive
  split
  · dsimp only
    have gate : (session.src.receive S received).1.enable = !session.onHold :=
      RtpSrc.receive_enable.trans P.gate
    split
    · rename_i buffer _
      exact P.late (.push session.src received buffer) id rfl rfl gate
    · exact P.same rfl rfl gate
  · exact P

lemma busWatch (P : session.Phase) (message : BusMessage) : (session.busWatch message).1.Phase := by
  unfold RtpSession.busWatch
  split
  · split
    · rename_i broken
      split
      · have P' : ({ session with enableVideo := false }.setTx .null).Phase :=
          P.late (.setTx .null) (fun early => early rfl) rfl rfl P.gate
        exact P'.waiting broken.2 (.setTx .ready) nofun rfl P.gate
      · exact P
    · exact P.late .hangup id rfl rfl P.gate
  · exact P

/-- What every event keeps. -/
lemma step (P : session.Phase) (e : Event) : (session.step S e).1.Phase := by
  cases e with
  | receive received => exact P.receive received
  | newPayloadType buffer pt =>
    show (session.newPayloadType buffer pt).Phase
    unfold newPayloadType
    split
    · exact P.late .idleAdd id rfl rfl P.gate
    · exact P
  | render r =>
    show (session.render S r).Phase
    unfold render
    split
    · exact P.same rfl rfl P.gate
    · exact P
  | bus message => exact P.busWatch message
  | acceptCb =>
    show session.acceptCb.Phase
    unfold acceptCb
    split
    · have P' : { session with idle := session.idle - 1 }.Phase := P.same rfl rfl P.gate
      exact P'.accept
    · exact P
  | ioTimeout =>
    show session.ioTimeout.Phase
    unfold ioTimeout
    split
    · rename_i pos
      exact P.waiting pos .keepalive nofun rfl P.gate
    · exact P

end Phase

/-- A session that is reached is in its phase. -/
lemma Reached.phase {S : Sodium} {onHold : Bool} {session : RtpSession}
    (reached : Reached S onHold session) : session.Phase := by
  induction reached with
  | launch encKey decKey enableVideo source => exact .launch encKey decKey enableVideo onHold source
  | step e _ ih => exact ih.step e
  | answer _ ih =>
    have P : (RtpSession.act _ .answered).Phase := ih.late .answered id rfl rfl ih.gate
    exact P.accept
  | destroy _ ih => exact ih.destroy

end RtpSession

namespace Application
open RtpSession

/-- A session that sends stays so: it does not send again an empty datagram, nor prepare or start its
    sending pipeline a second time. The receiver of a session is enabled unless the call is on hold. -/
theorem phases_run (S : Sodium) (events : List Event) :
    ∀ session ∈ (run S events).sessions,
      SessionAction.Each (fun action earlier => Sends earlier → ¬ action.early) session.log ∧
      session.src.enable = !session.onHold := by
  intro session mem
  obtain ⟨onHold, reached⟩ := SessionsReached.run events session mem
  exact ⟨reached.phase.once, reached.phase.gate⟩

/-- The call of `answeredCall` sends, and keeps to it. -/
theorem phases_run_call : ∃ session ∈ (run Sodium.transparent answeredCall).sessions,
    Sends session.log ∧
    SessionAction.Each (fun action earlier => Sends earlier → ¬ action.early) session.log := by
  have mem : ∃ session, (run Sodium.transparent answeredCall).sessions[0]? = some session ∧
      Sends session.log := by
    refine ⟨_, rfl, List.mem_of_getElem? (i := 2) ?_⟩
    rfl
  obtain ⟨session, here, sends⟩ := mem
  have mem := List.mem_of_getElem? here
  exact ⟨session, mem, sends, (phases_run Sodium.transparent answeredCall session mem).1⟩

end Application

/-! ## A call that lasts -/

/-- A call of `accept_cb` is queued. -/
def SessionAction.queues : SessionAction → Bool
  | idleAdd => true
  | _ => false

namespace RtpSession
open SessionAction

/-- The session was accepted: by the response to the dialog or by a call of `accept_cb`. -/
def Accepted (session : RtpSession) : Prop :=
  .answered ∈ session.log ∨ session.idle < session.log.countP queues

/-- What holds of a session until it is destroyed. -/
structure Active (onHold : Bool) (session : RtpSession) : Prop where
  rx : session.rxPipeline = .playing
  tx : session.txPipeline = .playing ↔ session.ioTimeoutSource = 0
  accepted : session.ioTimeoutSource = 0 ↔ session.Accepted
  queue : session.idle ≤ session.log.countP queues
  held : session.onHold = true ↔ onHold = true ∧ session.ioTimeoutSource ≠ 0
  gate : session.src.enable = !session.onHold

variable {S : Sodium} {onHold : Bool} {session session' : RtpSession}

/-- An entry is added that neither answers nor queues. -/
lemma Active.plain (V : session.Active onHold) (action : SessionAction) (answered : action ≠ .answered)
    (queues : action.queues = false) (log : session'.log = action :: session.log)
    (idle : session'.idle = session.idle) (rx : session'.rxPipeline = session.rxPipeline)
    (tx : session'.txPipeline = session.txPipeline ∨
      session.ioTimeoutSource ≠ 0 ∧ session'.txPipeline ≠ .playing)
    (source : session'.ioTimeoutSource = session.ioTimeoutSource)
    (hold : session'.onHold = session.onHold) (enable : session'.src.enable = session.src.enable) :
    session'.Active onHold := by
  have count : session'.log.countP SessionAction.queues = session.log.countP SessionAction.queues := by
    rw [log, List.countP_cons_of_neg (by simp [queues])]
  refine ⟨rx.trans V.rx, ?_, ?_, ?_, ?_, ?_⟩
  · rw [source]
    rcases tx with same | ⟨armed, ne⟩
    · rw [same]
      exact V.tx
    · exact iff_of_false ne armed
  · rw [source, V.accepted, Accepted, Accepted, idle, count, log, List.mem_cons,
      or_iff_right answered.symm]
  · rw [idle, count]
    exact V.queue
  · rw [hold, source]
    exact V.held
  · rw [enable, hold]
    exact V.gate

/-- A session that is to be accepted. -/
lemma active_accept (rx : session.rxPipeline = .playing)
    (tx : session.txPipeline = .playing ↔ session.ioTimeoutSource = 0) (accepted : session.Accepted)
    (queue : session.idle ≤ session.log.countP queues)
    (held : session.onHold = true ↔ onHold = true ∧ session.ioTimeoutSource ≠ 0)
    (gate : session.src.enable = !session.onHold) : session.accept.Active onHold := by
  by_cases done : session.ioTimeoutSource = 0
  · have free : session.onHold = false := by
      rw [← Bool.not_eq_true, held]
      exact fun held => held.2 done
    have same : session.accept = session := by simp [RtpSession.accept, free, done]
    rw [same]
    exact ⟨rx, tx, iff_of_true done accepted, queue, held, gate⟩
  · have accepted' : session.accept.log = .setTx .playing :: session.log ∧
        session.accept.idle = session.idle ∧ session.accept.rxPipeline = session.rxPipeline ∧
        session.accept.txPipeline = .playing ∧ session.accept.ioTimeoutSource = 0 ∧
        session.accept.onHold = false ∧ session.accept.src.enable = true := by
      unfold RtpSession.accept
      cases hold : session.onHold <;> simp [setEnable, setTx, act, Nat.pos_of_ne_zero done, hold, gate]
    obtain ⟨log, idle, rx', tx', source, hold, enable⟩ := accepted'
    have count : session.accept.log.countP queues = session.log.countP queues := by
      rw [log, List.countP_cons_of_neg Bool.false_ne_true]
    refine ⟨rx'.trans rx, iff_of_true tx' source, iff_of_true source ?_, ?_, ?_, ?_⟩
    · rw [Accepted, log, idle, ← log, count, log]
      exact accepted.imp_left (List.mem_cons_of_mem _)
    · rw [idle, count]
      exact queue
    · simp [hold, source]
    · rw [enable, hold]
      rfl

/-- The call is answered. -/
lemma Active.answer (V : session.Active onHold) : session.answer.Active onHold := by
  have count : (SessionAction.answered :: session.log).countP queues = session.log.countP queues :=
    List.countP_cons_of_neg Bool.false_ne_true
  have asked : Accepted (session.act .answered) := .inl List.mem_cons_self
  exact active_accept V.rx V.tx asked (count ▸ V.queue) V.held V.gate

/-- What every event keeps. -/
lemma Active.step (V : session.Active onHold) (e : Event) : (session.step S e).1.Active onHold := by
  cases e with
  | receive received =>
    unfold RtpSession.step RtpSession.receive
    dsimp only
    split
    · have enable : (session.src.receive S received).1.enable = session.src.enable :=
        RtpSrc.receive_enable
      split
      · exact V.plain (.push session.src received _) nofun rfl rfl rfl rfl (.inl rfl) rfl rfl enable
      · exact ⟨V.rx, V.tx, V.accepted, V.queue, V.held, enable.trans V.gate⟩
    · exact V
  | newPayloadType buffer pt =>
    unfold RtpSession.step newPayloadType
    dsimp only
    split
    · have count : (SessionAction.idleAdd :: session.log).countP queues = session.log.countP queues + 1 :=
        List.countP_cons_of_pos rfl
      refine ⟨V.rx, V.tx, V.accepted.trans ?_, ?_, V.held, V.gate⟩
      · exact or_congr (by simp [act]) (count ▸ Nat.succ_lt_succ_iff.symm)
      · exact count ▸ Nat.succ_le_succ V.queue
    · exact V
  | render r =>
    unfold RtpSession.step render
    dsimp only
    split
    · exact ⟨V.rx, V.tx, V.accepted, V.queue, V.held, V.gate⟩
    · exact V
  | bus message =>
    unfold RtpSession.step busWatch
    dsimp only
    split
    · split
      · rename_i armed
        split
        · have stopped : ({ session with enableVideo := false }.setTx .null).Active onHold :=
            V.plain (.setTx .null) nofun rfl rfl rfl rfl (.inr ⟨Nat.ne_of_gt armed.2, nofun⟩) rfl rfl rfl
          exact stopped.plain (.setTx .ready) nofun rfl rfl rfl rfl
            (.inr ⟨Nat.ne_of_gt armed.2, nofun⟩) rfl rfl rfl
        · exact V
      · exact V.plain .hangup nofun rfl rfl rfl rfl (.inl rfl) rfl rfl rfl
    · exact V
  | acceptCb =>
    unfold RtpSession.step RtpSession.acceptCb
    dsimp only
    split
    · rename_i queued
      have queue := V.queue
      have served : Accepted { session with idle := session.idle - 1 } :=
        .inr (show session.idle - 1 < session.log.countP queues by omega)
      exact active_accept V.rx V.tx served (Nat.le_trans (Nat.sub_le _ _) queue) V.held V.gate
    · exact V
  | ioTimeout =>
    unfold RtpSession.step ioTimeout
    dsimp only
    split
    · exact V.plain .keepalive nofun rfl rfl rfl rfl (.inl rfl) rfl rfl rfl
    · exact V

/-- A session that is launched has not been accepted. -/
lemma launch_waits (encKey decKey : DhtKey) (enableVideo onHold : Bool) (source : Nat) :
    ¬ ((new encKey decKey enableVideo).launch onHold (source + 1)).Accepted := by
  have log : ((new encKey decKey enableVideo).launch onHold (source + 1)).log =
      [.setRx .playing, .setTx .ready, .launch onHold] := by
    cases onHold <;> rfl
  rintro (answered | queued)
  · rw [log] at answered
    simp at answered
  · rw [log] at queued
    exact absurd queued (Nat.not_lt_zero _)

/-- A session that is launched waits. -/
lemma active_launch (encKey decKey : DhtKey) (enableVideo : Bool) (source : Nat) :
    ((new encKey decKey enableVideo).launch onHold (source + 1)).Active onHold := by
  have waits := launch_waits encKey decKey enableVideo onHold source
  have ready : GstState.ready ≠ .playing := by decide
  have armed : source + 1 ≠ 0 := Nat.succ_ne_zero source
  cases onHold with
  | false =>
    exact ⟨rfl, iff_of_false ready armed, iff_of_false armed waits, Nat.zero_le _,
      iff_of_false Bool.false_ne_true fun held => Bool.false_ne_true held.1, rfl⟩
  | true =>
    exact ⟨rfl, iff_of_false ready armed, iff_of_false armed waits, Nat.zero_le _,
      iff_of_true rfl ⟨rfl, armed⟩, rfl⟩

end RtpSession

namespace Application
open RtpSession

variable {S : Sodium} {app : Application}

/-- What holds of the sessions that are not destroyed. -/
def Lasting (S : Sodium) (app : Application) : Prop :=
  ∀ n ∈ app.live, ∃ session onHold, app.sessions[n]? = some session ∧
    Reached S onHold session ∧ session.Active onHold

/-- A call on a session that keeps it up. -/
lemma Lasting.call (L : app.Lasting S) (m : Nat) {f : RtpSession → RtpSession}
    (reach : ∀ onHold session, Reached S onHold session → Reached S onHold (f session))
    (keeps : ∀ onHold session, session.Active onHold → (f session).Active onHold) :
    (app.call m f).Lasting S := by
  intro n mem
  obtain ⟨session, onHold, here, reached, active⟩ := L n mem
  refine ⟨if m = n then f session else session, onHold, ?_, ?_, ?_⟩
  · rw [Application.call, List.getElem?_modify, here]
    rfl
  · split
    · exact reach onHold session reached
    · exact reached
  · split
    · exact keeps onHold session active
    · exact active

/-- A session is made. -/
lemma Lasting.launch (L : app.Lasting S) (encKey decKey : DhtKey) (enableVideo onHold : Bool) :
    (app.launch encKey decKey enableVideo onHold).Lasting S := by
  intro n mem
  rcases List.mem_cons.mp mem with rfl | mem
  · exact ⟨_, onHold, List.getElem?_concat_length, .launch encKey decKey enableVideo _,
      active_launch encKey decKey enableVideo _⟩
  · obtain ⟨session, onHold, here, rest⟩ := L n mem
    have lt := (List.getElem?_eq_some_iff.mp here).1
    exact ⟨session, onHold, (List.getElem?_append_left lt).trans here, rest⟩

/-- The session that is destroyed is not counted any more. -/
lemma Lasting.destroy (L : app.Lasting S) (m : Nat) :
    { app.call m RtpSession.destroy with
      session := none, live := app.live.filter (· ≠ m) }.Lasting S := by
  intro n mem
  obtain ⟨mem, ne⟩ := List.mem_filter.mp mem
  obtain ⟨session, onHold, here, rest⟩ := L n mem
  have other : m ≠ n := Ne.symm (of_decide_eq_true ne)
  exact ⟨session, onHold, (List.getElem?_modify_ne _ _ other).trans here, rest⟩

/-- What every event keeps. -/
lemma Lasting.step (L : app.Lasting S) (e : Event) : (app.step S e).Lasting S := by
  refine step_rule (P := Lasting S) ?_ ?_ ?_ ?_ e ?_ L
  · intro app app' L sessions live
    rw [Lasting, sessions, live]
    exact L
  · exact fun app encKey decKey enableVideo onHold L => L.launch encKey decKey enableVideo onHold
  · exact fun app n L => L.destroy n
  · exact fun app n L => L.call n (fun _ _ => .answer) fun _ _ => Active.answer
  · exact fun n e' _ => L.call n (fun _ _ => .step e') fun _ _ V => V.step e'

/-- The sessions of a run that are not destroyed. -/
lemma lasting_run (events : List Event) : (run S events).Lasting S := by
  induction events using List.reverseRecOn with
  | nil => exact fun n mem => absurd mem List.not_mem_nil
  | append_singleton events e ih =>
    rw [run, List.foldl_append]
    exact ih.step e

/-- A session that is not destroyed receives, and sends if and only if it was accepted. If it was launched
    on hold, this is when it was answered, and it takes packets then; otherwise it takes packets in any
    case, and was accepted when it was answered or a call of `accept_cb` was served. -/
theorem connects (S : Sodium) (events : List Event) : ∀ n ∈ (run S events).live,
    ∃ session, (run S events).sessions[n]? = some session ∧ session.rxPipeline = .playing ∧
      (.launch true ∈ session.log →
        (session.txPipeline = .playing ↔ .answered ∈ session.log) ∧
        (session.src.enable = true ↔ .answered ∈ session.log)) ∧
      (.launch false ∈ session.log →
        (session.txPipeline = .playing ↔ session.Accepted) ∧ session.src.enable = true) := by
  intro n mem
  obtain ⟨session, onHold, here, reached, V⟩ := lasting_run events n mem
  have launched := reached.waiting.launched
  refine ⟨session, here, V.rx, fun rung => ?_, fun rung => ?_⟩
  · obtain rfl := (launched true).mp rung
    have answered : session.ioTimeoutSource = 0 ↔ .answered ∈ session.log := by
      refine V.accepted.trans ⟨fun accepted => accepted.elim id fun queued => ?_, .inl⟩
      obtain ⟨action, mem, queues⟩ := List.countP_pos_iff.mp (Nat.zero_lt_of_lt queued)
      refine reached.called mem ?_
      cases action <;> trivial
    have enabled : session.src.enable = true ↔ session.ioTimeoutSource = 0 := by
      rw [V.gate, Bool.not_eq_true', ← Bool.not_eq_true, V.held]
      exact ⟨fun free => not_not.mp fun ne => free ⟨rfl, ne⟩, fun done held => held.2 done⟩
    exact ⟨V.tx.trans answered, enabled.trans answered⟩
  · obtain rfl := (launched false).mp rung
    have free : session.onHold = false := by
      rw [← Bool.not_eq_true, V.held]
      exact fun held => absurd held.1 Bool.false_ne_true
    refine ⟨V.tx.trans V.accepted, ?_⟩
    rw [V.gate, free]
    rfl

/-- The call of `answeredCall` was answered, and sends. -/
theorem connects_call : ∃ session, (run Sodium.transparent answeredCall).sessions[0]? = some session ∧
    session.txPipeline = .playing ∧ .answered ∈ session.log := by
  obtain ⟨session, here, -, called, -⟩ := connects Sodium.transparent answeredCall 0 (by decide +kernel)
  have plays : (run Sodium.transparent answeredCall).sessions[0]?.any
      (fun session => session.txPipeline = .playing) := by decide +kernel
  have rung : (run Sodium.transparent answeredCall).sessions[0]?.any
      RtpSession.rung := by decide +kernel
  rw [here] at plays rung
  obtain ⟨action, mem, rings⟩ := List.any_eq_true.mp rung
  cases action with
  | launch onHold =>
    obtain rfl : onHold = true := rings
    have plays : session.txPipeline = .playing := of_decide_eq_true plays
    exact ⟨session, here, plays, (called mem).1.mp plays⟩
  | _ => cases rings

end Application

end Nanotalk
