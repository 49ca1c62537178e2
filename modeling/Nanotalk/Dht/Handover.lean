import Nanotalk.Dht.Quiescence

/-!
# What a client hands over

What an event adds to the log of a client, for the one whose callbacks run (`step_grows`). Only a
response hands out a connection (`Mute`), and a new connection is signalled while `listen` is set.
Every callback is completed once at most (`completions_le`), and all of them are when the client has
nothing left to wait for (`Still.completions`).
-/

namespace Nanotalk
open Glib
open DhtClient (Env)

/-- New connections are signalled while `listen` is set. -/
def Action.admitted (listen : Bool) : Action → Bool
  | newConnection _ => listen
  | _ => true

/-- An event that the user of the client does not make. -/
def Event.outer : Event → Bool
  | lookupAsync _ => false
  | setListen _ => false
  | _ => true

namespace DhtClient

variable {c c' : DhtClient} {l : DhtLookup} {k : DhtConnection} {listen : Bool}

/-- The property `listen` and the first sources stay as they are, and no connection is handed out. -/
abbrev Mute (c c' : DhtClient) : Prop :=
  Frame (fun c => (c.listen, c.attached)) (fun action => action.delivery.isNone) c c'

/-- The property `listen` and the first sources stay as they are, and what is done is admitted. -/
abbrev Grows (listen : Bool) (c c' : DhtClient) : Prop :=
  Frame (fun c => (c.listen, c.attached)) (Action.admitted listen) c c'

/-- Without a connection there is nothing to admit. -/
lemma Frame.grows (M : Mute c c') : Grows listen c c' := by
  obtain ⟨added, log, kind⟩ := M.log
  refine ⟨M.same, added, log, fun action mem => ?_⟩
  have mute := kind action mem
  cases action with
  | newConnection k => cases mute
  | _ => rfl

/-! ## Functions that hand nothing out -/

/-- Lookups hand no connection out. -/
lemma Frame.mute (F : Seeks c c') : Mute c c' := by
  obtain ⟨added, log, kind⟩ := F.log
  refine ⟨congrArg (fun view => (view.2.2.2.1, view.2.2.2.2.2.2)) F.same, added, log,
    fun action mem => ?_⟩
  have seeks := kind action mem
  cases action with
  | complete result k => cases seeks
  | newConnection k => cases seeks
  | _ => rfl

/-- A connection replaces another one. -/
lemma connectionReplace_mute : Mute c (c.connectionReplace k) := by
  unfold connectionReplace
  split
  · refine Frame.trans ?_ connectionDestroy_seeks.mute
    exact .quiet rfl rfl
  · exact .quiet rfl rfl

/-- A connection is removed. -/
lemma connectionRemove_mute {nonce : DhtKey} : Mute c (c.connectionRemove nonce) := by
  unfold connectionRemove
  split
  · refine Frame.trans ?_ connectionDestroy_seeks.mute
    exact .quiet rfl rfl
  · exact .quiet rfl rfl

section Random

variable (random : Nat → DhtKey)

/-- A connection is requested. -/
lemma requestConnection_mute (id : DhtId) (addr : DhtAddress) (result : Nat) :
    Mute c (c.requestConnection random id addr result) := by
  unfold requestConnection
  dsimp only
  refine (Frame.trans ?_ connectionReplace_mute).trans
    (.done [.sendTo _ _ (.connectionReq _ _)] rfl rfl rfl)
  exact .done [.attempt id _] rfl rfl rfl

/-- A lookup takes nodes, or has found its node. -/
lemma updateLoop_mute (nodes : List MsgNode) : Mute c (c.updateLoop random l nodes) := by
  induction nodes generalizing c l with
  | nil => exact lookupDispatch_seeks.mute
  | cons node nodes ih =>
    unfold updateLoop
    dsimp only
    split
    · exact ih
    · split
      · refine Frame.trans ?_ (lookupRemove_seeks _).mute
        refine (Frame.foldl (fun c result => ?_) l.results).trans (.quiet rfl rfl)
        exact requestConnection_mute random _ _ result
      · refine Frame.trans ?_ ih
        exact .quiet rfl rfl

/-- A lookup takes nodes. -/
lemma lookupUpdate_mute (nodes : List MsgNode) : Mute c (c.lookupUpdate random l nodes) := by
  refine Frame.trans ?_ (updateLoop_mute random nodes)
  exact .done [.offered l.id nodes] rfl rfl rfl

/-- A node is looked up. -/
lemma lookupAsync_mute (now : Int) (id : DhtId) : Mute c (c.lookupAsync random now id) := by
  unfold lookupAsync
  dsimp only
  split
  · exact .done [.completeInIdle _ _] rfl rfl rfl
  · split
    · exact .quiet rfl rfl
    · refine Frame.trans ?_ (lookupUpdate_mute random _)
      exact .done [.lookupNew id] rfl rfl rfl

/-- The client is bootstrapped. -/
lemma bootstrap_mute (address : GSocketAddress) : Mute c (c.bootstrap random address) := by
  unfold bootstrap
  dsimp only
  split
  · exact lookupUpdate_mute random _
  · refine Frame.trans ?_ (lookupUpdate_mute random _)
    exact .done [.lookupNew c.id] rfl rfl rfl

/-- The table is refreshed. -/
lemma refresh_mute (now : Int) (nbits : Nat) (drawn : Nat → UInt8) :
    Mute c (c.refresh random now nbits drawn) := by
  unfold refresh
  dsimp only
  generalize DhtLookup.new (refreshId c.id nbits drawn) [] = l
  have created : Mute c (c.act (.lookupNew l.id)) := .done [.lookupNew l.id] rfl rfl rfl
  have entered : Mute c ((c.act (.lookupNew l.id)).lookupReplace l) :=
    created.trans lookupReplace_seeks.mute
  have searched : Mute c (((c.act (.lookupNew l.id)).lookupReplace l).search now l.id).2 :=
    entered.trans (.quiet rfl rfl)
  exact searched.trans (lookupUpdate_mute random _)

/-! ## Datagrams -/

section Receive

variable (S : Sodium) (env : Env) (sockaddr : GSocketAddress)

/-- A lookup request is replied to. -/
lemma lookupReq_mute (srcid dstid : DhtId) : Mute c (c.lookupReq env sockaddr srcid dstid) := by
  unfold lookupReq
  split
  · exact .quiet rfl rfl
  · exact .done [.sendTo 0 _ (.lookupRes _ _ _)] rfl rfl rfl

/-- A lookup response is taken. -/
lemma lookupRes_mute (srcid dstid : DhtId) (nodes : List MsgNode) :
    Mute c (c.lookupRes random env sockaddr srcid dstid nodes) := by
  unfold lookupRes
  dsimp only
  split
  · exact .quiet rfl rfl
  · split
    · exact .quiet rfl rfl
    · split
      · exact .quiet rfl rfl
      · rename_i query _
        refine Frame.trans ?_ (lookupUpdate_mute random _)
        split
        · exact .done [.answered dstid query srcid nodes] rfl rfl rfl
        · exact .done [.answered dstid query srcid nodes] rfl rfl rfl

/-- A connection request is answered. -/
lemma connectionReq_mute (pubkey nonce : DhtKey) :
    Mute c (c.connectionReq S random env sockaddr pubkey nonce) := by
  unfold connectionReq
  dsimp only
  split
  · exact .quiet rfl rfl
  · split
    · split
      · exact .quiet rfl rfl
      · split
        · exact .quiet rfl rfl
        · refine (Frame.trans ?_ connectionReplace_mute).trans
            (.done [.sendTo _ _ (.connectionRes1 _ _ _ _)] rfl rfl rfl)
          exact .done [.answer _] rfl rfl rfl
    · exact .quiet rfl rfl

/-- An action that is admitted. -/
lemma act_grows {action : Action} (kind : action.admitted listen = true) :
    Grows listen c (c.act action) :=
  .done [action] rfl rfl (by simp [kind])

/-- A timeout is removed. -/
lemma sourceRemove_grows (source : Nat) : Grows listen c (c.sourceRemove source) := .quiet rfl rfl

/-- A connection is taken out of the table. -/
lemma connectionSteal_grows (nonce : DhtKey) : Grows listen c (c.connectionSteal nonce) := .quiet rfl rfl

/-- What is done about a response before the result is completed. -/
lemma accept_grows (socket source : Nat) (dest : Option GSocketAddress) (nonce tag nonce' : DhtKey)
    (own : Option Nat) (peer : GSocketAddress) :
    Grows listen c ((((c.socketNew.2.act (.sendTo socket dest (.connectionRes2 nonce tag))).sourceRemove
      source).act (.connect own peer)).connectionSteal nonce') := by
  refine Frame.trans ?_ (connectionSteal_grows nonce')
  refine Frame.trans ?_ (act_grows rfl)
  refine Frame.trans ?_ (sourceRemove_grows source)
  refine Frame.trans ?_ (act_grows rfl)
  exact .quiet rfl rfl

/-- A connection response completes a callback. -/
lemma connectionRes1_grows (pubkey nonce peerNonce authTag : DhtKey) :
    Grows listen c (c.connectionRes1 S env sockaddr pubkey nonce peerNonce authTag) := by
  unfold connectionRes1
  dsimp only
  split
  · exact .quiet rfl rfl
  · split
    · exact .quiet rfl rfl
    · split
      · exact .quiet rfl rfl
      · generalize e : (c.act (.derive _)).putConnection _ = c'
        have derived : Grows listen c c' := by
          rw [← e]
          exact .done [.derive _] rfl rfl rfl
        split
        · exact derived
        · split
          · exact derived
          · refine derived.trans ?_
            split
            · exact (accept_grows _ _ _ _ _ _ _ _).trans (act_grows rfl)
            · exact accept_grows _ _ _ _ _ _ _ _

/-- A confirmation signals a connection while `listen` is set. -/
lemma connectionRes2_grows (peerNonce authTag : DhtKey) :
    Grows c.listen c (c.connectionRes2 sockaddr peerNonce authTag) := by
  unfold connectionRes2
  dsimp only
  split
  · exact .quiet rfl rfl
  · split
    · exact .quiet rfl rfl
    · refine Frame.trans ?_ connectionDestroy_seeks.mute.grows
      split
      · rename_i on
        have on : c.listen = true := on
        exact .done [.newConnection _, .connect _ _] rfl rfl (by simp [Action.admitted, on])
      · exact .quiet rfl rfl

end Receive

end Random

/-! ## Events -/

/-- A timeout hands no connection out. -/
lemma fire_mute (env : Env) (source : Nat) : Mute c (c.fire env source) := by
  unfold fire
  split
  · rename_i id iter _
    unfold queryTimeout
    split
    · exact .quiet rfl rfl
    · split
      · exact .quiet rfl rfl
      · rename_i query _
        refine Frame.trans ?_ lookupDispatch_seeks.mute
        exact .done [.timedOut id query] rfl rfl rfl
  · rename_i nonce _
    unfold connectionTimeout
    split
    · exact .quiet rfl rfl
    · refine Frame.trans ?_ connectionRemove_mute
      split
      · rename_i result _
        exact .done [.completeInIdle result ⟨.timedOut, "Operation timed out"⟩] rfl rfl rfl
      · exact .quiet rfl rfl
  · exact .quiet rfl rfl

variable (S : Sodium) (w : WordSize) (random : Nat → DhtKey)

/-- What an event that is not of the user's making adds to the log. -/
lemma step_grows (env : Env) {e : Event} (outer : e.outer = true) :
    Grows c.listen c (c.step S w random env e) := by
  cases e with
  | lookupAsync id => cases outer
  | setListen listen => cases outer
  | bootstrap address => exact (bootstrap_mute random address).grows
  | refresh nbits drawn => exact (refresh_mute random _ nbits drawn).grows
  | timeout source => exact (fire_mute env source).grows
  | receive memory len sockaddr =>
    unfold step receive
    dsimp only
    split
    · rename_i msg _
      cases msg with
      | lookupReq srcid dstid => exact (lookupReq_mute env sockaddr srcid dstid).grows
      | lookupRes srcid dstid nodes => exact (lookupRes_mute random env sockaddr srcid dstid nodes).grows
      | connectionReq pubkey nonce => exact (connectionReq_mute random S env sockaddr pubkey nonce).grows
      | connectionRes1 pubkey nonce peerNonce authTag =>
        exact connectionRes1_grows S env sockaddr pubkey nonce peerNonce authTag
      | connectionRes2 peerNonce authTag => exact connectionRes2_grows sockaddr peerNonce authTag
    · exact .quiet rfl rfl

/-- What is done is not told apart. -/
lemma Frame.untold (G : Grows listen c c') :
    Frame (fun c => c.attached) (fun _ => true) c c' := by
  obtain ⟨added, log, -⟩ := G.log
  exact ⟨congrArg Prod.snd G.same, added, log, fun _ _ => rfl⟩

/-- An event adds to the log, and leaves the first sources. -/
lemma step_frame (env : Env) (e : Event) :
    Frame (fun c => c.attached) (fun _ => true) c (c.step S w random env e) := by
  cases e with
  | lookupAsync id =>
    have grows : Grows c.listen c (c.lookupAsync random env.searchTime id) :=
      (lookupAsync_mute random env.searchTime id).grows
    exact grows.untold
  | setListen listen => exact .quiet rfl rfl
  | _ => exact Frame.untold (step_grows S w random env rfl)

/-! ## Callbacks that are completed -/

section Run

variable (key : DhtKey) (events : List (Env × Event))

/-- No callback is completed more often than it was made. -/
lemma completions_count (x : Nat) : (run S w random key events).completions.count x ≤
    (List.range (run S w random key events).calls).count x := by
  obtain ⟨-, places⟩ := places_run S w random key events
  have place := places x
  rw [List.count_range]
  unfold DhtClient.places at place
  omega

/-- No more callbacks are completed than were given. -/
lemma completions_le :
    (run S w random key events).completions.length ≤ (run S w random key events).calls := by
  have sub := List.subperm_ext_iff.mpr fun x _ => completions_count S w random key events x
  exact sub.length_le.trans (List.length_range.le)

/-- Where nothing is left to wait for, all callbacks are completed. -/
lemma Still.completions (still : (run S w random key events).Still) :
    (run S w random key events).completions.length = (run S w random key events).calls := by
  obtain ⟨lookups, connections⟩ := still.empty (run_consistent S w random key events)
  obtain ⟨-, places⟩ := places_run S w random key events
  have same : (run S w random key events).completions.Perm
      (List.range (run S w random key events).calls) := by
    rw [List.perm_iff_count]
    intro x
    have place := places x
    rw [DhtClient.places, funext lookups, funext connections, tally_none, tally_none] at place
    rw [List.count_range]
    exact place
  rw [same.length_eq, List.length_range]

end Run

end DhtClient

end Nanotalk
