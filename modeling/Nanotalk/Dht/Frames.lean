import Nanotalk.Dht.Books

/-!
# Frames

What a function of a client leaves alone: some part of the client, its `view`, and of the log
everything but actions of one kind (`Frame`).

* `Seeks`: the functions on lookups change neither keys nor connections, and do what is `seeking`.
* `Serves`: the functions on connections do not change the lookups, and do what is `serving`.

The destroy callbacks of both tables cancel callbacks, which belongs to either kind.
-/

namespace Nanotalk
open Glib
open DhtClient (Env)

/-- The actions of the functions on lookups. -/
def Action.seeking : Action → Bool
  | sendTo _ _ (.lookupReq ..) => true
  | completeInIdle .. => true
  | request .. => true
  | lookupFailed .. => true
  | _ => false

/-- The actions of the functions that answer a request, and of those on connections. -/
def Action.serving : Action → Bool
  | sendTo _ _ (.lookupRes ..) => true
  | sendTo _ _ (.connectionRes1 ..) => true
  | sendTo _ _ (.connectionRes2 ..) => true
  | connect .. => true
  | completeInIdle _ error => error.code ≠ .hostNotFound
  | complete .. => true
  | newConnection _ => true
  | answer _ => true
  | derive _ => true
  | _ => false

namespace DhtClient

/-- From `c` to `c'` nothing changes that `view` shows, and what is done is of the kind `p`. -/
structure Frame {α : Type} (view : DhtClient → α) (p : Action → Bool) (c c' : DhtClient) : Prop where
  same : view c' = view c
  log : ∃ added, c'.log = added ++ c.log ∧ ∀ action ∈ added, p action = true

variable {α β : Type} {view : DhtClient → α} {p q : Action → Bool} {c c' c'' : DhtClient}
  {l : DhtLookup} {k : DhtConnection}

namespace Frame

/-- What is done is given. -/
lemma done (added : List Action) (same : view c' = view c) (log : c'.log = added ++ c.log)
    (kind : added.all p = true) : Frame view p c c' :=
  ⟨same, added, log, List.all_eq_true.mp kind⟩

/-- Nothing is done. -/
lemma quiet (same : view c' = view c) (log : c'.log = c.log) : Frame view p c c' :=
  done [] same log rfl

/-- One after the other. -/
lemma trans (F : Frame view p c c') (G : Frame view p c' c'') : Frame view p c c'' := by
  obtain ⟨first, e, kind⟩ := F.log
  obtain ⟨second, e', kind'⟩ := G.log
  refine ⟨G.same.trans F.same, second ++ first, ?_, ?_⟩
  · rw [e', e, List.append_assoc]
  · intro action mem
    rcases List.mem_append.mp mem with mem | mem
    · exact kind' action mem
    · exact kind action mem

/-- A loop whose rounds change nothing that is shown. -/
lemma foldl {f : DhtClient → β → DhtClient} (one : ∀ c x, Frame view p c (f c x)) (xs : List β) :
    Frame view p c (xs.foldl f c) := by
  induction xs generalizing c with
  | nil => exact quiet rfl rfl
  | cons x xs ih => exact (one c x).trans ih

/-- The actions of another kind stay as they are. -/
lemma filter (F : Frame view p c c') (other : ∀ action, p action = true → q action = false) :
    c'.log.filter q = c.log.filter q := by
  obtain ⟨added, e, kind⟩ := F.log
  have none : added.filter q = [] := by
    rw [List.filter_eq_nil_iff]
    intro action mem
    rw [other action (kind action mem)]
    exact Bool.false_ne_true
  rw [e, List.filter_append, none, List.nil_append]

end Frame

/-! ## Destroy callbacks -/

section Destroy

variable (sources : ∀ c source, view (sourceRemove c source) = view c)
  (log : ∀ c action, view (act c action) = view c)
  (kind : ∀ result, p (.completeInIdle result ⟨.cancelled, "Operation cancelled"⟩) = true)

include sources in
/-- Destroying a query removes its timeout. -/
lemma queryDestroy_frame (query : DhtQuery) : Frame view p c (c.queryDestroy query) := by
  unfold queryDestroy
  split
  · exact .quiet (sources c _) rfl
  · exact .quiet rfl rfl

include sources log kind in
/-- Destroying a lookup removes timeouts and cancels callbacks. -/
lemma lookupDestroy_frame : Frame view p c (c.lookupDestroy l) := by
  have cancel : ∀ (c : DhtClient) (result : Nat), Frame view p c (c.resultDestroy result) :=
    fun c result => .done [_] (log c _) rfl (by simp [kind result])
  refine Frame.trans ?_ (Frame.foldl cancel l.results)
  exact Frame.foldl (fun _ query => queryDestroy_frame sources query) l.querySequence

include sources log kind in
/-- Destroying a connection removes its timeout and cancels its callback. -/
lemma connectionDestroy_frame : Frame view p c (c.connectionDestroy k) := by
  have source : Frame view p c
      (if k.timeoutSource > 0 then c.sourceRemove k.timeoutSource else c) := by
    split
    · exact .quiet (sources c _) rfl
    · exact .quiet rfl rfl
  unfold connectionDestroy
  dsimp only
  split
  · rename_i result _
    exact source.trans (.done [_] (log _ _) rfl (by simp [kind result]))
  · exact source

end Destroy

/-! ## Lookups -/

/-- Keys and connections stay as they are. -/
abbrev Seeks (c c' : DhtClient) : Prop :=
  Frame (fun c => (c.id, c.pubkey, c.privkey, c.listen, c.connectionTable, c.draws, c.attached))
    Action.seeking c c'

/-- A query is destroyed. -/
lemma queryDestroy_seeks (query : DhtQuery) : Seeks c (c.queryDestroy query) :=
  queryDestroy_frame (fun _ _ => rfl) query

/-- A lookup is destroyed. -/
lemma lookupDestroy_seeks : Seeks c (c.lookupDestroy l) :=
  lookupDestroy_frame (fun _ _ => rfl) (fun _ _ => rfl) fun _ => rfl

/-- A connection is destroyed. -/
lemma connectionDestroy_seeks : Seeks c (c.connectionDestroy k) :=
  connectionDestroy_frame (fun _ _ => rfl) (fun _ _ => rfl) fun _ => rfl

/-- A lookup is removed. -/
lemma lookupRemove_seeks (id : DhtId) : Seeks c (c.lookupRemove id) := by
  unfold lookupRemove
  split
  · refine Frame.trans ?_ lookupDestroy_seeks
    exact .quiet rfl rfl
  · exact .quiet rfl rfl

/-- A lookup replaces another one. -/
lemma lookupReplace_seeks : Seeks c (c.lookupReplace l) := by
  unfold lookupReplace
  split
  · refine Frame.trans ?_ lookupDestroy_seeks
    exact .quiet rfl rfl
  · exact .quiet rfl rfl

/-- Queries are sent. -/
lemma dispatchLoop_seeks (todo : List DhtQuery) (numAlive : Nat) :
    Seeks c (dispatchLoop todo c l numAlive).1 := by
  induction todo generalizing c l numAlive with
  | nil => exact .quiet rfl rfl
  | cons query rest ih =>
    unfold dispatchLoop
    split
    · dsimp only
      split
      · refine Frame.trans ?_ (ih _)
        exact .done [.sendTo 0 (some query.addr.deserialize) (.lookupReq c.id l.id),
          .request l.id query l.querySequence] rfl rfl rfl
      · exact ih _
    · exact .quiet rfl rfl

/-- A lookup goes on, or fails. -/
lemma lookupDispatch_seeks : Seeks c (c.lookupDispatch l) := by
  have loop := dispatchLoop_seeks (c := c) (l := l) l.querySequence 0
  unfold lookupDispatch
  generalize dispatchLoop l.querySequence c l 0 = r at loop
  obtain ⟨c', l'⟩ := r
  dsimp only at loop ⊢
  split
  · have failed : Seeks c' (c'.act (.lookupFailed l'.id l'.querySequence)) :=
      .done [_] rfl rfl rfl
    have report : ∀ (c : DhtClient) (result : Nat),
        Seeks c (c.act (.completeInIdle result ⟨.hostNotFound, "Lookup failed"⟩)) :=
      fun c result => .done [_] rfl rfl rfl
    have reported := (loop.trans failed).trans (Frame.foldl report l'.results)
    refine reported.trans (Frame.trans ?_ (lookupRemove_seeks l'.id))
    exact .quiet rfl rfl
  · exact loop

/-! ## Connections -/

/-- The id, the public key and the lookups stay as they are. -/
abbrev Serves (c c' : DhtClient) : Prop :=
  Frame (fun c => (c.id, c.pubkey, c.lookupTable, c.calls)) Action.serving c c'

/-- Something is done for a connection. -/
lemma act_serves {action : Action} (kind : action.serving = true) : Serves c (c.act action) :=
  .done [action] rfl rfl (by simp [kind])

/-- A timeout is removed. -/
lemma sourceRemove_serves (source : Nat) : Serves c (c.sourceRemove source) := .quiet rfl rfl

/-- A connection is taken out of the table. -/
lemma connectionSteal_serves (nonce : DhtKey) : Serves c (c.connectionSteal nonce) := .quiet rfl rfl

/-- A query is destroyed. -/
lemma queryDestroy_serves (query : DhtQuery) : Serves c (c.queryDestroy query) :=
  queryDestroy_frame (fun _ _ => rfl) query

/-- A lookup is destroyed. -/
lemma lookupDestroy_serves : Serves c (c.lookupDestroy l) :=
  lookupDestroy_frame (fun _ _ => rfl) (fun _ _ => rfl) fun _ => rfl

/-- A connection is destroyed. -/
lemma connectionDestroy_serves : Serves c (c.connectionDestroy k) :=
  connectionDestroy_frame (fun _ _ => rfl) (fun _ _ => rfl) fun _ => rfl

/-- A connection replaces another one. -/
lemma connectionReplace_serves : Serves c (c.connectionReplace k) := by
  unfold connectionReplace
  split
  · refine Frame.trans ?_ connectionDestroy_serves
    exact .quiet rfl rfl
  · exact .quiet rfl rfl

/-- A connection is removed. -/
lemma connectionRemove_serves (nonce : DhtKey) : Serves c (c.connectionRemove nonce) := by
  unfold connectionRemove
  split
  · refine Frame.trans ?_ connectionDestroy_serves
    exact .quiet rfl rfl
  · exact .quiet rfl rfl

/-- A connection times out. -/
lemma connectionTimeout_serves (nonce : DhtKey) : Serves c (c.connectionTimeout nonce) := by
  unfold connectionTimeout
  split
  · exact .quiet rfl rfl
  · refine Frame.trans ?_ (connectionRemove_serves _)
    split
    · rename_i result _
      exact .done [.completeInIdle result ⟨.timedOut, "Operation timed out"⟩] rfl rfl rfl
    · exact .quiet rfl rfl

section Receive

variable (S : Sodium) (random : Nat → DhtKey) (env : Env) (sockaddr : GSocketAddress)

/-- A lookup request is replied to. -/
lemma lookupReq_serves (srcid dstid : DhtId) : Serves c (c.lookupReq env sockaddr srcid dstid) := by
  unfold lookupReq
  split
  · exact .quiet rfl rfl
  · exact .done [_] rfl rfl rfl

/-- A connection request is answered. -/
lemma connectionReq_serves (pubkey nonce : DhtKey) :
    Serves c (c.connectionReq S random env sockaddr pubkey nonce) := by
  unfold connectionReq
  dsimp only
  split
  · exact .quiet rfl rfl
  · split
    · split
      · exact .quiet rfl rfl
      · split
        · exact .quiet rfl rfl
        · refine (Frame.trans ?_ connectionReplace_serves).trans
            (.done [.sendTo _ _ (.connectionRes1 _ _ _ _)] rfl rfl rfl)
          exact .done [.answer _] rfl rfl rfl
    · exact .quiet rfl rfl

/-- What is done about a response before the result is completed. -/
lemma accept_serves (socket source : Nat) (dest : Option GSocketAddress) (nonce tag nonce' : DhtKey)
    (own : Option Nat) (peer : GSocketAddress) :
    Serves c ((((c.socketNew.2.act (.sendTo socket dest (.connectionRes2 nonce tag))).sourceRemove
      source).act (.connect own peer)).connectionSteal nonce') := by
  refine Frame.trans ?_ (connectionSteal_serves nonce')
  refine Frame.trans ?_ (act_serves rfl)
  refine Frame.trans ?_ (sourceRemove_serves source)
  refine Frame.trans ?_ (act_serves rfl)
  exact .quiet rfl rfl

/-- A connection response is confirmed. -/
lemma connectionRes1_serves (pubkey nonce peerNonce authTag : DhtKey) :
    Serves c (c.connectionRes1 S env sockaddr pubkey nonce peerNonce authTag) := by
  unfold connectionRes1
  dsimp only
  split
  · exact .quiet rfl rfl
  · split
    · exact .quiet rfl rfl
    · split
      · exact .quiet rfl rfl
      · generalize e : (c.act (.derive _)).putConnection _ = c'
        have derived : Serves c c' := by
          rw [← e]
          exact .done [.derive _] rfl rfl rfl
        split
        · exact derived
        · split
          · exact derived
          · refine derived.trans ?_
            split
            · refine Frame.trans ?_ (act_serves rfl)
              exact accept_serves _ _ _ _ _ _ _ _
            · exact accept_serves _ _ _ _ _ _ _ _

/-- A confirmation is taken. -/
lemma connectionRes2_serves (peerNonce authTag : DhtKey) :
    Serves c (c.connectionRes2 sockaddr peerNonce authTag) := by
  unfold connectionRes2
  dsimp only
  split
  · exact .quiet rfl rfl
  · split
    · exact .quiet rfl rfl
    · refine Frame.trans ?_ connectionDestroy_serves
      split
      · refine Frame.trans ?_ (act_serves rfl)
        refine Frame.trans ?_ (act_serves rfl)
        exact connectionSteal_serves _
      · exact connectionSteal_serves _

end Receive

end DhtClient

end Nanotalk
