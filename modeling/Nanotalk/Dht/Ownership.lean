import Nanotalk.Lib.Tally
import Nanotalk.Dht.Books

/-!
# Ownership of callbacks

Every callback handed to `dht_client_lookup_async` is in exactly one place: it was completed, or it
waits in the results of a lookup, or it is the result of a connection. `DhtClient.places` counts the
places of a callback, with multiplicity. A function that keeps the number of places of every
callback, but for those it is given, is `Accounts`; the callbacks destroyed with a lookup or a
connection are accounted for by their completion with `G_IO_ERROR_CANCELLED`.

Together with the invariant of `Books.lean`, which says that lookups and connections are never
without an armed timeout, this is `callback_placed`.
-/

namespace Nanotalk
open Glib

noncomputable instance fintypeByte : Fintype UInt8 :=
  Fintype.ofInjective (fun x => (⟨x.toNat, x.toNat_lt⟩ : Fin (2 ^ 8)))
    (fun _ _ e => UInt8.toNat_inj.mp (Fin.mk.inj e))

noncomputable instance fintypeDhtId : Fintype DhtId :=
  Fintype.ofInjective DhtId.data (fun _ _ e => DhtId.ext e)

noncomputable instance fintypeDhtKey : Fintype DhtKey :=
  Fintype.ofInjective DhtKey.data (fun _ _ e => DhtKey.ext e)

/-- The callbacks that an action completes. -/
def Action.completed : Action → List Nat
  | completeInIdle result _ => [result]
  | complete result _ => [result]
  | _ => []

/-- A call of `dht_client_lookup_async`. -/
def Event.isCall : Event → Bool
  | lookupAsync _ => true
  | _ => false

namespace DhtClient

/-- The callbacks completed so far. -/
def completions (c : DhtClient) : List Nat := c.log.flatMap Action.completed

/-- The number of places of a callback. -/
noncomputable def places (c : DhtClient) (x : Nat) : Nat :=
  c.completions.count x + tally c.lookupTable (fun l => l.results.count x) +
    tally c.connectionTable (fun k => k.result.toList.count x)

/-- Between `c` and `c'` no callback is lost or doubled, and `results` are added. -/
structure Accounts (c c' : DhtClient) (results : List Nat) : Prop where
  calls : c'.calls = c.calls
  places : ∀ x, c'.places x = c.places x + results.count x

section Functions

variable {c c' c'' : DhtClient} {l : DhtLookup} {k : DhtConnection} {results results' : List Nat}

lemma Accounts.trans (A : Accounts c c' results) (B : Accounts c' c'' results') :
    Accounts c c'' (results ++ results') where
  calls := B.calls.trans A.calls
  places x := by rw [B.places, A.places, List.count_append, Nat.add_assoc]

/-- Steps that add nothing. -/
lemma Accounts.trans_nil (A : Accounts c c' []) (B : Accounts c' c'' results) :
    Accounts c c'' results := A.trans B

lemma accounts_act (action : Action) : Accounts c (c.act action) action.completed := by
  refine ⟨rfl, fun x => ?_⟩
  simp only [DhtClient.places, completions, act, List.flatMap_cons, List.count_append]
  omega

/-- Steps after which nothing is added. -/
lemma Accounts.then_nil (A : Accounts c c' results) (B : Accounts c' c'' []) :
    Accounts c c'' results where
  calls := B.calls.trans A.calls
  places x := (B.places x).trans (A.places x)

lemma accounts_sendTo (socket : Nat) (dest : Option GSocketAddress) (msg : Msg) :
    Accounts c (c.act (.sendTo socket dest msg)) [] := accounts_act _

lemma accounts_search (now : Int) (id : DhtId) : Accounts c (c.search now id).2 [] :=
  ⟨rfl, fun _ => rfl⟩

/-- Acting once for every result. -/
lemma accounts_foldl (f : DhtClient → Nat → DhtClient)
    (one : ∀ c result, Accounts c (f c result) [result]) (results : List Nat) :
    Accounts c (results.foldl f c) results := by
  induction results generalizing c with
  | nil => exact ⟨rfl, fun _ => rfl⟩
  | cons r rs ih => exact (one c r).trans ih

/-! ## Tables -/

lemma places_putLookup (x : Nat) :
    (c.putLookup l).places x + (c.lookupTable l.id).elim 0 (fun l => l.results.count x) =
      c.places x + l.results.count x := by
  have e := tally_update c.lookupTable (fun l => l.results.count x) l.id (some l)
  simp only [DhtClient.places, putLookup, completions, Option.elim_some] at e ⊢
  omega

/-- The lookup in hand is written back with the same results. -/
lemma accounts_putLookup (l' : DhtLookup) (here : c.lookupTable l.id = some l) (id : l'.id = l.id)
    (same : l'.results = l.results) : Accounts c (c.putLookup l') [] := by
  refine ⟨rfl, fun x => ?_⟩
  have e := places_putLookup (c := c) (l := l') x
  rw [id, here, Option.elim_some, same] at e
  simpa using e

/-- A lookup is destroyed, and its callbacks are completed. -/
lemma accounts_lookupDestroy : Accounts c (c.lookupDestroy l) l.results := by
  unfold lookupDestroy
  rw [queryDestroy_foldl]
  refine Accounts.trans_nil ?_ (accounts_foldl _ (fun c r => accounts_act _) _)
  exact ⟨rfl, fun _ => rfl⟩

/-- The results of a lookup that is removed are cancelled. -/
lemma accounts_lookupRemove (id : DhtId) : Accounts c (c.lookupRemove id) [] := by
  unfold lookupRemove
  split
  · rename_i l here
    have A := accounts_lookupDestroy (c := { c with lookupTable := Function.update c.lookupTable id none })
      (l := l)
    refine ⟨A.calls, fun x => ?_⟩
    have e := tally_update c.lookupTable (fun l => l.results.count x) id none
    rw [A.places]
    simp only [DhtClient.places, completions, here, Option.elim_some, Option.elim_none,
      List.count_nil] at e ⊢
    omega
  · exact ⟨rfl, fun _ => rfl⟩

lemma accounts_lookupReplace (id : DhtId) : Accounts c (c.lookupReplace (.new id [])) [] := by
  unfold lookupReplace
  split
  · rename_i old here
    have A := accounts_lookupDestroy (c := c.putLookup (.new id [])) (l := old)
    refine ⟨A.calls, fun x => ?_⟩
    have e := places_putLookup (c := c) (l := .new id []) x
    rw [here, Option.elim_some] at e
    rw [A.places]
    exact e
  · rename_i free
    refine ⟨rfl, fun x => ?_⟩
    have e := places_putLookup (c := c) (l := .new id []) x
    rw [free] at e
    exact e

/-- A connection is destroyed, and its callback is completed. -/
lemma accounts_connectionDestroy : Accounts c (c.connectionDestroy k) k.result.toList := by
  have A : Accounts c
      (if k.timeoutSource > 0 then c.sourceRemove k.timeoutSource else c) [] := by
    split
    · exact ⟨rfl, fun _ => rfl⟩
    · exact ⟨rfl, fun _ => rfl⟩
  unfold connectionDestroy
  dsimp only
  split
  · rename_i result e
    rw [e]
    exact A.trans (accounts_act _)
  · rename_i e
    rw [e]
    exact A

/-- A connection that is put back takes the place of what was there. -/
lemma places_putConnection (x : Nat) :
    (c.putConnection k).places x +
        (c.connectionTable k.nonce).elim 0 (fun k => k.result.toList.count x) =
      c.places x + k.result.toList.count x := by
  have e := tally_update c.connectionTable (fun k => k.result.toList.count x) k.nonce (some k)
  simp only [DhtClient.places, putConnection, completions, Option.elim_some] at e ⊢
  omega

/-- A connection that is taken out leaves its callback without a place. -/
lemma places_connectionSteal (here : c.connectionTable k.nonce = some k) (x : Nat) :
    (c.connectionSteal k.nonce).places x + k.result.toList.count x = c.places x := by
  have e := tally_update c.connectionTable (fun k => k.result.toList.count x) k.nonce none
  simp only [DhtClient.places, connectionSteal, completions, here, Option.elim_some,
    Option.elim_none] at e ⊢
  omega

/-- The connection in hand is written back with the same result. -/
lemma accounts_putConnection (k' : DhtConnection) (here : c.connectionTable k.nonce = some k)
    (nonce : k'.nonce = k.nonce) (same : k'.result = k.result) : Accounts c (c.putConnection k') [] := by
  refine ⟨rfl, fun x => ?_⟩
  have e := places_putConnection (c := c) (k := k') x
  rw [nonce, here, Option.elim_some, same] at e
  exact Nat.add_right_cancel e

/-- A connection without a result is stolen. -/
lemma accounts_connectionSteal (here : c.connectionTable k.nonce = some k) (e : k.result = none) :
    Accounts c (c.connectionSteal k.nonce) [] := by
  refine ⟨rfl, fun x => ?_⟩
  have f := places_connectionSteal here x
  rw [e] at f
  exact f

/-- The result of a connection that is stolen is completed. -/
lemma accounts_complete {r : Nat} (here : c.connectionTable k.nonce = some k)
    (e : k.result = some r) (connection : DhtConnection) :
    Accounts c ((c.connectionSteal k.nonce).act (.complete r connection)) [] := by
  refine ⟨rfl, fun x => ?_⟩
  have f := places_connectionSteal here x
  rw [e] at f
  rw [(accounts_act _).places]
  exact f

/-- The result of a connection that is removed is cancelled. -/
lemma accounts_connectionRemove (here : c.connectionTable k.nonce = some k) :
    Accounts c (c.connectionRemove k.nonce) [] := by
  rw [connectionRemove, here]
  refine ⟨accounts_connectionDestroy.calls, fun x => ?_⟩
  rw [accounts_connectionDestroy.places]
  exact places_connectionSteal here x

/-- The result of a replaced connection is cancelled. -/
lemma accounts_connectionReplace : Accounts c (c.connectionReplace k) k.result.toList := by
  unfold connectionReplace
  split
  · rename_i old here
    have A := accounts_connectionDestroy (c := c.putConnection k) (k := old)
    refine ⟨A.calls, fun x => ?_⟩
    have e := places_putConnection (c := c) (k := k) x
    rw [here, Option.elim_some] at e
    rw [A.places, e]
  · rename_i free
    refine ⟨rfl, fun x => ?_⟩
    have e := places_putConnection (c := c) (k := k) x
    rw [free] at e
    exact e

/-! ## Lookups -/

/-- A lookup whose results have been accounted for elsewhere is removed. -/
lemma accounts_finish (here : c.lookupTable l.id = some l) (x : Nat) :
    ((c.putLookup { l with results := [] }).lookupRemove l.id).places x + l.results.count x =
      c.places x := by
  rw [(accounts_lookupRemove l.id).places]
  have e := places_putLookup (c := c) (l := { l with results := [] }) x
  rw [here, Option.elim_some] at e
  exact e

lemma accounts_dispatchLoop (todo : List DhtQuery) (numAlive : Nat)
    (here : c.lookupTable l.id = some l) :
    Accounts c (dispatchLoop todo c l numAlive).1 [] := by
  induction todo generalizing c l numAlive with
  | nil => exact ⟨rfl, fun _ => rfl⟩
  | cons q rest ih =>
    unfold dispatchLoop
    split
    · dsimp only
      split
      · refine Accounts.trans_nil ?_ (ih _ (Function.update_self _ _ _))
        have A := accounts_putLookup { l.setQuery { q with timeoutSource := c.nextSource } with
          numSources := guintInc l.numSources } here rfl rfl
        exact ⟨A.calls, A.places⟩
      · exact ih _ here
    · exact ⟨rfl, fun _ => rfl⟩

/-- A lookup goes on, or completes its callbacks. -/
lemma accounts_lookupDispatch (here : c.lookupTable l.id = some l) :
    Accounts c (c.lookupDispatch l) [] := by
  have A := accounts_dispatchLoop l.querySequence 0 here
  obtain ⟨id, same, here'⟩ := dispatchLoop_here l.querySequence 0 here
  unfold lookupDispatch
  generalize dispatchLoop l.querySequence c l 0 = r at A id same here'
  obtain ⟨c', l'⟩ := r
  dsimp only at A id same here' ⊢
  rw [← id] at here'
  split
  · have B := (accounts_act (c := c') (.lookupFailed l'.id l'.querySequence)).trans_nil
      (accounts_foldl (fun c result => c.act
        (.completeInIdle result ⟨.hostNotFound, "Lookup failed"⟩)) (fun _ _ => accounts_act _)
        l'.results)
    have e := congrArg Books.lookupTable (foldl_act_books
      (c := c'.act (.lookupFailed l'.id l'.querySequence))
      (fun result => .completeInIdle result ⟨.hostNotFound, "Lookup failed"⟩) l'.results)
    have here'' := (congrFun e l'.id).trans here'
    refine ⟨?_, fun x => ?_⟩
    · refine Eq.trans (accounts_lookupRemove _).calls ?_
      exact B.calls.trans A.calls
    · have f := accounts_finish here'' x
      rw [B.places] at f
      rw [← A.places]
      omega
  · exact A

section Random

variable (random : Nat → DhtKey)

lemma accounts_requestConnection (id : DhtId) (addr : DhtAddress) (result : Nat) :
    Accounts c (c.requestConnection random id addr result) [result] := by
  unfold requestConnection
  dsimp only
  refine Accounts.then_nil ?_ (accounts_sendTo _ _ _)
  refine Accounts.trans_nil ?_ accounts_connectionReplace
  exact ⟨rfl, fun _ => rfl⟩

/-- A lookup that has found its node hands its callbacks to connections. -/
lemma accounts_updateLoop (nodes : List MsgNode) (here : c.lookupTable l.id = some l) :
    Accounts c (c.updateLoop random l nodes) [] := by
  induction nodes generalizing c l with
  | nil => exact accounts_lookupDispatch here
  | cons node nodes ih =>
    unfold updateLoop
    split
    · exact ih here
    · split
      · -- every result moves to a connection of its own
        have B := accounts_foldl (c := c)
          (fun c result => c.requestConnection random l.id node.addr result)
          (fun _ r => accounts_requestConnection random _ _ r) l.results
        have here' := (congrFun (requestConnections_lookupTable (c := c) random l.id node.addr
          l.results) l.id).trans here
        refine ⟨Eq.trans (accounts_lookupRemove _).calls B.calls, fun x => ?_⟩
        have f := accounts_finish here' x
        rw [B.places] at f
        simp only [List.count_nil]
        omega
      · have A := accounts_putLookup (l.insertQuery node) here (DhtLookup.id_insertQuery node)
          (DhtLookup.results_insertQuery node)
        exact A.trans_nil (ih (Function.update_self _ _ _))

lemma accounts_lookupUpdate (nodes : List MsgNode) (here : c.lookupTable l.id = some l) :
    Accounts c (c.lookupUpdate random l nodes) [] :=
  (accounts_act (.offered l.id nodes)).trans_nil (accounts_updateLoop random nodes here)

/-- A new lookup brings its results. -/
lemma accounts_putNew (results : List Nat) {id : DhtId} (free : c.lookupTable id = none) :
    Accounts c (c.putLookup (.new id results)) results := by
  refine ⟨rfl, fun x => ?_⟩
  have e := places_putLookup (c := c) (l := .new id results) x
  rw [show c.lookupTable (DhtLookup.new id results).id = none from free] at e
  exact e

/-- A call adds its own callback. -/
lemma accounts_lookupAsync (C : c.books.Consistent none) (now : Int) (id : DhtId) :
    Accounts { c with calls := c.calls + 1 } (c.lookupAsync random now id) [c.calls] := by
  unfold lookupAsync
  dsimp only
  split
  · exact accounts_act _
  · split
    · rename_i l here
      obtain ⟨rfl, _⟩ := C.lookup _ _ here
      refine ⟨rfl, fun x => ?_⟩
      have e := places_putLookup (c := { c with calls := c.calls + 1 })
        (l := { l with results := c.calls :: l.results }) x
      rw [here, Option.elim_some] at e
      simp only [List.count_cons, List.count_nil] at e ⊢
      omega
    · rename_i free
      have A := (accounts_act (c := { c with calls := c.calls + 1 }) (.lookupNew id)).trans_nil
        (accounts_putNew [c.calls] free)
      refine A.then_nil ?_
      exact (accounts_search _ _).trans_nil
        (accounts_lookupUpdate random _ (Function.update_self _ _ _))

lemma accounts_bootstrap (C : c.books.Consistent none) (address : GSocketAddress) :
    Accounts c (c.bootstrap random address) [] := by
  unfold bootstrap
  dsimp only
  split
  · rename_i l here
    exact accounts_lookupUpdate random _ ((C.lookup _ _ here).1 ▸ here)
  · rename_i free
    refine (accounts_act (.lookupNew c.id)).trans_nil ?_
    exact (accounts_putNew (c := c.act (.lookupNew c.id)) [] free).trans_nil
      (accounts_lookupUpdate random _ (Function.update_self _ _ _))

lemma accounts_refresh (now : Int) (nbits : Nat) (drawn : Nat → UInt8) :
    Accounts c (c.refresh random now nbits drawn) [] := by
  unfold refresh
  dsimp only
  refine (accounts_act (.lookupNew (refreshId c.id nbits drawn))).trans_nil ?_
  refine (accounts_lookupReplace (refreshId c.id nbits drawn)).trans_nil ?_
  exact (accounts_search _ _).trans_nil
    (accounts_lookupUpdate random _ (lookupReplace_lookupTable _))

end Random

/-! ## Datagrams -/

section Receive

variable (S : Sodium) (random : Nat → DhtKey) (env : Env) (sockaddr : GSocketAddress)

lemma accounts_lookupReq (srcid dstid : DhtId) :
    Accounts c (c.lookupReq env sockaddr srcid dstid) [] := by
  unfold lookupReq
  split
  · exact ⟨rfl, fun _ => rfl⟩
  · exact ⟨rfl, fun _ => rfl⟩

lemma accounts_lookupRes (C : c.books.Consistent none) (srcid dstid : DhtId)
    (nodes : List MsgNode) :
    Accounts c (c.lookupRes random env sockaddr srcid dstid nodes) [] := by
  unfold lookupRes
  dsimp only
  split
  · exact ⟨rfl, fun _ => rfl⟩
  · split
    · exact ⟨rfl, fun _ => rfl⟩
    · rename_i l here
      obtain ⟨rfl, _⟩ := C.lookup _ _ here
      split
      · exact ⟨rfl, fun _ => rfl⟩
      · rename_i q _
        refine Accounts.trans_nil ?_ (accounts_lookupUpdate random _ (Function.update_self _ _ _))
        -- whatever becomes of the query, the results of the lookup stay
        have put : ∀ (c' : DhtClient) (l' : DhtLookup), c'.lookupTable = c.lookupTable →
            c'.connectionTable = c.connectionTable → c'.completions = c.completions →
            c'.calls = c.calls → l'.id = l.id → l'.results = l.results →
            Accounts c (c'.putLookup l') [] := by
          intro c' l' lookups connections log calls id same
          have A := accounts_putLookup (c := c') l' (lookups ▸ here) id same
          refine ⟨A.calls.trans calls, fun x => ?_⟩
          rw [A.places]
          simp only [DhtClient.places, lookups, connections, log]
        apply put
        · split <;> rfl
        · split <;> rfl
        · split <;> rfl
        · split <;> rfl
        · split <;> rfl
        · split <;> rfl

lemma accounts_connectionReq (pubkey nonce : DhtKey) :
    Accounts c (c.connectionReq S random env sockaddr pubkey nonce) [] := by
  unfold connectionReq
  dsimp only
  split
  · exact ⟨rfl, fun _ => rfl⟩
  · split
    · split
      · exact ⟨rfl, fun _ => rfl⟩
      · split
        · exact ⟨rfl, fun _ => rfl⟩
        · refine Accounts.then_nil ?_ (accounts_sendTo _ _ _)
          refine Accounts.trans_nil ?_ accounts_connectionReplace
          exact ⟨rfl, fun _ => rfl⟩
    · exact ⟨rfl, fun _ => rfl⟩

/-- A connection response completes the callback if the tag is right. -/
lemma accounts_connectionRes1 (C : c.books.Consistent none)
    (pubkey nonce peerNonce authTag : DhtKey) :
    Accounts c (c.connectionRes1 S env sockaddr pubkey nonce peerNonce authTag) [] := by
  unfold connectionRes1
  dsimp only
  split
  · exact ⟨rfl, fun _ => rfl⟩
  · rename_i k here
    obtain ⟨rfl, _⟩ := C.connection _ _ here
    split
    · exact ⟨rfl, fun _ => rfl⟩
    · split
      · exact ⟨rfl, fun _ => rfl⟩
      · rename_i shared _
        -- the connection keeps its result while its keys are written
        generalize e : ({ k with
            encKey := some (DhtKey.derive S shared k.nonce nonce).1
            decKey := some (DhtKey.derive S shared nonce k.nonce).1
            authTag := some (DhtKey.derive S shared nonce k.nonce).2
            session := some ⟨pubkey, shared, k.nonce, nonce⟩ } : DhtConnection) = k'
        have id : k'.nonce = k.nonce := by rw [← e]
        have result : k'.result = k.result := by rw [← e]
        have A : Accounts c
            ((c.act (.derive ⟨pubkey, shared, k.nonce, nonce⟩)).putConnection k') [] :=
          (accounts_act _).trans_nil (accounts_putConnection (k := k) k' here id result)
        have here' : ((c.act (.derive ⟨pubkey, shared, k.nonce, nonce⟩)).putConnection
            k').connectionTable k'.nonce = some k' := Function.update_self _ _ _
        generalize (c.act (.derive ⟨pubkey, shared, k.nonce, nonce⟩)).putConnection k' = c'
          at A here'
        rw [← result, ← id]
        split
        · exact A
        · split
          · exact A
          · -- the result leaves the table and is completed
            refine A.trans_nil ?_
            split
            · rename_i r er
              refine Accounts.trans_nil ?_ (accounts_complete ?_ er _)
              · exact ⟨rfl, fun _ => rfl⟩
              · exact here'
            · rename_i er
              refine Accounts.trans_nil ?_ (accounts_connectionSteal ?_ er)
              · exact ⟨rfl, fun _ => rfl⟩
              · exact here'

lemma accounts_connectionRes2 (C : c.books.Consistent none) (peerNonce authTag : DhtKey) :
    Accounts c (c.connectionRes2 sockaddr peerNonce authTag) [] := by
  unfold connectionRes2
  dsimp only
  split
  · exact ⟨rfl, fun _ => rfl⟩
  · rename_i k here
    obtain ⟨rfl, _⟩ := C.connection _ _ here
    split
    · exact ⟨rfl, fun _ => rfl⟩
    · refine ⟨Eq.trans accounts_connectionDestroy.calls (by split <;> rfl), fun x => ?_⟩
      rw [accounts_connectionDestroy.places]
      have f := places_connectionSteal here x
      split
      · exact f
      · exact f

lemma accounts_receive (C : c.books.Consistent none) (w : WordSize) (memory : Nat → UInt8)
    (len : Nat) : Accounts c (c.receive S random env w memory len sockaddr) [] := by
  unfold receive
  split
  · rename_i m _
    cases m with
    | lookupReq srcid dstid => exact accounts_lookupReq env sockaddr srcid dstid
    | lookupRes srcid dstid nodes => exact accounts_lookupRes random env sockaddr C srcid dstid nodes
    | connectionReq pubkey nonce => exact accounts_connectionReq S random env sockaddr pubkey nonce
    | connectionRes1 pubkey nonce peerNonce authTag =>
      exact accounts_connectionRes1 S env sockaddr C pubkey nonce peerNonce authTag
    | connectionRes2 peerNonce authTag => exact accounts_connectionRes2 sockaddr C peerNonce authTag
  · exact ⟨rfl, fun _ => rfl⟩

end Receive

/-! ## Timeouts -/

/-- A timeout completes the callback of a connection. -/
lemma accounts_fire (C : c.books.Consistent none) (env : Env) (source : Nat) :
    Accounts c (c.fire env source) [] := by
  unfold fire
  split
  · rename_i id addr _
    unfold queryTimeout
    split
    · exact ⟨rfl, fun _ => rfl⟩
    · rename_i l here
      obtain ⟨rfl, _⟩ := C.lookup _ _ here
      split
      · exact ⟨rfl, fun _ => rfl⟩
      · rename_i q _
        refine Accounts.trans_nil ?_ (accounts_lookupDispatch (Function.update_self _ _ _))
        have A := accounts_putLookup (c := c) { l.setQuery { q with
            isFinished := true, timeoutSource := 0 } with
          numSources := guintDec l.numSources } here rfl rfl
        exact ⟨A.calls, A.places⟩
  · rename_i nonce _
    unfold connectionTimeout
    split
    · exact ⟨rfl, fun _ => rfl⟩
    · rename_i k here
      obtain ⟨rfl, _⟩ := C.connection _ _ here
      -- the result is completed before the connection gives it up
      have put : ∀ c' : DhtClient, c'.connectionTable = c.connectionTable → ∀ x,
          (c'.putConnection { k with result := none, timeoutSource := 0 }).places x +
            k.result.toList.count x = c'.places x := by
        intro c' same x
        have f := places_putConnection (c := c')
          (k := { k with result := none, timeoutSource := 0 }) x
        rw [same, show c.connectionTable k.nonce = some k from here] at f
        exact f
      refine Accounts.then_nil ?_ (accounts_connectionRemove (k := { k with
        result := none, timeoutSource := 0 }) (Function.update_self _ _ _))
      split
      · rename_i r er
        refine ⟨rfl, fun x => ?_⟩
        have f := put ((c.sourceRemove source).act
          (.completeInIdle r ⟨.timedOut, "Operation timed out"⟩)) rfl x
        rw [(accounts_act _).places, er] at f
        exact Nat.add_right_cancel f
      · rename_i er
        refine ⟨rfl, fun x => ?_⟩
        have f := put (c.sourceRemove source) rfl x
        rw [er] at f
        exact f
  · exact ⟨rfl, fun _ => rfl⟩

end Functions

/-! ## Runs -/

section Runs

variable {c : DhtClient}

/-- One event adds the callback of its call, if it is one. -/
lemma accounts_step (S : Sodium) (w : WordSize) (random : Nat → DhtKey)
    (C : c.books.Consistent none) (env : Env) (e : Event) :
    (c.step S w random env e).calls = c.calls + e.isCall.toNat ∧
    ∀ x, (c.step S w random env e).places x =
      c.places x + if e.isCall = true ∧ c.calls = x then 1 else 0 := by
  have quiet : ∀ {c' : DhtClient}, e.isCall = false → Accounts c c' [] →
      c'.calls = c.calls + e.isCall.toNat ∧
      ∀ x, c'.places x = c.places x + if e.isCall = true ∧ c.calls = x then 1 else 0 := by
    intro c' no A
    simp [no, A.calls, A.places]
  cases e with
  | lookupAsync id =>
    have A := accounts_lookupAsync random C env.searchTime id
    refine ⟨A.calls, fun x => ?_⟩
    refine (A.places x).trans ?_
    rw [List.count_singleton]
    simp only [Event.isCall, true_and, beq_iff_eq]
    rfl
  | bootstrap address => exact quiet rfl (accounts_bootstrap random C address)
  | setListen listen => exact quiet rfl ⟨rfl, fun _ => rfl⟩
  | refresh nbits drawn => exact quiet rfl (accounts_refresh random _ nbits drawn)
  | receive memory len sockaddr =>
    exact quiet rfl (accounts_receive S random env sockaddr C w memory len)
  | timeout source => exact quiet rfl (accounts_fire C env source)

/-- Every call made has one place, and nothing else has any. -/
lemma places_run (S : Sodium) (w : WordSize) (random : Nat → DhtKey) (key : DhtKey)
    (events : List (Env × Event)) :
    (run S w random key events).calls = events.countP (·.2.isCall) ∧
    ∀ x, (run S w random key events).places x =
      if x < (run S w random key events).calls then 1 else 0 := by
  induction events using List.reverseRecOn with
  | nil =>
    refine ⟨rfl, fun x => ?_⟩
    simp [places, completions, run, new]
  | append_singleton events e ih =>
    obtain ⟨calls, places⟩ := accounts_step S w random
      (run_consistent S w random key events) e.1 e.2
    rw [run_concat, calls]
    constructor
    · rw [ih.1, List.countP_append, List.countP_singleton]
      cases e.2.isCall <;> rfl
    · intro x
      rw [places, ih.2]
      cases e.2.isCall with
      | false => simp
      | true =>
        simp only [true_and, Bool.toNat_true]
        split <;> split <;> split <;> omega

/-- A callback that is completed with a connection is completed by nothing else. -/
lemma completed_once (S : Sodium) (w : WordSize) (random : Nat → DhtKey) (key : DhtKey)
    (events : List (Env × Event)) {r : Nat} {k : DhtConnection}
    (completed : .complete r k ∈ (run S w random key events).log) :
    (run S w random key events).completions.count r = 1 ∧
      ∀ error, .completeInIdle r error ∉ (run S w random key events).log := by
  have places := (places_run S w random key events).2 r
  generalize run S w random key events = c at completed places ⊢
  have one : c.completions.count r ≤ 1 := by
    unfold DhtClient.places at places
    split at places <;> omega
  obtain ⟨later, earlier, log⟩ := List.append_of_mem completed
  have split : c.completions.count r = (later.flatMap Action.completed).count r +
      ((earlier.flatMap Action.completed).count r + 1) := by
    rw [completions, log, List.flatMap_append, List.count_append, List.flatMap_cons,
      List.count_append]
    simp [Action.completed, Nat.add_comm]
  refine ⟨by omega, fun error mem => ?_⟩
  have counted : ∀ actions : List Action, .completeInIdle r error ∈ actions →
      0 < (actions.flatMap Action.completed).count r := fun actions mem =>
    List.count_pos_iff.mpr (List.mem_flatMap.mpr ⟨_, mem, List.mem_singleton_self r⟩)
  rw [log, List.mem_append, List.mem_cons] at mem
  rcases mem with mem | e | mem
  · have pos := counted later mem
    omega
  · cases e
  · have pos := counted earlier mem
    omega

/-! ## Places -/

/-- The callback waits in this lookup, and the lookup has an armed query. -/
def InLookup (c : DhtClient) (x : Nat) (id : DhtId) : Prop :=
  ∃ l, c.lookupTable id = some l ∧ l.results.count x = 1 ∧
    ∃ q ∈ l.querySequence, q.timeoutSource ≠ 0 ∧
      c.sources q.timeoutSource = some (.query id q.iter)

/-- The callback waits for this connection, made by the client, and its timeout is armed. -/
def InConnection (c : DhtClient) (x : Nat) (nonce : DhtKey) : Prop :=
  ∃ k, c.connectionTable nonce = some k ∧ k.result = some x ∧ k.isRemote = false ∧
    k.timeoutSource ≠ 0 ∧ c.sources k.timeoutSource = some (.connection nonce)

/-- The lookups that a callback waits in. -/
def lookupsOf (c : DhtClient) (x : Nat) : Set DhtId :=
  { id | ∃ l, c.lookupTable id = some l ∧ x ∈ l.results }

/-- The connections that a callback waits for. -/
def connectionsOf (c : DhtClient) (x : Nat) : Set DhtKey :=
  { nonce | ∃ k, c.connectionTable nonce = some k ∧ k.result = some x }

/-- A callback in a lookup is not stranded. -/
lemma inLookup_of_tally (C : c.books.Consistent none) {x : Nat}
    (one : tally c.lookupTable (fun l => l.results.count x) = 1) :
    ∃ id, c.InLookup x id ∧ c.lookupsOf x = {id} := by
  obtain ⟨id, l, here, pos⟩ := exists_of_tally (one ▸ Nat.one_pos)
  obtain ⟨rfl, S⟩ := C.lookup _ _ here
  have le := le_tally (fun l : DhtLookup => l.results.count x) here
  refine ⟨l.id, ⟨l, here, by omega, ?_⟩, ?_⟩
  · -- the counter of armed queries is not zero
    have armed : 0 < DhtLookup.countArmed l.querySequence := by
      rw [← S.numSources]
      exact Nat.pos_of_ne_zero (C.busy _ _ here nofun)
    obtain ⟨q, mem, ne⟩ := List.countP_pos_iff.mp armed
    have ne : q.timeoutSource ≠ 0 := of_decide_eq_true ne
    have recorded : c.books.timerOf (.query l.id q.iter) = q.timeoutSource :=
      (Books.Consistent.timerOf_query here _).trans (DhtLookup.timer_of_mem S.iters mem)
    refine ⟨q, mem, ne, ?_⟩
    have source := C.timers.source (recorded.trans_ne ne)
    rwa [recorded] at source
  · ext id
    constructor
    · rintro ⟨l', here', mem⟩
      exact eq_of_tally (Nat.le_of_eq one) here' here (List.count_pos_iff.mpr mem) pos
    · rintro rfl
      exact ⟨l, here, List.count_pos_iff.mp pos⟩

/-- A callback that waits for a connection is not stranded. -/
lemma inConnection_of_tally (C : c.books.Consistent none) {x : Nat}
    (one : tally c.connectionTable (fun k => k.result.toList.count x) = 1) :
    ∃ nonce, c.InConnection x nonce ∧ c.connectionsOf x = {nonce} := by
  have mem_iff : ∀ {k : DhtConnection}, 0 < k.result.toList.count x ↔ k.result = some x := by
    intro k
    rw [List.count_pos_iff, Option.mem_toList]
  obtain ⟨nonce, k, here, pos⟩ := exists_of_tally (one ▸ Nat.one_pos)
  obtain ⟨rfl, ne, role⟩ := C.connection _ _ here
  have result := mem_iff.mp pos
  refine ⟨k.nonce, ⟨k, here, result, ?_, ne, ?_⟩, ?_⟩
  · rw [result] at role
    simpa using role
  · have recorded : c.books.timerOf (.connection k.nonce) = k.timeoutSource := by
      simp [Books.timerOf, books, here]
    have source := C.timers.source (recorded.trans_ne ne)
    rwa [recorded] at source
  · ext nonce
    constructor
    · rintro ⟨k', here', result'⟩
      exact eq_of_tally (Nat.le_of_eq one) here' here (mem_iff.mpr result') pos
    · rintro rfl
      exact ⟨k, here, result⟩

/-- No lookup has a callback that is counted nowhere. -/
lemma lookupsOf_eq_empty {x : Nat} (zero : tally c.lookupTable (fun l => l.results.count x) = 0) :
    c.lookupsOf x = ∅ := by
  rw [Set.eq_empty_iff_forall_notMem]
  rintro id ⟨l, here, mem⟩
  have le := le_tally (fun l : DhtLookup => l.results.count x) here
  have pos := List.count_pos_iff.mpr mem
  omega

lemma connectionsOf_eq_empty {x : Nat}
    (zero : tally c.connectionTable (fun k => k.result.toList.count x) = 0) :
    c.connectionsOf x = ∅ := by
  rw [Set.eq_empty_iff_forall_notMem]
  rintro nonce ⟨k, here, result⟩
  have le := le_tally (fun k : DhtConnection => k.result.toList.count x) here
  simp [zero, result] at le

/-- After every run, every callback handed to `dht_client_lookup_async` is in exactly one place:
    completed once; in one lookup, which has a query with an armed timeout; or waiting for one
    connection of the client, whose timeout is armed. -/
theorem callback_placed (S : Sodium) (w : WordSize) (random : Nat → DhtKey) (key : DhtKey)
    (events : List (Env × Event)) (x : Nat) (call : x < events.countP (·.2.isCall)) :
    let c := run S w random key events
    (c.completions.count x = 1 ∧ c.lookupsOf x = ∅ ∧ c.connectionsOf x = ∅) ∨
    (c.completions.count x = 0 ∧ (∃ id, c.InLookup x id ∧ c.lookupsOf x = {id}) ∧
      c.connectionsOf x = ∅) ∨
    (c.completions.count x = 0 ∧ c.lookupsOf x = ∅ ∧
      ∃ nonce, c.InConnection x nonce ∧ c.connectionsOf x = {nonce}) := by
  intro c
  have C : c.books.Consistent none := run_consistent S w random key events
  obtain ⟨calls, all⟩ := places_run S w random key events
  have one : c.places x = 1 := (all x).trans (if_pos (calls ▸ call))
  unfold places at one
  rcases Nat.lt_or_ge 0 (c.completions.count x) with done | open_
  · left
    exact ⟨by omega, lookupsOf_eq_empty (by omega), connectionsOf_eq_empty (by omega)⟩
  · right
    rcases Nat.lt_or_ge 0 (tally c.lookupTable fun l => l.results.count x) with wait | no
    · left
      exact ⟨by omega, inLookup_of_tally C (by omega), connectionsOf_eq_empty (by omega)⟩
    · right
      exact ⟨by omega, lookupsOf_eq_empty (by omega), inConnection_of_tally C (by omega)⟩

/-- A request makes node 2 known to client 1, which then looks up node 3. -/
def lookupRun : List (Env × Event) :=
  [(⟨0, 0, false⟩, .message (.lookupReq ⟨fun i => if i.val = 0 then 2 else 0⟩ ⟨fun _ => 0⟩)
      ⟨.ipv4 fun _ => 7, 5004⟩),
    (⟨0, 0, false⟩, .lookupAsync ⟨fun i => if i.val = 0 then 3 else 0⟩)]

/-- The callback of `lookupRun` waits in a lookup with an armed query. -/
theorem callback_waits : ∃ id, (run Sodium.transparent .w64 (fun _ => ⟨fun _ => 0⟩)
    ⟨fun i => if i.val = 0 then 1 else 0⟩ lookupRun).InLookup 0 id := by
  rcases callback_placed Sodium.transparent .w64 (fun _ => ⟨fun _ => 0⟩)
    ⟨fun i => if i.val = 0 then 1 else 0⟩ lookupRun 0 (by decide) with ⟨done, _⟩ | ⟨_, h, _⟩ | ⟨_, _, h⟩
  · exact absurd done (by decide +kernel)
  · obtain ⟨id, h, _⟩ := h
    exact ⟨id, h⟩
  · -- no connection was made
    obtain ⟨nonce, ⟨k, here, _⟩, _⟩ := h
    exact absurd here nofun

end Runs

end DhtClient

end Nanotalk
