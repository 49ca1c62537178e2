import Nanotalk.Dht.Network

/-!
# Forged connection responses

The handler of connection responses writes the keys it derives into the pending connection before it
verifies the authentication tag. Nothing reads them before they are overwritten: a client and its
`visible` part, which is without the keys of the pending connections that it made and without the
history of what it derived, take the same steps (`visible_step`), and a response that is rejected
changes nothing visible (`forged_visible`). So any number of forgeries may be left out of a run
(`forgeries_invisible`).
-/

namespace Nanotalk
open Glib
open DhtClient (Env)

/-- An entry in the history of what was derived. -/
def Action.hidden : Action → Bool
  | derive _ => true
  | _ => false

/-- A connection without its keys, if the client made it. -/
def DhtConnection.visible (k : DhtConnection) : DhtConnection :=
  if k.isRemote then k
  else { k with encKey := none, decKey := none, authTag := none, session := none }

namespace DhtConnection

variable {k : DhtConnection}

/-- The id can be seen. -/
@[simp] lemma id_visible : k.visible.id = k.id := by
  unfold visible
  split <;> rfl

/-- The own nonce can be seen. -/
@[simp] lemma nonce_visible : k.visible.nonce = k.nonce := by
  unfold visible
  split <;> rfl

/-- The role can be seen. -/
@[simp] lemma isRemote_visible : k.visible.isRemote = k.isRemote := by
  unfold visible
  split <;> rfl

/-- The timeout can be seen. -/
@[simp] lemma timeoutSource_visible : k.visible.timeoutSource = k.timeoutSource := by
  unfold visible
  split <;> rfl

/-- The callback can be seen. -/
@[simp] lemma result_visible : k.visible.result = k.result := by
  unfold visible
  split <;> rfl

/-- The address can be seen. -/
@[simp] lemma sockaddr_visible : k.visible.sockaddr = k.sockaddr := by
  unfold visible
  split <;> rfl

/-- All of a connection that the peer requested can be seen. -/
lemma visible_of_remote (remote : k.isRemote = true) : k.visible = k := if_pos remote

/-- The keys of a connection that the client requested cannot. -/
lemma visible_of_own (own : k.isRemote = false) :
    k.visible = { k with encKey := none, decKey := none, authTag := none, session := none } :=
  if_neg (by simp [own])

/-- What can be seen of what can be seen. -/
@[simp] lemma visible_visible : k.visible.visible = k.visible := by
  cases role : k.isRemote with
  | true => rw [visible_of_remote role, visible_of_remote role]
  | false =>
    rw [visible_of_own role]
    exact visible_of_own role

end DhtConnection

namespace DhtClient

/-- What others can see of a client. -/
def visible (c : DhtClient) : DhtClient :=
  { c with
    connectionTable := fun nonce => (c.connectionTable nonce).map DhtConnection.visible
    log := c.log.filter fun action => !action.hidden }

variable {c : DhtClient} {l : DhtLookup} {k : DhtConnection}

/-- What can be seen of what can be seen. -/
@[simp] lemma visible_visible : c.visible.visible = c.visible := by
  simp [visible, Function.comp_def]

/-- What can be seen of a client is what can be seen of it again. -/
lemma visible_of_eq {x y : DhtClient} (e : x.visible = y) : x.visible = y.visible := by
  rw [← e, visible_visible]

/-- An action that is not hidden. -/
lemma visible_act (action : Action) (shown : action.hidden = false) :
    (c.act action).visible = c.visible.act action := by
  simp [visible, act, shown]

/-- A hidden action. -/
lemma visible_act_hidden (action : Action) (hidden : action.hidden = true) :
    (c.act action).visible = c.visible := by
  simp [visible, act, hidden]

/-- A loop whose rounds take what can be seen to what can be seen. -/
lemma visible_foldl (f : DhtClient → Nat → DhtClient)
    (one : ∀ c r, (f c r).visible = f c.visible r) (results : List Nat) :
    (results.foldl f c).visible = results.foldl f c.visible := by
  induction results generalizing c with
  | nil => rfl
  | cons r rs ih => rw [List.foldl_cons, List.foldl_cons, ih, one]

/-- Lookups can be seen. -/
lemma visible_putLookup : (c.putLookup l).visible = c.visible.putLookup l := rfl

/-- Timeouts can be seen. -/
lemma visible_sourceRemove (source : Nat) :
    (c.sourceRemove source).visible = c.visible.sourceRemove source := rfl

/-- An entry of `connection_table`, of which a part can be seen. -/
lemma visible_update_table (nonce : DhtKey) (k : Option DhtConnection) :
    (fun n => (Function.update c.connectionTable nonce k n).map DhtConnection.visible) =
      Function.update c.visible.connectionTable nonce (k.map DhtConnection.visible) := by
  funext n
  by_cases e : n = nonce
  · subst e
    simp
  · simp [e, visible]

/-- A connection is put back. -/
lemma visible_putConnection :
    (c.putConnection k).visible = c.visible.putConnection k.visible := by
  rw [putConnection, putConnection, visible, DhtConnection.nonce_visible]
  dsimp only
  rw [visible_update_table]
  rfl

/-- A connection is taken out. -/
lemma visible_connectionSteal (nonce : DhtKey) :
    (c.connectionSteal nonce).visible = c.visible.connectionSteal nonce := by
  rw [connectionSteal, connectionSteal, visible]
  dsimp only
  rw [visible_update_table]
  rfl

/-! Destroy callbacks. -/

/-- A callback is cancelled. -/
lemma visible_resultDestroy (result : Nat) :
    (c.resultDestroy result).visible = c.visible.resultDestroy result :=
  visible_act _ rfl

/-- A lookup is destroyed. -/
lemma visible_lookupDestroy : (c.lookupDestroy l).visible = c.visible.lookupDestroy l := by
  unfold lookupDestroy
  rw [visible_foldl _ (fun _ _ => visible_resultDestroy _), queryDestroy_foldl, queryDestroy_foldl]
  rfl

/-- A lookup is removed. -/
lemma visible_lookupRemove (id : DhtId) :
    (c.lookupRemove id).visible = c.visible.lookupRemove id := by
  have same : c.visible.lookupTable id = c.lookupTable id := rfl
  unfold lookupRemove
  rw [same]
  split
  · exact visible_lookupDestroy
  · rfl

/-- A lookup replaces another one. -/
lemma visible_lookupReplace : (c.lookupReplace l).visible = c.visible.lookupReplace l := by
  have same : c.visible.lookupTable l.id = c.lookupTable l.id := rfl
  unfold lookupReplace
  rw [same]
  split
  · exact visible_lookupDestroy
  · rfl

/-- A connection is destroyed, for which its keys do not matter. -/
lemma visible_connectionDestroy :
    (c.connectionDestroy k).visible = c.visible.connectionDestroy k.visible := by
  have dropped : (if k.timeoutSource > 0 then c.sourceRemove k.timeoutSource else c).visible =
      if k.timeoutSource > 0 then c.visible.sourceRemove k.timeoutSource else c.visible := by
    split <;> rfl
  unfold connectionDestroy
  rw [DhtConnection.timeoutSource_visible, DhtConnection.result_visible]
  dsimp only
  cases k.result with
  | none => exact dropped
  | some result => exact (visible_resultDestroy result).trans (congrArg (resultDestroy · result) dropped)

/-- A connection is removed. -/
lemma visible_connectionRemove (nonce : DhtKey) :
    (c.connectionRemove nonce).visible = c.visible.connectionRemove nonce := by
  have same : c.visible.connectionTable nonce = (c.connectionTable nonce).map .visible := rfl
  unfold connectionRemove
  rw [same]
  cases c.connectionTable nonce with
  | none => rfl
  | some k =>
    dsimp only [Option.map_some]
    rw [visible_connectionDestroy, visible_connectionSteal]

/-- A connection replaces another one. -/
lemma visible_connectionReplace :
    (c.connectionReplace k).visible = c.visible.connectionReplace k.visible := by
  have same : c.visible.connectionTable k.nonce = (c.connectionTable k.nonce).map .visible := rfl
  unfold connectionReplace
  rw [DhtConnection.nonce_visible, same]
  cases c.connectionTable k.nonce with
  | none => exact visible_putConnection
  | some old =>
    dsimp only [Option.map_some]
    rw [visible_connectionDestroy, visible_putConnection]

/-! Lookups. -/

/-- A query is sent. -/
lemma visible_requestQuery (q : DhtQuery) :
    (c.requestQuery l q).visible = c.visible.requestQuery l q := by
  rw [requestQuery, visible_putLookup]
  rfl

/-- Queries are sent. -/
lemma visible_dispatchLoop (todo : List DhtQuery) (numAlive : Nat) :
    dispatchLoop todo c.visible l numAlive =
      ((dispatchLoop todo c l numAlive).1.visible, (dispatchLoop todo c l numAlive).2) := by
  induction todo generalizing c l numAlive with
  | nil => rfl
  | cons q rest ih =>
    unfold dispatchLoop
    split
    · dsimp only
      split
      · have e := ih (c := c.requestQuery l q) (l := l.request q c.nextSource)
          (if q.isAlive then guintInc numAlive else numAlive)
        rw [visible_requestQuery] at e
        exact e
      · exact ih _
    · rfl

/-- A lookup goes on, or fails. -/
lemma visible_lookupDispatch : (c.lookupDispatch l).visible = c.visible.lookupDispatch l := by
  unfold lookupDispatch
  rw [visible_dispatchLoop]
  dsimp only
  split
  · rw [visible_lookupRemove, visible_putLookup,
      visible_foldl _ (fun _ _ => visible_act _ rfl), visible_act _ rfl]
  · rfl

section Random

variable (random : Nat → DhtKey)

/-- A message with the client's public key is sent. -/
lemma visible_send (socket : Nat) (dest : Option GSocketAddress) (msg : DhtKey → Msg) :
    (c.act (.sendTo socket dest (msg c.pubkey))).visible =
      c.visible.act (.sendTo socket dest (msg c.visible.pubkey)) :=
  visible_act _ rfl

/-- A connection is requested. -/
lemma visible_requestConnection (id : DhtId) (addr : DhtAddress) (result : Nat) :
    (c.requestConnection random id addr result).visible =
      c.visible.requestConnection random id addr result := by
  unfold requestConnection
  dsimp only
  refine (visible_send _ _ (.connectionReq · _)).trans ?_
  rw [visible_connectionReplace]
  rfl

/-- A lookup takes nodes, or has found its node. -/
lemma visible_updateLoop (nodes : List MsgNode) :
    (c.updateLoop random l nodes).visible = c.visible.updateLoop random l nodes := by
  have own : c.visible.id = c.id := rfl
  induction nodes generalizing c l with
  | nil => exact visible_lookupDispatch
  | cons node nodes ih =>
    unfold updateLoop
    rw [own]
    split
    · exact ih own
    · split
      · rw [visible_lookupRemove, visible_putLookup,
          visible_foldl _ (fun _ _ => visible_requestConnection random _ _ _)]
      · exact ih (c := c.putLookup _) rfl

/-- A lookup takes nodes. -/
lemma visible_lookupUpdate (nodes : List MsgNode) :
    (c.lookupUpdate random l nodes).visible = c.visible.lookupUpdate random l nodes := by
  rw [lookupUpdate, visible_updateLoop, visible_act _ rfl]
  rfl

/-- A node is looked up. -/
lemma visible_lookupAsync (now : Int) (id : DhtId) :
    (c.lookupAsync random now id).visible = c.visible.lookupAsync random now id := by
  have own : c.visible.id = c.id := rfl
  have same : c.visible.lookupTable id = c.lookupTable id := rfl
  unfold lookupAsync
  dsimp only
  rw [own, same]
  split
  · exact visible_act _ rfl
  · split
    · rfl
    · exact visible_lookupUpdate random _

/-- The client is bootstrapped. -/
lemma visible_bootstrap (address : GSocketAddress) :
    (c.bootstrap random address).visible = c.visible.bootstrap random address := by
  have own : c.visible.id = c.id := rfl
  have same : c.visible.lookupTable c.id = c.lookupTable c.id := rfl
  unfold bootstrap
  dsimp only
  rw [own, same]
  split
  · exact visible_lookupUpdate random _
  · exact visible_lookupUpdate random _

/-- The table is refreshed. -/
lemma visible_refresh (now : Int) (nbits : Nat) (drawn : Nat → UInt8) :
    (c.refresh random now nbits drawn).visible = c.visible.refresh random now nbits drawn := by
  unfold refresh
  dsimp only
  generalize replaced : (c.act _).lookupReplace _ = b
  generalize replaced' : (c.visible.act _).lookupReplace _ = b'
  have same : b.visible = b' := by
    rw [← replaced, ← replaced', visible_lookupReplace, visible_act _ rfl]
    rfl
  rw [visible_lookupUpdate, ← same]
  rfl

end Random

/-! Datagrams. -/

section Receive

variable (S : Sodium) (random : Nat → DhtKey) (env : Env) (sockaddr : GSocketAddress)

/-- A lookup request is replied to. -/
lemma visible_lookupReq (srcid dstid : DhtId) :
    (c.lookupReq env sockaddr srcid dstid).visible =
      c.visible.lookupReq env sockaddr srcid dstid := by
  have own : c.visible.id = c.id := rfl
  unfold lookupReq
  rw [own]
  split
  · rfl
  · exact visible_act _ rfl

/-- A lookup response is taken. -/
lemma visible_lookupRes (srcid dstid : DhtId) (nodes : List MsgNode) :
    (c.lookupRes random env sockaddr srcid dstid nodes).visible =
      c.visible.lookupRes random env sockaddr srcid dstid nodes := by
  have own : c.visible.id = c.id := rfl
  have same : ∀ id addr, (c.visible.update env.updateTime id addr true).lookupTable =
    (c.update env.updateTime id addr true).lookupTable := fun _ _ => rfl
  unfold lookupRes
  rw [own]
  split
  · rfl
  · dsimp only
    rw [same]
    split
    · rfl
    · split
      · rfl
      · rw [visible_lookupUpdate]
        split
        · exact congrArg (lookupUpdate random · _ nodes) (congrArg (putLookup · _)
            (congrArg (sourceRemove · _) (visible_act _ rfl)))
        · exact congrArg (lookupUpdate random · _ nodes) (congrArg (putLookup · _)
            (visible_act _ rfl))

/-- A connection request is answered. -/
lemma visible_connectionReq (pubkey nonce : DhtKey) :
    (c.connectionReq S random env sockaddr pubkey nonce).visible =
      c.visible.connectionReq S random env sockaddr pubkey nonce := by
  have own : c.visible.id = c.id := rfl
  have priv : c.visible.privkey = c.privkey := rfl
  have listen : c.visible.listen = c.listen := rfl
  unfold connectionReq
  dsimp only
  rw [own, priv, listen]
  split
  · rfl
  · split
    · split
      · rfl
      · split
        · rfl
        · refine (visible_send _ _ (.connectionRes1 · _ _ _)).trans ?_
          rw [visible_connectionReplace, DhtConnection.visible_of_remote rfl]
          rfl
    · rfl

/-- The number of the next socket can be seen. -/
lemma socketNew_of_visible {x x' : DhtClient} (same : x.visible = x'.visible) :
    x.socketNew.1 = x'.socketNew.1 :=
  show x.visible.nextSocket = x'.visible.nextSocket from congrArg _ same

/-- What is done with an accepted response, before the result is completed. -/
lemma visible_answer {x x' : DhtClient} (same : x.visible = x'.visible)
    (dest : Option GSocketAddress) (msg : Msg) (source : Nat) (nonce : DhtKey) :
    ((((x.socketNew.2.act (.sendTo x.socketNew.1 dest msg)).sourceRemove source).act
      (.connect (some x.socketNew.1) sockaddr)).connectionSteal nonce).visible =
    ((((x'.socketNew.2.act (.sendTo x'.socketNew.1 dest msg)).sourceRemove source).act
      (.connect (some x'.socketNew.1) sockaddr)).connectionSteal nonce).visible := by
  have socket := socketNew_of_visible same
  have made : x.socketNew.2.visible = x'.socketNew.2.visible :=
    congrArg (fun y => (socketNew y).2) same
  rw [visible_connectionSteal, visible_connectionSteal, visible_act _ rfl, visible_act _ rfl,
    visible_sourceRemove, visible_sourceRemove, visible_act _ rfl, visible_act _ rfl, made, socket]

/-- A connection response overwrites the keys that cannot be seen before it uses them. -/
lemma visible_connectionRes1 (pubkey nonce peerNonce authTag : DhtKey) :
    (c.connectionRes1 S env sockaddr pubkey nonce peerNonce authTag).visible =
      (c.visible.connectionRes1 S env sockaddr pubkey nonce peerNonce authTag).visible := by
  have priv : c.visible.privkey = c.privkey := rfl
  have same : c.visible.connectionTable peerNonce = (c.connectionTable peerNonce).map .visible := rfl
  unfold connectionRes1
  dsimp only
  rw [priv, same]
  cases c.connectionTable peerNonce with
  | none => exact visible_visible.symm
  | some k =>
    dsimp only [Option.map_some]
    rw [DhtConnection.isRemote_visible, DhtConnection.id_visible]
    split
    · exact visible_visible.symm
    · rename_i own
      obtain ⟨own, -⟩ := not_or.mp own
      rw [DhtConnection.visible_of_own (Bool.eq_false_iff.mpr own)]
      split
      · exact visible_visible.symm
      · rename_i shared _
        generalize written : ({ k with
            encKey := some (DhtKey.derive S shared k.nonce nonce).1
            decKey := some (DhtKey.derive S shared nonce k.nonce).1
            authTag := some (DhtKey.derive S shared nonce k.nonce).2
            session := some ⟨pubkey, shared, k.nonce, nonce⟩ } : DhtConnection) = k'
        -- the keys that were there before are overwritten
        have same : ((c.act (.derive ⟨pubkey, shared, k.nonce, nonce⟩)).putConnection k').visible =
            ((c.visible.act (.derive ⟨pubkey, shared, k.nonce, nonce⟩)).putConnection k').visible := by
          rw [visible_putConnection, visible_putConnection, visible_act_hidden _ rfl,
            visible_act_hidden _ rfl, visible_visible]
        generalize (c.act (.derive ⟨pubkey, shared, k.nonce, nonce⟩)).putConnection k' = x at same ⊢
        generalize (c.visible.act (.derive ⟨pubkey, shared, k.nonce, nonce⟩)).putConnection k' = x'
          at same ⊢
        dsimp only
        split
        · exact same
        · split
          · exact same
          · cases k.result with
            | none => exact visible_answer sockaddr same _ _ _ _
            | some result =>
              dsimp only
              rw [visible_act _ rfl, visible_act _ rfl, visible_answer sockaddr same,
                socketNew_of_visible same]

/-- A confirmation is for a connection that can be seen. -/
lemma visible_connectionRes2 (peerNonce authTag : DhtKey) :
    (c.connectionRes2 sockaddr peerNonce authTag).visible =
      c.visible.connectionRes2 sockaddr peerNonce authTag := by
  have listen : c.visible.listen = c.listen := rfl
  have same : c.visible.connectionTable peerNonce = (c.connectionTable peerNonce).map .visible := rfl
  unfold connectionRes2
  rw [same]
  cases c.connectionTable peerNonce with
  | none => rfl
  | some k =>
    dsimp only [Option.map_some]
    cases role : k.isRemote with
    | false =>
      rw [DhtConnection.isRemote_visible, role]
      rfl
    | true =>
      rw [DhtConnection.visible_of_remote role, role]
      split
      · rfl
      · rw [visible_connectionDestroy, DhtConnection.visible_of_remote role, connectionSteal,
          connectionSteal]
        dsimp only
        rw [listen]
        split
        · rw [visible_act _ rfl, visible_act _ rfl]
          exact congrArg (connectionDestroy · k) (congrArg (act · (.newConnection k))
            (congrArg (act · (.connect k.socket sockaddr)) (visible_connectionSteal k.nonce)))
        · exact congrArg (connectionDestroy · k) (visible_connectionSteal k.nonce)

/-- A message. -/
lemma visible_receiveMsg (msg : Msg) :
    (c.receiveMsg S random env sockaddr msg).visible =
      (c.visible.receiveMsg S random env sockaddr msg).visible := by
  cases msg with
  | lookupReq srcid dstid => exact visible_of_eq (visible_lookupReq env sockaddr srcid dstid)
  | lookupRes srcid dstid nodes =>
    exact visible_of_eq (visible_lookupRes random env sockaddr srcid dstid nodes)
  | connectionReq pubkey nonce =>
    exact visible_of_eq (visible_connectionReq S random env sockaddr pubkey nonce)
  | connectionRes1 pubkey nonce peerNonce authTag =>
    exact visible_connectionRes1 S env sockaddr pubkey nonce peerNonce authTag
  | connectionRes2 peerNonce authTag =>
    exact visible_of_eq (visible_connectionRes2 sockaddr peerNonce authTag)

end Receive

/-! Timeouts. -/

/-- A query times out. -/
lemma visible_queryTimeout (env : Env) (id : DhtId) (iter : Nat) :
    (c.queryTimeout env id iter).visible = c.visible.queryTimeout env id iter := by
  have same : c.visible.lookupTable id = c.lookupTable id := rfl
  unfold queryTimeout
  rw [same]
  split
  · rfl
  · split
    · rfl
    · dsimp only
      rw [visible_lookupDispatch]
      exact congrArg (lookupDispatch · _) (congrArg (putLookup · _)
        (congrArg (update · env.updateTime _ _ false) (visible_act _ rfl)))

/-- A connection times out. -/
lemma visible_connectionTimeout (nonce : DhtKey) :
    (c.connectionTimeout nonce).visible = c.visible.connectionTimeout nonce := by
  have same : c.visible.connectionTable nonce = (c.connectionTable nonce).map .visible := rfl
  unfold connectionTimeout
  rw [same]
  cases c.connectionTable nonce with
  | none => rfl
  | some k =>
    have cleared : ({ k with result := none, timeoutSource := 0 } : DhtConnection).visible =
        { k.visible with result := none, timeoutSource := 0 } := by
      unfold DhtConnection.visible
      split <;> rfl
    dsimp only [Option.map_some] at cleared ⊢
    rw [visible_connectionRemove, visible_putConnection, cleared, DhtConnection.result_visible,
      DhtConnection.nonce_visible]
    split
    · rw [visible_act _ rfl]
    · rfl

/-- A timeout fires. -/
lemma visible_fire (env : Env) (source : Nat) :
    (c.fire env source).visible = c.visible.fire env source := by
  have same : c.visible.sources source = c.sources source := rfl
  unfold fire
  rw [same]
  split
  · exact visible_queryTimeout env _ _
  · exact visible_connectionTimeout _
  · rfl

/-- A client and what can be seen of it do the same. -/
theorem visible_step (S : Sodium) (w : WordSize) (random : Nat → DhtKey) (env : Env) (e : Event) :
    (c.step S w random env e).visible = (c.visible.step S w random env e).visible := by
  cases e with
  | lookupAsync id => exact visible_of_eq (visible_lookupAsync random env.searchTime id)
  | bootstrap address => exact visible_of_eq (visible_bootstrap random address)
  | setListen listen => exact visible_of_eq rfl
  | refresh nbits drawn => exact visible_of_eq (visible_refresh random env.searchTime nbits drawn)
  | receive memory len sockaddr =>
    rw [step, step, receive, receive]
    split
    · exact visible_receiveMsg S random env sockaddr _
    · exact visible_visible.symm
  | timeout source => exact visible_of_eq (visible_fire env source)

/-! ## Forgeries -/

section Forged

variable (S : Sodium) (w : WordSize) (random : Nat → DhtKey)

/-- A connection response fails one of the checks of its handler. -/
def Rejected (c : DhtClient) : Msg → Prop
  | .connectionRes1 pubkey nonce peerNonce authTag =>
    ∀ k ∈ c.connectionTable peerNonce, k.isRemote = true ∨ k.id ≠ DhtId.fromPubkey S pubkey ∨
      ∀ shared ∈ DhtKey.makeShared S c.privkey pubkey,
        (DhtKey.derive S shared nonce peerNonce).2 ≠ authTag
  | .connectionRes2 peerNonce authTag =>
    ∀ k ∈ c.connectionTable peerNonce, k.isRemote = false ∨ k.authTag ≠ some authTag
  | _ => False

/-- A datagram with the type of a connection response arrives that has the wrong length or is
    rejected. -/
def Forged (c : DhtClient) : Event → Prop
  | .receive memory len _ =>
    1 ≤ len ∧ memory 0 = MSG_CONNECTION_RES ∧ ∀ msg ∈ Msg.read w memory len, c.Rejected S msg
  | _ => False

/-- The second sequence of events is the first one with forgeries inserted, from the state `c` on. -/
inductive Forgeries : DhtClient → List (Env × Event) → List (Env × Event) → Prop
  | nil (c : DhtClient) : Forgeries c [] []
  | event {c : DhtClient} {events all : List (Env × Event)} (e : Env × Event)
    (rest : Forgeries (c.step S w random e.1 e.2) events all) : Forgeries c (e :: events) (e :: all)
  | forgery {c : DhtClient} {events all : List (Env × Event)} (e : Env × Event)
    (forged : c.Forged S w e.2) (rest : Forgeries (c.step S w random e.1 e.2) events all) :
    Forgeries c events (e :: all)

variable {S w random}

/-- A connection of which nothing changes that can be seen. -/
lemma visible_putConnection_self {k' : DhtConnection} (here : c.connectionTable k.nonce = some k)
    (same : k'.visible = k.visible) : (c.putConnection k').visible = c.visible := by
  have before : c.visible.connectionTable k.nonce = some k.visible :=
    congrArg (Option.map DhtConnection.visible) here
  rw [visible_putConnection, same, putConnection, DhtConnection.nonce_visible]
  exact congrArg (fun table => { c.visible with connectionTable := table })
    (Function.update_eq_self_iff.mpr before.symm)

/-- A rejected connection response changes nothing that can be seen. -/
lemma rejected1_visible (C : c.books.Consistent none) (env : Env) (sockaddr : GSocketAddress)
    {pubkey nonce peerNonce authTag : DhtKey}
    (rejected : c.Rejected S (.connectionRes1 pubkey nonce peerNonce authTag)) :
    (c.connectionRes1 S env sockaddr pubkey nonce peerNonce authTag).visible = c.visible := by
  unfold connectionRes1
  dsimp only
  split
  · rfl
  · rename_i k here
    obtain ⟨rfl, -⟩ := C.connection _ _ here
    split
    · rfl
    · rename_i ours
      obtain ⟨own, id⟩ := not_or.mp ours
      split
      · rfl
      · rename_i shared secret
        have wrong : (DhtKey.derive S shared nonce k.nonce).2 ≠ authTag := by
          rcases rejected k here with remote | foreign | wrong
          · exact absurd remote own
          · exact absurd foreign id
          · exact wrong shared secret
        rw [if_pos wrong]
        -- the connection that is written looks as before
        refine (visible_putConnection_self (c := c.act _) here ?_).trans (visible_act_hidden _ rfl)
        have own := Bool.eq_false_iff.mpr own
        rw [DhtConnection.visible_of_own own]
        exact DhtConnection.visible_of_own own

/-- A rejected confirmation changes nothing. -/
lemma rejected2_visible (sockaddr : GSocketAddress) {peerNonce authTag : DhtKey}
    (rejected : c.Rejected S (.connectionRes2 peerNonce authTag)) :
    c.connectionRes2 sockaddr peerNonce authTag = c := by
  unfold connectionRes2
  split
  · rfl
  · rename_i k here
    rw [if_pos]
    exact (rejected k here).imp_left fun own => by rw [own]; rfl

/-- A forgery changes nothing that can be seen. -/
theorem forged_visible (C : c.books.Consistent none) (env : Env) {e : Event}
    (forged : c.Forged S w e) : (c.step S w random env e).visible = c.visible := by
  cases e with
  | receive memory len sockaddr =>
    obtain ⟨-, -, rejected⟩ := forged
    rw [step, receive]
    split
    · rename_i msg read
      have rejected := rejected msg read
      cases msg with
      | connectionRes1 => exact rejected1_visible C env sockaddr rejected
      | connectionRes2 => exact congrArg visible (rejected2_visible sockaddr rejected)
      | _ => cases rejected
    · rfl
  | _ => cases forged

/-- Forgeries anywhere in a run change nothing that can be seen. -/
lemma Forgeries.visible {c c' : DhtClient} (C : c.books.Consistent none)
    (same : c.visible = c'.visible) {events all : List (Env × Event)}
    (forgeries : Forgeries S w random c events all) :
    (all.foldl (fun c e => c.step S w random e.1 e.2) c).visible =
      (events.foldl (fun c e => c.step S w random e.1 e.2) c').visible := by
  induction forgeries generalizing c' with
  | nil => exact same
  | event e _ ih =>
    refine ih (step_consistent S w random e.1 e.2 C) ?_
    rw [visible_step, same, ← visible_step]
  | forgery e forged _ ih =>
    exact ih (step_consistent S w random e.1 e.2 C) ((forged_visible C e.1 forged).trans same)

/-- A run with forgeries inserted ends as the run without them, but for the keys of the pending
    connections that the client made and the history of what it derived. -/
theorem forgeries_invisible (key : DhtKey) {events all : List (Env × Event)}
    (forgeries : Forgeries S w random (new S key) events all) :
    (run S w random key all).visible = (run S w random key events).visible := by
  have C : (new S key).books.Consistent none := Books.Consistent.init
  exact forgeries.visible C rfl

/-- A rejected message is a forgery. -/
lemma forged_message {msg : Msg} (rejected : c.Rejected S msg)
    (short : msg.bytes.length ≤ MSG_MTU) (sockaddr : GSocketAddress) :
    c.Forged S w (.message msg sockaddr) := by
  have read := Event.msg_message w short sockaddr
  rw [Event.message, Event.msg] at read
  rw [Event.message, Forged, read]
  refine ⟨?_, ?_, fun msg' same => Option.mem_some.mp same ▸ rejected⟩
  · cases msg <;> exact Nat.succ_pos _
  · cases msg with
    | connectionRes1 => rfl
    | connectionRes2 => rfl
    | _ => cases rejected

/-- No forgeries. -/
lemma Forgeries.self (c : DhtClient) (events : List (Env × Event)) :
    Forgeries S w random c events events := by
  induction events generalizing c with
  | nil => exact .nil c
  | cons e events ih => exact .event e (ih _)

/-- One forgery. -/
lemma Forgeries.insert {e : Env × Event} {before : List (Env × Event)} (after : List (Env × Event))
    (forged : (before.foldl (fun c e => c.step S w random e.1 e.2) c).Forged S w e.2) :
    Forgeries S w random c (before ++ after) (before ++ e :: after) := by
  induction before generalizing c with
  | nil => exact .forgery e forged (.self _ _)
  | cons e' before ih => exact .event e' (ih forged)

end Forged

/-- A client that looked up a node which it knows, so that a connection is pending. -/
def pendingRun : List (Env × Input) :=
  let id := DhtId.fromPubkey Sodium.transparent (Network.byteKey 2)
  [(⟨0, 0, false⟩, .message (.lookupReq id id) ⟨.ipv4 fun _ => 7, 5004⟩),
    (⟨0, 0, false⟩, .event (.lookupAsync id))]

/-- The response of that node, with an authentication tag. -/
def pendingAnswer (authTag : DhtKey) : Env × Input :=
  (⟨0, 0, false⟩, .message (.connectionRes1 (Network.byteKey 2) (Network.byteKey 20)
    (Network.byteKey 10) authTag) ⟨.ipv4 fun _ => 7, 5004⟩)

/-- A response to it with a wrong tag, before the right one. -/
theorem forgeries_invisible_tag :
    let tag := (DhtKey.derive Sodium.transparent (Network.byteKey 3) (Network.byteKey 20)
      (Network.byteKey 10)).2
    let run := run Sodium.transparent .w64 (Network.pair false).random (Network.byteKey 1)
    ((run (events pendingRun)).connectionTable (Network.byteKey 10)).isSome ∧
      (run (events (pendingRun ++ [pendingAnswer ⟨fun _ => 0⟩, pendingAnswer tag]))).visible =
        (run (events (pendingRun ++ [pendingAnswer tag]))).visible := by
  intro tag run
  have short : ∀ e ∈ pendingRun, e.2.Short := by
    simp +decide [pendingRun, Input.Short, Msg.bytes_length]
  have rejected : (run (events pendingRun)).Rejected Sodium.transparent
      (.connectionRes1 (Network.byteKey 2) (Network.byteKey 20) (Network.byteKey 10)
        ⟨fun _ => 0⟩) := by
    unfold run
    rw [run_events _ _ _ _ short, Rejected]
    decide +kernel
  have forged : (run (events pendingRun)).Forged Sodium.transparent .w64
      (pendingAnswer ⟨fun _ => 0⟩).2.toEvent :=
    forged_message rejected (Msg.bytes_length.trans_le (by decide)) _
  constructor
  · unfold run
    rw [run_events _ _ _ _ short]
    decide +kernel
  · unfold events
    rw [List.map_append, List.map_append]
    exact forgeries_invisible (Network.byteKey 1) (Forgeries.insert (events [pendingAnswer tag]) forged)

end DhtClient

end Nanotalk
