import Nanotalk.Dht.Correspondents
import Nanotalk.Dht.Forgery
import Nanotalk.Dht.Network

/-!
# Handshakes that come to their end

A connection that waits for a response keeps waiting, whatever happens to its client, until its timeout
fires or a response that is not rejected arrives (`step_pending`). So when the three messages of a
handshake arrive in their order, both ends are connected, whatever else the clients do and receive in
between (`handshake_completes`).
-/

namespace Nanotalk
open Glib
open DhtClient (Env)

/-- The nonce of the connection that a connection response is for. -/
def Msg.answered : Msg → Option DhtKey
  | connectionRes1 _ _ peerNonce _ => some peerNonce
  | connectionRes2 peerNonce _ => some peerNonce
  | _ => none

/-- What connections share that look alike. -/
lemma DhtConnection.same_of_visible {k k' : DhtConnection} (same : k'.visible = k.visible) :
    k'.id = k.id ∧ k'.isRemote = k.isRemote ∧ k'.result = k.result ∧ k'.sockaddr = k.sockaddr := by
  have id := congrArg DhtConnection.id same
  have role := congrArg DhtConnection.isRemote same
  have result := congrArg DhtConnection.result same
  have sockaddr := congrArg DhtConnection.sockaddr same
  simp only [id_visible, isRemote_visible, result_visible, sockaddr_visible] at id role result sockaddr
  exact ⟨id, role, result, sockaddr⟩

namespace DhtClient

/-! ## Connections that keep waiting -/

/-- An event neither lets the connection with a nonce time out nor answers it. -/
def Spares (S : Sodium) (w : WordSize) (c : DhtClient) (nonce : DhtKey) : Event → Prop
  | .receive memory len _ =>
    ∀ msg ∈ Msg.read w memory len, msg.answered = some nonce → c.Rejected S msg
  | .timeout source => c.sources source ≠ some (.connection nonce)
  | _ => True

/-- What can be seen of the connection with a nonce. -/
def pending (c : DhtClient) (nonce : DhtKey) : Option DhtConnection :=
  (c.connectionTable nonce).map DhtConnection.visible

/-- From `c` to `c'` the connection with a nonce stays as it is, unless the nonce is drawn again. -/
structure Keeps (random : Nat → DhtKey) (nonce : DhtKey) (c c' : DhtClient) : Prop where
  draws : c.draws ≤ c'.draws
  pending : (∀ d, c.draws ≤ d → d < c'.draws → random d ≠ nonce) → c'.pending nonce = c.pending nonce

variable {random : Nat → DhtKey} {nonce : DhtKey} {c c' c'' : DhtClient} {l : DhtLookup}

namespace Keeps

lemma refl (c : DhtClient) : Keeps random nonce c c := ⟨Nat.le_refl _, fun _ => rfl⟩

lemma trans (K : Keeps random nonce c c') (K' : Keeps random nonce c' c'') :
    Keeps random nonce c c'' where
  draws := Nat.le_trans K.draws K'.draws
  pending fresh := by
    have late := K'.pending fun d le lt => fresh d (Nat.le_trans K.draws le) lt
    exact late.trans (K.pending fun d le lt => fresh d le (Nat.lt_of_lt_of_le lt K'.draws))

/-- Neither the table nor the draws change. -/
lemma quiet (table : c'.connectionTable nonce = c.connectionTable nonce) (draws : c'.draws = c.draws) :
    Keeps random nonce c c' :=
  ⟨Nat.le_of_eq draws.symm, fun _ => congrArg (Option.map DhtConnection.visible) table⟩

/-- What the end does not see keeps the connection. -/
lemma ends (same : c'.ends = c.ends) : Keeps random nonce c c' :=
  quiet (congrArg (fun E => E.connectionTable nonce) same) (congrArg Ends.draws same)

lemma act (K : Keeps random nonce c c') (action : Action) : Keeps random nonce c (c'.act action) :=
  K.trans (.quiet rfl rfl)

lemma sourceRemove (K : Keeps random nonce c c') (source : Nat) :
    Keeps random nonce c (c'.sourceRemove source) :=
  K.trans (.quiet rfl rfl)

lemma socketNew (K : Keeps random nonce c c') : Keeps random nonce c c'.socketNew.2 :=
  K.trans (.quiet rfl rfl)

/-- Another connection is written. -/
lemma putConnection (K : Keeps random nonce c c') {k : DhtConnection} (other : k.nonce ≠ nonce) :
    Keeps random nonce c (c'.putConnection k) :=
  K.trans (.quiet (Function.update_of_ne other.symm _ _) rfl)

/-- Another connection leaves the table. -/
lemma connectionSteal (K : Keeps random nonce c c') {own : DhtKey} (other : own ≠ nonce) :
    Keeps random nonce c (c'.connectionSteal own) :=
  K.trans (.quiet (Function.update_of_ne other.symm _ _) rfl)

/-- Another connection is entered under a nonce that was just drawn, and something is sent. -/
lemma enter {k : DhtConnection} (own : k.nonce = random c.draws)
    (table : c'.connectionTable = c.connectionTable) (draws : c'.draws = c.draws + 1)
    (action : Action) : Keeps random nonce c ((c'.connectionReplace k).act action) := by
  have replaced := ends_connectionReplace (c := c') (k := k)
  have draws' : ((c'.connectionReplace k).act action).draws = c.draws + 1 :=
    (congrArg Ends.draws replaced).trans draws
  refine ⟨draws' ▸ Nat.le_succ _, fun fresh => ?_⟩
  have other := fresh c.draws (Nat.le_refl _) (draws' ▸ Nat.lt_succ_self _)
  have entered : (c'.connectionReplace k).connectionTable =
      Function.update c'.connectionTable k.nonce (some k) := congrArg Ends.connectionTable replaced
  have table' : (c'.connectionReplace k).connectionTable nonce = c.connectionTable nonce := by
    rw [entered, own, Function.update_of_ne other.symm, table]
  exact congrArg (Option.map DhtConnection.visible) table'

end Keeps

/-! Lookups. -/

lemma requestConnection_keeps (id : DhtId) (addr : DhtAddress) (result : Nat) :
    Keeps random nonce c (c.requestConnection random id addr result) := by
  unfold requestConnection
  dsimp only
  refine Keeps.enter ?_ ?_ ?_ _
  · rfl
  · rfl
  · rfl

lemma requestConnections_keeps (id : DhtId) (addr : DhtAddress) (results : List Nat) :
    Keeps random nonce c (results.foldl (fun c r => c.requestConnection random id addr r) c) := by
  induction results generalizing c with
  | nil => exact .refl c
  | cons r results ih => exact (requestConnection_keeps id addr r).trans ih

lemma updateLoop_keeps (nodes : List MsgNode) :
    Keeps random nonce c (c.updateLoop random l nodes) := by
  induction nodes generalizing c l with
  | nil => exact .ends lookupDispatch_seeks.ends
  | cons node nodes ih =>
    unfold updateLoop
    split
    · exact ih
    · split
      · dsimp only
        refine Keeps.trans ?_ (.ends (lookupRemove_seeks _).ends)
        refine Keeps.trans (requestConnections_keeps l.id node.addr l.results) ?_
        exact .quiet rfl rfl
      · refine Keeps.trans ?_ ih
        exact .quiet rfl rfl

lemma lookupUpdate_keeps (nodes : List MsgNode) :
    Keeps random nonce c (c.lookupUpdate random l nodes) := by
  refine Keeps.trans ?_ (updateLoop_keeps nodes)
  exact .quiet rfl rfl

lemma lookupAsync_keeps (now : Int) (id : DhtId) :
    Keeps random nonce c (c.lookupAsync random now id) := by
  unfold lookupAsync
  dsimp only
  split
  · exact .quiet rfl rfl
  · split
    · exact .quiet rfl rfl
    · refine Keeps.trans ?_ (lookupUpdate_keeps _)
      exact .quiet rfl rfl

lemma bootstrap_keeps (address : GSocketAddress) :
    Keeps random nonce c (c.bootstrap random address) := by
  unfold bootstrap
  dsimp only
  split
  · exact lookupUpdate_keeps _
  · refine Keeps.trans ?_ (lookupUpdate_keeps _)
    exact .quiet rfl rfl

lemma refresh_keeps (now : Int) (nbits : Nat) (drawn : Nat → UInt8) :
    Keeps random nonce c (c.refresh random now nbits drawn) := by
  have made : Keeps random nonce c (c.act (.lookupNew (refreshId c.id nbits drawn))) := .quiet rfl rfl
  refine Keeps.trans (made.trans (.ends (lookupReplace_seeks (l := .new (refreshId c.id nbits drawn) [])).ends)) ?_
  refine Keeps.trans ?_ (lookupUpdate_keeps _)
  exact .quiet rfl rfl

lemma lookupRes_keeps (env : Env) (sockaddr : GSocketAddress) (srcid dstid : DhtId)
    (nodes : List MsgNode) :
    Keeps random nonce c (c.lookupRes random env sockaddr srcid dstid nodes) := by
  unfold lookupRes
  dsimp only
  split
  · exact .refl c
  · split
    · exact .quiet rfl rfl
    · split
      · exact .quiet rfl rfl
      · refine Keeps.trans ?_ (lookupUpdate_keeps _)
        split <;> exact .quiet rfl rfl

/-! Connections. -/

section Receive

variable (S : Sodium) (env : Env) (sockaddr : GSocketAddress)

/-- A connection request is answered with a nonce drawn now. -/
lemma connectionReq_keeps (pubkey peerNonce : DhtKey) :
    Keeps random nonce c (c.connectionReq S random env sockaddr pubkey peerNonce) := by
  unfold connectionReq
  dsimp only
  split
  · exact .refl c
  · split
    · split
      · exact .refl c
      · split
        · exact .refl c
        · refine Keeps.enter ?_ ?_ ?_ _
          · rfl
          · rfl
          · rfl
    · exact .refl c

lemma visible_pending (same : c'.visible = c.visible) : c'.pending nonce = c.pending nonce :=
  congrArg (fun v : DhtClient => v.connectionTable nonce) same

/-- A connection response for another nonce, or one that is rejected. -/
lemma connectionRes1_keeps (C : c.books.Consistent none) (pubkey peerNonce own authTag : DhtKey)
    (rejected : own = nonce → c.Rejected S (.connectionRes1 pubkey peerNonce own authTag)) :
    Keeps random nonce c (c.connectionRes1 S env sockaddr pubkey peerNonce own authTag) := by
  by_cases same : own = nonce
  · have K := rejected1_visible C env sockaddr (rejected same)
    exact ⟨Nat.le_of_eq (congrArg DhtClient.draws K).symm, fun _ => visible_pending K⟩
  · unfold connectionRes1
    dsimp only
    split
    · exact .refl c
    · rename_i k here
      obtain ⟨rfl, -⟩ := C.connection _ _ here
      split
      · exact .refl c
      · split
        · exact .refl c
        · rename_i shared _
          have start : Keeps random nonce c c := .refl c
          have derived := (start.act (.derive ⟨pubkey, shared, k.nonce, peerNonce⟩)).putConnection
            (k := { k with
              encKey := some (DhtKey.derive S shared k.nonce peerNonce).1
              decKey := some (DhtKey.derive S shared peerNonce k.nonce).1
              authTag := some (DhtKey.derive S shared peerNonce k.nonce).2
              session := some ⟨pubkey, shared, k.nonce, peerNonce⟩ }) same
          split
          · exact derived
          · split
            · exact derived
            · have left := (((derived.socketNew.act (.sendTo c.nextSocket k.sockaddr
                (.connectionRes2 peerNonce (DhtKey.derive S shared k.nonce peerNonce).2))).sourceRemove
                  k.timeoutSource).act (.connect (some c.nextSocket) sockaddr)).connectionSteal same
              split
              · exact left.act _
              · exact left

/-- A confirmation for another nonce, or one that is rejected. -/
lemma connectionRes2_keeps (C : c.books.Consistent none) (own authTag : DhtKey)
    (rejected : own = nonce → c.Rejected S (.connectionRes2 own authTag)) :
    Keeps random nonce c (c.connectionRes2 sockaddr own authTag) := by
  by_cases same : own = nonce
  · rw [rejected2_visible sockaddr (rejected same)]
    exact .refl c
  · unfold connectionRes2
    split
    · exact .refl c
    · rename_i k here
      obtain ⟨rfl, -⟩ := C.connection _ _ here
      split
      · exact .refl c
      · dsimp only
        refine Keeps.trans ?_ (.ends connectionDestroy_seeks.ends)
        split <;> exact .quiet (Function.update_of_ne (Ne.symm same) _ _) rfl

end Receive

lemma connectionRemove_keeps {own : DhtKey} (other : own ≠ nonce) :
    Keeps random nonce c (c.connectionRemove own) :=
  .quiet (congrFun (congrArg Ends.connectionTable (ends_connectionRemove own)) nonce |>.trans
    (Function.update_of_ne other.symm _ _)) (congrArg Ends.draws (ends_connectionRemove own))

lemma connectionTimeout_keeps {own : DhtKey} (other : own ≠ nonce)
    (placed : ∀ k, c.connectionTable own = some k → k.nonce = own) :
    Keeps random nonce c (c.connectionTimeout own) := by
  unfold connectionTimeout
  split
  · exact .refl c
  · rename_i k here
    obtain rfl := placed k here
    dsimp only
    have start : Keeps random nonce c c := .refl c
    refine Keeps.trans ?_ (connectionRemove_keeps other)
    refine Keeps.putConnection (k := { k with result := none, timeoutSource := 0 }) ?_ other
    split
    · exact start.act _
    · exact start

lemma fire_keeps {source : Nat} (C : c.books.Consistent none) (env : Env)
    (other : c.sources source ≠ some (.connection nonce)) :
    Keeps random nonce c (c.fire env source) := by
  have start : Keeps random nonce c c := .refl c
  unfold fire
  split
  · refine (start.sourceRemove source).trans ?_
    unfold queryTimeout
    split
    · exact .refl _
    · split
      · exact .refl _
      · dsimp only
        refine Keeps.trans ?_ (.ends lookupDispatch_seeks.ends)
        exact .quiet rfl rfl
  · rename_i own e
    have ne : own ≠ nonce := fun same => other (same ▸ e)
    exact (start.sourceRemove source).trans
      (connectionTimeout_keeps ne fun k here => (C.connection own k here).1)
  · exact start

/-- What every event keeps of a connection that it spares. -/
lemma step_keeps (S : Sodium) (w : WordSize) (C : c.books.Consistent none) (env : Env) {event : Event}
    (spared : c.Spares S w nonce event) : Keeps random nonce c (c.step S w random env event) := by
  cases event with
  | lookupAsync id => exact lookupAsync_keeps _ id
  | bootstrap address => exact bootstrap_keeps address
  | setListen listen => exact .quiet rfl rfl
  | refresh nbits drawn => exact refresh_keeps _ nbits drawn
  | receive memory len sockaddr =>
    rw [step, receive]
    cases read : Msg.read w memory len with
    | none => exact .refl c
    | some msg =>
      have spared : msg.answered = some nonce → c.Rejected S msg := spared msg read
      cases msg with
      | lookupReq srcid dstid => exact .ends (lookupReq_refines env sockaddr srcid dstid)
      | lookupRes srcid dstid nodes => exact lookupRes_keeps env sockaddr srcid dstid nodes
      | connectionReq pubkey peerNonce => exact connectionReq_keeps S env sockaddr pubkey peerNonce
      | connectionRes1 pubkey peerNonce own authTag =>
        exact connectionRes1_keeps S env sockaddr C pubkey peerNonce own authTag
          fun same => spared (congrArg some same)
      | connectionRes2 own authTag =>
        exact connectionRes2_keeps S sockaddr C own authTag fun same => spared (congrArg some same)
  | timeout source => exact fire_keeps C env spared

/-! ## Messages that are accepted -/

section Accepted

variable (S : Sodium) (env : Env) (sockaddr : GSocketAddress) {k : DhtConnection}
  {pubkey peerNonce own shared : DhtKey}

/-- A request is answered, and the connection waits for the second response. -/
lemma connectionReq_answers (foreign : DhtId.fromPubkey S pubkey ≠ c.id) (listen : c.listen = true)
    (secret : DhtKey.makeShared S c.privkey pubkey = some shared) (socket : env.socketError = false) :
    (∃ k, (c.connectionReq S random env sockaddr pubkey peerNonce).connectionTable (random c.draws) =
      some k ∧ k.isRemote = true ∧ k.Keyed S ⟨pubkey, shared, random c.draws, peerNonce⟩) ∧
    ∃ socket, .sendTo socket (some sockaddr) (.connectionRes1 c.pubkey (random c.draws) peerNonce
      (DhtKey.derive S shared (random c.draws) peerNonce).2) ∈
        (c.connectionReq S random env sockaddr pubkey peerNonce).log := by
  unfold connectionReq
  rw [if_neg foreign, if_pos listen, secret]
  dsimp only
  rw [if_neg (by rw [socket]; exact Bool.false_ne_true), connectionReplace_pubkey]
  refine ⟨⟨⟨DhtId.fromPubkey S pubkey, random c.draws, true, c.nextSource, some c.nextSocket, none,
    none, some (DhtKey.derive S shared (random c.draws) peerNonce).1,
    some (DhtKey.derive S shared peerNonce (random c.draws)).1,
    some (DhtKey.derive S shared peerNonce (random c.draws)).2,
    some ⟨pubkey, shared, random c.draws, peerNonce⟩⟩, ?_, rfl, rfl, rfl, rfl, rfl, rfl, rfl⟩,
    c.nextSocket, List.mem_cons_self⟩
  exact (congrFun (congrArg Ends.connectionTable ends_connectionReplace) _).trans
    (Function.update_self _ _ _)

/-- A response that is not rejected completes the result. -/
lemma connectionRes1_completes (peerNonce : DhtKey) (C : c.books.Consistent none)
    (here : c.connectionTable own = some k) (role : k.isRemote = false)
    (id : k.id = DhtId.fromPubkey S pubkey)
    (secret : DhtKey.makeShared S c.privkey pubkey = some shared) (socket : env.socketError = false) :
    (∃ r e, .complete r e ∈ (c.connectionRes1 S env sockaddr pubkey peerNonce own
      (DhtKey.derive S shared peerNonce own).2).log ∧ k.result = some r ∧
        e.Keyed S ⟨pubkey, shared, own, peerNonce⟩) ∧
    ∃ socket, .sendTo socket k.sockaddr (.connectionRes2 peerNonce
      (DhtKey.derive S shared own peerNonce).2) ∈ (c.connectionRes1 S env sockaddr pubkey peerNonce own
        (DhtKey.derive S shared peerNonce own).2).log := by
  obtain ⟨rfl, -, waits⟩ := C.connection _ _ here
  obtain ⟨r, result⟩ : ∃ r, k.result = some r := by
    cases result : k.result with
    | none => exact absurd (role.symm.trans (waits.mpr result)) Bool.false_ne_true
    | some r => exact ⟨r, rfl⟩
  have mine : ¬ (k.isRemote = true ∨ k.id ≠ DhtId.fromPubkey S pubkey) := by
    rw [role]
    exact not_or.mpr ⟨Bool.false_ne_true, not_not.mpr id⟩
  unfold connectionRes1
  simp only [here, secret]
  rw [if_neg mine, if_neg (not_not.mpr rfl), if_neg (by rw [socket]; exact Bool.false_ne_true)]
  simp only [result]
  refine ⟨⟨r, _, List.mem_cons_self, rfl, ?_⟩, c.nextSocket, ?_⟩
  · exact ⟨rfl, rfl, id, rfl, rfl, rfl⟩
  · exact List.mem_cons_of_mem _ (List.mem_cons_of_mem _ List.mem_cons_self)

/-- A second response that is not rejected makes a new connection. -/
lemma connectionRes2_accepts
    (here : c.connectionTable own = some k) (role : k.isRemote = true) (listen : c.listen = true)
    {authTag : DhtKey} (verified : k.authTag = some authTag) :
    .newConnection k ∈ (c.connectionRes2 sockaddr own authTag).log := by
  have mine : ¬ (!k.isRemote ∨ k.authTag ≠ some authTag) := by
    rw [role, verified]
    simp
  unfold connectionRes2
  simp only [here]
  rw [if_neg mine, if_pos (show (c.connectionSteal k.nonce).listen = true from listen)]
  obtain ⟨added, e, -⟩ := (connectionDestroy_serves (c := ((c.connectionSteal k.nonce).act
    (.connect k.socket sockaddr)).act (.newConnection k)) (k := k)).log
  rw [e]
  exact List.mem_append_right _ List.mem_cons_self

end Accepted

end DhtClient

/-! ## Handshakes -/

namespace Network

open DhtClient (Keeps)

variable {ι : Type} [DecidableEq ι] (S : Sodium) (site : ι → Site)

/-- The events of a schedule that a client takes spare its connection with a nonce. -/
def Spared (i : ι) (nonce : DhtKey) : (ι → DhtClient) → List (ι × Env × Event) → Prop :=
  Parties.Throughout (step S site)
    fun net p e => p = i → (net p).Spares S (site p).wordSize nonce e.2

/-- The three messages of a handshake arrive that the client `i` began with the client `j`: first the
    request, then, after `m₁`, the response, and after `m₂` the second response. -/
structure Delivered (net : ι → DhtClient) (i j : ι) (k : DhtConnection) (shared : DhtKey)
    (x₁ : Env × Event) (m₁ : List (ι × Env × Event)) (x₂ : Env × Event) (m₂ : List (ι × Env × Event))
    (x₃ : Env × Event) : Prop where
  waits : (net i).connectionTable k.nonce = some k
  initiator : k.isRemote = false
  target : k.id = DhtId.fromPubkey S (net j).pubkey
  foreign : DhtId.fromPubkey S (net i).pubkey ≠ (net j).id
  secret : DhtKey.makeShared S (net i).privkey (net j).pubkey = some shared
  secret' : DhtKey.makeShared S (net j).privkey (net i).pubkey = some shared
  sockets : x₁.1.socketError = false ∧ x₂.1.socketError = false
  listen : (net j).listen = true
  asked : ∃ sockaddr, x₁.2.Brings (site j).wordSize sockaddr (.connectionReq (net i).pubkey k.nonce)
  spared₁ : Spared S site i k.nonce (Parties.act (step S site) net (j, x₁)) m₁
  answered : ∃ sockaddr, x₂.2.Brings (site i).wordSize sockaddr
    (.connectionRes1 (net j).pubkey ((site j).random (net j).draws) k.nonce
      (DhtKey.derive S shared ((site j).random (net j).draws) k.nonce).2)
  spared₂ : Spared S site j ((site j).random (net j).draws)
    (Parties.act (step S site) net (j, x₁)) (m₁ ++ (i, x₂) :: m₂)
  confirmed : ∃ sockaddr, x₃.2.Brings (site j).wordSize sockaddr
    (.connectionRes2 ((site j).random (net j).draws)
      (DhtKey.derive S shared k.nonce ((site j).random (net j).draws)).2)
  listen' : (Parties.run (step S site) net ((j, x₁) :: m₁ ++ (i, x₂) :: m₂) j).listen = true

variable {S site}

lemma act_books {net : ι → DhtClient} (C : ∀ p, (net p).books.Consistent none)
    (e : ι × Env × Event) (p : ι) : (Parties.act (step S site) net e p).books.Consistent none := by
  rw [Parties.act, Function.update_apply]
  split
  · exact DhtClient.step_consistent S _ _ e.2.1 e.2.2 (C e.1)
  · exact C p

/-- The books are consistent in every state of a run. -/
lemma run_books (schedule : List (ι × Env × Event)) (p : ι) :
    (run S site schedule p).books.Consistent none := by
  rw [run, Parties.run_apply]
  exact DhtClient.run_consistent S _ _ _ _

lemma run_append (schedule rest : List (ι × Env × Event)) :
    run S site (schedule ++ rest) = Parties.run (step S site) (run S site schedule) rest :=
  List.foldl_append

variable (S site) in
lemma run_later (schedule rest : List (ι × Env × Event)) (p : ι) :
    (run S site schedule p).ends.Before (run S site (schedule ++ rest) p).ends := by
  rw [run_append]
  exact run_before (run_books schedule) rest p

lemma run_keeps {net : ι → DhtClient} (C : ∀ p, (net p).books.Consistent none) {i : ι}
    {nonce : DhtKey} {schedule : List (ι × Env × Event)} (spared : Spared S site i nonce net schedule) :
    Keeps (site i).random nonce (net i) (Parties.run (step S site) net schedule i) := by
  induction schedule generalizing net with
  | nil => exact .refl _
  | cons e schedule ih =>
    obtain ⟨here, rest⟩ := spared
    refine Keeps.trans ?_ (ih (act_books C e) rest)
    rw [Parties.act, Function.update_apply]
    split
    · rename_i same
      subst same
      exact DhtClient.step_keeps S _ (C _) e.2.1 (here rfl)
    · exact .refl _

/-- A connection that is spared looks as before. -/
lemma spared_pending {schedule rest : List (ι × Env × Event)} (later : List (ι × Env × Event)) {i : ι}
    {k : DhtConnection}
    (here : (run S site schedule i).connectionTable k.nonce = some k)
    (spared : Spared S site i k.nonce (run S site schedule) rest)
    (fresh : Fresh site (run S site ((schedule ++ rest) ++ later))) :
    ∃ k', (run S site (schedule ++ rest) i).connectionTable k.nonce = some k' ∧
      k'.visible = k.visible := by
  have keeps := run_keeps (run_books schedule) spared
  rw [← run_append] at keeps
  obtain ⟨a, old, drew⟩ := ((run_traced S site schedule i).recorded.table _ _ here).2.drew
  have pending := keeps.pending fun d le lt same => by
    have bound := (run_later S site (schedule ++ rest) later i).draws
    have early := (run_later S site schedule rest i).draws
    obtain ⟨-, rfl⟩ := fresh i i d a (Nat.lt_of_lt_of_le lt bound)
      (Nat.lt_of_lt_of_le old (Nat.le_trans early bound)) (same.trans drew.symm)
    exact absurd old (Nat.not_lt.mpr le)
  rw [DhtClient.pending, DhtClient.pending, here, Option.map_some, Option.map_eq_some_iff] at pending
  exact pending

omit [DecidableEq ι] in
/-- A message that an event brings is received. -/
lemma step_brings {i : ι} {c : DhtClient} {x : Env × Event} {sockaddr : GSocketAddress} {msg : Msg}
    (brings : x.2.Brings (site i).wordSize sockaddr msg) :
    step S site i c x = c.receiveMsg S (site i).random x.1 sockaddr msg := by
  obtain ⟨memory, len, event, read⟩ := brings
  rw [step, event, DhtClient.step, DhtClient.receive, read]

lemma later_log {schedule rest : List (ι × Env × Event)} {p : ι} {action : Action}
    (traced : action.traced = true) (mem : action ∈ (run S site schedule p).log) :
    action ∈ (run S site (schedule ++ rest) p).log :=
  List.mem_of_mem_filter ((run_later S site schedule rest p).mem (List.mem_filter.mpr ⟨mem, traced⟩))

variable (S site) in
lemma run_concat (schedule : List (ι × Env × Event)) (p : ι) (x : Env × Event) :
    run S site (schedule ++ [(p, x)]) p = step S site p (run S site schedule p) x := by
  rw [run_append]
  exact Function.update_self _ _ _

lemma act_run (schedule : List (ι × Env × Event)) (e : ι × Env × Event) :
    Parties.act (step S site) (run S site schedule) e = run S site (schedule ++ [e]) :=
  (run_append schedule [e]).symm

section Stages

variable {schedule m₁ m₂ : List (ι × Env × Event)} {i j : ι} {k : DhtConnection} {shared : DhtKey}
  {x₁ x₂ x₃ : Env × Event} (D : Delivered S site (run S site schedule) i j k shared x₁ m₁ x₂ m₂ x₃)

include D

/-- Nobody calls themselves. -/
lemma Delivered.ne : i ≠ j := by
  rintro rfl
  have before := (run_traced S site schedule i).before
  exact D.foreign ((congrArg (DhtId.fromPubkey S) before.pubkey).trans before.id.symm)

/-- The request is answered. -/
lemma Delivered.request :
    let net := run S site schedule
    let asked := run S site (schedule ++ [(j, x₁)])
    let nonce := (site j).random (net j).draws
    (∃ f, (asked j).connectionTable nonce = some f ∧ f.isRemote = true ∧
      f.Keyed S ⟨(net i).pubkey, shared, nonce, k.nonce⟩) ∧
    ∃ socket sockaddr, .sendTo socket sockaddr (.connectionRes1 (net j).pubkey nonce k.nonce
      (DhtKey.derive S shared nonce k.nonce).2) ∈ (asked j).log := by
  intro net asked nonce
  obtain ⟨sockaddr, brings⟩ := D.asked
  have last : asked j = (net j).connectionReq S (site j).random x₁.1 sockaddr (net i).pubkey k.nonce :=
    (run_concat S site schedule j x₁).trans (step_brings brings)
  obtain ⟨entered, socket, sent⟩ := DhtClient.connectionReq_answers S x₁.1 sockaddr D.foreign D.listen
    D.secret' D.sockets.1
  rw [← last] at entered sent
  exact ⟨entered, socket, some sockaddr, sent⟩

variable (fresh : Fresh site (run S site (schedule ++ ((j, x₁) :: m₁ ++ (i, x₂) :: m₂ ++ [(j, x₃)]))))

include fresh

/-- The connection that waits for the response still waits when the response arrives. -/
lemma Delivered.waiting : ∃ k', (run S site (schedule ++ [(j, x₁)] ++ m₁) i).connectionTable k.nonce =
    some k' ∧ k'.visible = k.visible := by
  have waits : (run S site (schedule ++ [(j, x₁)]) i).connectionTable k.nonce = some k := by
    rw [← act_run, Parties.act, Function.update_of_ne D.ne]
    exact D.waits
  have spared := D.spared₁
  rw [act_run] at spared
  exact spared_pending ((i, x₂) :: m₂ ++ [(j, x₃)]) waits spared (by simpa using fresh)

/-- The response completes the callback. -/
lemma Delivered.response :
    let net := run S site schedule
    let answered := run S site (schedule ++ [(j, x₁)] ++ m₁ ++ [(i, x₂)])
    let nonce := (site j).random (net j).draws
    (∃ r e, k.result = some r ∧ .complete r e ∈ (answered i).log ∧
      e.Keyed S ⟨(net j).pubkey, shared, k.nonce, nonce⟩) ∧
    ∃ socket sockaddr, .sendTo socket sockaddr (.connectionRes2 nonce
      (DhtKey.derive S shared k.nonce nonce).2) ∈ (answered i).log := by
  intro net answered nonce
  obtain ⟨k', here, same⟩ := D.waiting fresh
  obtain ⟨same_id, same_role, same_result, -⟩ := DhtConnection.same_of_visible same
  have privkey : (run S site (schedule ++ [(j, x₁)] ++ m₁) i).privkey = (net i).privkey := by
    rw [List.append_assoc]
    exact (run_later S site schedule ([(j, x₁)] ++ m₁) i).privkey
  obtain ⟨sockaddr, brings⟩ := D.answered
  have last : answered i = _ :=
    (run_concat S site (schedule ++ [(j, x₁)] ++ m₁) i x₂).trans (step_brings brings)
  rw [DhtClient.receiveMsg] at last
  obtain ⟨⟨r, e, completed, result, keyed⟩, socket, sent⟩ := DhtClient.connectionRes1_completes S x₂.1
    sockaddr nonce (run_books _ i) here (same_role.trans D.initiator) (same_id.trans D.target)
    (privkey.symm ▸ D.secret) D.sockets.2
  rw [← last] at completed sent
  exact ⟨⟨r, e, same_result ▸ result, completed, keyed⟩, socket, k'.sockaddr, sent⟩

/-- The second response makes a connection of the one that was entered for the request. -/
lemma Delivered.confirmation {f : DhtConnection} (entered : (run S site (schedule ++ [(j, x₁)])
      j).connectionTable ((site j).random (run S site schedule j).draws) = some f)
    (remote : f.isRemote = true) (keyed : f.Keyed S ⟨(run S site schedule i).pubkey, shared,
      (site j).random (run S site schedule j).draws, k.nonce⟩) :
    .newConnection f ∈
      (run S site (schedule ++ [(j, x₁)] ++ (m₁ ++ (i, x₂) :: m₂) ++ [(j, x₃)]) j).log := by
  have own : f.nonce = (site j).random (run S site schedule j).draws := keyed.nonce.symm
  have waits : (run S site (schedule ++ [(j, x₁)]) j).connectionTable f.nonce = some f := by
    rw [own]
    exact entered
  have spared : Spared S site j f.nonce (run S site (schedule ++ [(j, x₁)])) (m₁ ++ (i, x₂) :: m₂) := by
    rw [own, ← act_run]
    exact D.spared₂
  obtain ⟨f', here, same⟩ := spared_pending [(j, x₃)] waits spared (by simpa using fresh)
  have remote' : f'.isRemote = true := by
    rw [← DhtConnection.isRemote_visible, same, DhtConnection.isRemote_visible, remote]
  rw [DhtConnection.visible_of_remote remote', DhtConnection.visible_of_remote remote] at same
  subst same
  obtain ⟨sockaddr, brings⟩ := D.confirmed
  have listen : (run S site (schedule ++ [(j, x₁)] ++ (m₁ ++ (i, x₂) :: m₂)) j).listen = true := by
    have listen := D.listen'
    rw [← run_append] at listen
    simpa using listen
  have signalled := DhtClient.connectionRes2_accepts sockaddr here remote' listen keyed.authTag
  have last : run S site (schedule ++ [(j, x₁)] ++ (m₁ ++ (i, x₂) :: m₂) ++ [(j, x₃)]) j = _ :=
    (run_concat S site (schedule ++ [(j, x₁)] ++ (m₁ ++ (i, x₂) :: m₂)) j x₃).trans
      (step_brings brings)
  rw [DhtClient.receiveMsg] at last
  rwa [own, ← last] at signalled

end Stages

/-- When the three messages of a handshake arrive one after the other, both ends are connected with the
    same keys, and the messages that arrived had been sent, whatever else the clients did and received
    in between. -/
theorem handshake_completes {schedule m₁ m₂ : List (ι × Env × Event)} {i j : ι} {k : DhtConnection}
    {shared : DhtKey} {x₁ x₂ x₃ : Env × Event}
    (D : Delivered S site (run S site schedule) i j k shared x₁ m₁ x₂ m₂ x₃)
    (fresh : Fresh site (run S site (schedule ++ ((j, x₁) :: m₁ ++ (i, x₂) :: m₂ ++ [(j, x₃)])))) :
    let net := run S site schedule
    let final := run S site (schedule ++ ((j, x₁) :: m₁ ++ (i, x₂) :: m₂ ++ [(j, x₃)]))
    let nonce := (site j).random (net j).draws
    (∃ r e f, k.result = some r ∧ .complete r e ∈ (final i).log ∧ .newConnection f ∈ (final j).log ∧
      e.Keyed S ⟨(net j).pubkey, shared, k.nonce, nonce⟩ ∧
      f.Keyed S ⟨(net i).pubkey, shared, nonce, k.nonce⟩ ∧
      e.encKey = f.decKey ∧ e.decKey = f.encKey) ∧
    (∃ socket sockaddr, .sendTo socket sockaddr (.connectionRes1 (net j).pubkey nonce k.nonce
      (DhtKey.derive S shared nonce k.nonce).2) ∈ (final j).log) ∧
    ∃ socket sockaddr, .sendTo socket sockaddr (.connectionRes2 nonce
      (DhtKey.derive S shared k.nonce nonce).2) ∈ (final i).log := by
  intro net final nonce
  obtain ⟨⟨f, entered, remote, keyed⟩, socket₁, sockaddr₁, sent₁⟩ := D.request
  obtain ⟨⟨r, e, result, completed, keyed'⟩, socket₂, sockaddr₂, sent₂⟩ := D.response fresh
  have signalled := D.confirmation fresh entered remote keyed
  -- nothing leaves the logs
  have last₁ : final = run S site (schedule ++ [(j, x₁)] ++ (m₁ ++ (i, x₂) :: m₂ ++ [(j, x₃)])) :=
    congrArg (run S site) (by simp)
  have last₂ : final = run S site (schedule ++ [(j, x₁)] ++ m₁ ++ [(i, x₂)] ++ (m₂ ++ [(j, x₃)])) :=
    congrArg (run S site) (by simp)
  have last₃ : final = run S site (schedule ++ [(j, x₁)] ++ (m₁ ++ (i, x₂) :: m₂) ++ [(j, x₃)]) :=
    congrArg (run S site) (by simp)
  refine ⟨⟨r, e, f, result, ?_, ?_, keyed', keyed, ?_, ?_⟩, ⟨socket₁, sockaddr₁, ?_⟩, socket₂,
    sockaddr₂, ?_⟩
  · rw [last₂]
    exact later_log rfl completed
  · rw [last₃]
    exact signalled
  · rw [keyed'.encKey, keyed.decKey]
  · rw [keyed'.decKey, keyed.encKey]
  · rw [last₁]
    exact later_log rfl sent₁
  · rw [last₂]
    exact later_log rfl sent₂

/-! ## A handshake that is disturbed -/

/-- A message that fits into a datagram is brought. -/
lemma brings_message (w : WordSize) {msg : Msg} (short : msg.bytes.length ≤ MSG_MTU)
    (sockaddr : GSocketAddress) : (Event.message msg sockaddr).Brings w sockaddr msg :=
  ⟨_, _, rfl, Event.msg_message w short sockaddr⟩

omit [DecidableEq ι] in
/-- A message that answers nothing, or is rejected, spares a connection. -/
lemma spares_message {c : DhtClient} {w : WordSize} {msg : Msg} {nonce : DhtKey}
    (short : msg.bytes.length ≤ MSG_MTU) (sockaddr : GSocketAddress)
    (rejected : msg.answered = some nonce → c.Rejected S msg) :
    c.Spares S w nonce (.message msg sockaddr) := by
  intro msg' read
  have same : Msg.read w (fun i => msg.bytes.getD i 0) msg.bytes.length = some msg :=
    Event.msg_message w short sockaddr
  obtain rfl := Option.some.inj (same.symm.trans read)
  exact rejected

/-- A message arrives at a client of `pair`. -/
def arrive (i : Bool) (msg : Msg) : Bool × Env × Input :=
  (i, ⟨0, 0, false⟩, .message msg ⟨.ipv4 fun _ => 7, 5004⟩)

/-- The first request of the first client. -/
def request : Msg := .connectionReq (byteKey 1) (byteKey 10)

/-- A response to it. -/
def response (authTag : DhtKey) : Msg :=
  .connectionRes1 (byteKey 2) (byteKey 20) (byteKey 10) authTag

/-- The authentication tag of the first client, with nonces. -/
def tag (a b : UInt8) : DhtKey :=
  (DhtKey.derive Sodium.transparent (byteKey 3) (byteKey a) (byteKey b)).2

/-- A handshake with a forged response before the response, and the request once more before the second
    response. -/
def disturbed : List (Bool × Env × Input) :=
  handshake.take 3 ++
    [arrive true request, arrive false (response (byteKey 0)), arrive false (response (tag 20 10)),
      arrive true request, arrive true (.connectionRes2 (byteKey 20) (tag 10 20))]

lemma disturbed_run (n : Nat) : run Sodium.transparent pair (schedule (disturbed.take n)) =
    runInputs Sodium.transparent pair (disturbed.take n) := by
  refine run_schedule fun e mem => ?_
  have short : ∀ e ∈ disturbed, e.2.2.Short := by
    simp +decide [disturbed, handshake, arrive, request, response, Input.Short, Msg.bytes_length]
  exact short e (List.mem_of_mem_take mem)

/-- The event of an input. -/
def event (e : Bool × Env × Input) : Env × Event := (e.2.1, e.2.2.toEvent)

/-- The messages of the run are those of a delivery. -/
lemma disturbed_delivered {k : DhtConnection} (waits : (runInputs Sodium.transparent pair
      (disturbed.take 3) false).connectionTable k.nonce = some k) (nonce : k.nonce = byteKey 10)
    (initiator : k.isRemote = false)
    (target : k.id = DhtId.fromPubkey Sodium.transparent (byteKey 2)) :
    Delivered Sodium.transparent pair (run Sodium.transparent pair (schedule (disturbed.take 3)))
      false true k (byteKey 3) (event (arrive true request))
      [(false, event (arrive false (response (byteKey 0))))]
      (event (arrive false (response (tag 20 10)))) [(true, event (arrive true request))]
      (event (arrive true (.connectionRes2 (byteKey 20) (tag 10 20)))) := by
  have pubkey : ∀ i, (run Sodium.transparent pair (schedule (disturbed.take 3)) i).pubkey =
      byteKey (if i then 2 else 1) := fun i => (run_traced _ _ _ i).before.pubkey
  have privkey : ∀ i, (run Sodium.transparent pair (schedule (disturbed.take 3)) i).privkey =
      byteKey (if i then 2 else 1) := fun i => (run_traced _ _ _ i).before.privkey
  have draw : (pair true).random (run Sodium.transparent pair (schedule (disturbed.take 3)) true).draws =
      byteKey 20 := by
    rw [disturbed_run]
    decide +kernel
  have first : Parties.act (step Sodium.transparent pair)
      (run Sodium.transparent pair (schedule (disturbed.take 3))) (true, event (arrive true request)) =
      run Sodium.transparent pair (schedule (disturbed.take 4)) :=
    act_run _ (true, event (arrive true request))
  refine ⟨?_, initiator, ?_, ?_, ?_, ?_, ⟨rfl, rfl⟩, ?_, ?_, ?_, ?_, ?_, ?_, ?_⟩
  · rw [disturbed_run]
    exact waits
  · rw [pubkey]
    exact target
  · rw [pubkey, disturbed_run]
    decide +kernel
  · rw [privkey, pubkey]
    decide +kernel
  · rw [privkey, pubkey]
    decide +kernel
  · rw [disturbed_run]
    decide +kernel
  · rw [pubkey, nonce]
    exact ⟨_, brings_message _ (Msg.bytes_length.trans_le (by decide)) _⟩
  · refine ⟨fun _ => spares_message (Msg.bytes_length.trans_le (by decide)) _ fun _ => ?_, trivial⟩
    rw [first, disturbed_run, response, DhtClient.Rejected]
    decide +kernel
  · rw [pubkey, nonce, draw]
    exact ⟨_, brings_message _ (Msg.bytes_length.trans_le (by decide)) _⟩
  · refine ⟨fun e => absurd e (by decide), fun e => absurd e (by decide), fun _ => ?_, trivial⟩
    exact spares_message (Msg.bytes_length.trans_le (by decide)) _ fun e => absurd e (by decide)
  · rw [nonce, draw]
    exact ⟨_, brings_message _ (Msg.bytes_length.trans_le (by decide)) _⟩
  · rw [← run_append]
    exact (congrFun (disturbed_run 7) true).symm ▸ (by decide +kernel)

/-- Both ends of the disturbed handshake are connected. -/
theorem handshake_completes_disturbed :
    let final := run Sodium.transparent pair (schedule disturbed)
    ∃ r e f, .complete r e ∈ (final false).log ∧ .newConnection f ∈ (final true).log ∧
      e.encKey = f.decKey := by
  have found : ((runInputs Sodium.transparent pair (disturbed.take 3) false).connectionTable
      (byteKey 10)).any (fun k => k.nonce = byteKey 10 ∧ k.isRemote = false ∧
        k.id = DhtId.fromPubkey Sodium.transparent (byteKey 2)) := by decide +kernel
  obtain ⟨k, waits, facts⟩ := (Option.any_eq_true _ _).mp found
  obtain ⟨nonce, initiator, target⟩ := of_decide_eq_true facts
  have D := disturbed_delivered (nonce ▸ waits) nonce initiator target
  have fresh : Fresh pair (run Sodium.transparent pair (schedule disturbed)) := by
    have last := disturbed_run 8
    rw [show disturbed.take 8 = disturbed from rfl] at last
    rw [last, fresh_iff]
    decide +kernel
  obtain ⟨⟨r, e, f, -, completed, signalled, -, -, same, -⟩, -⟩ := handshake_completes D fresh
  exact ⟨r, e, f, completed, signalled, same⟩

end Network

end Nanotalk
