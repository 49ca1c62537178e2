import Mathlib.Logic.Relation
import Nanotalk.Dht.Frames

/-!
# The lookups of a client

An abstract model of what a client does about lookups, without the routing table, connections and
the main context (`Lookups`): the lookups, the number of calls and the part of the log that is about
lookups. It moves by `Lookups.Step`; the nodes of a response, and those that a dispatch asks, are
taken in one step each.

`step_searches` connects it to the client: an event is a sequence of these steps.
-/

namespace Nanotalk
open Glib
open DhtClient (Env)

/-- The actions that belong to a lookup. -/
def Action.searching : Action → Bool
  | sendTo _ _ (.lookupReq ..) => true
  | completeInIdle _ error => error.code = .hostNotFound
  | lookupNew _ => true
  | offered .. => true
  | request .. => true
  | answered .. => true
  | timedOut .. => true
  | lookupFailed .. => true
  | _ => false

/-- A query that the dispatch passes over: it is finished or in flight. -/
def DhtQuery.Begun (query : DhtQuery) : Prop := query.isFinished = true ∨ query.timeoutSource ≠ 0

/-- The nodes that are not the client itself. -/
def others (own : DhtId) (nodes : List MsgNode) : List MsgNode := nodes.filter (·.id ≠ own)

namespace DhtLookup

/-- The number of alive queries. -/
def countAlive (queries : List DhtQuery) : Nat := queries.countP (·.isAlive)

/-- The lookup with queries for the nodes of a response. -/
def learn (lookup : DhtLookup) (own : DhtId) (nodes : List MsgNode) : DhtLookup :=
  (others own nodes).foldl insertQuery lookup

/-- A failed lookup: nothing is in flight, and the queries are finished up to the place where enough
    of them are alive. -/
def Exhausted (queries : List DhtQuery) : Prop :=
  ∃ visited rest, queries = visited ++ rest ∧ (∀ q ∈ queries, q.timeoutSource = 0) ∧
    (∀ q ∈ visited, q.isFinished = true) ∧ (rest = [] ∨ DHT_NODE_COUNT ≤ countAlive visited)

/-- A query that is asked: it is not begun, but all before it are, too few of them being alive. -/
def Next (queries : List DhtQuery) (query : DhtQuery) : Prop :=
  ∃ visited rest, queries = visited ++ query :: rest ∧ ¬ query.Begun ∧
    (∀ q ∈ visited, q.Begun) ∧ countAlive visited < DHT_NODE_COUNT

variable {l : DhtLookup}

@[simp] lemma id_foldl_insertQuery (nodes : List MsgNode) :
    (nodes.foldl insertQuery l).id = l.id := by
  induction nodes generalizing l with
  | nil => rfl
  | cons node nodes ih => rw [List.foldl_cons, ih, id_insertQuery]

@[simp] lemma id_learn (own : DhtId) (nodes : List MsgNode) : (l.learn own nodes).id = l.id :=
  id_foldl_insertQuery _

end DhtLookup

/-- The lookups of a client. -/
structure Lookups where
  own : DhtId
  table : DhtId → Option DhtLookup
  calls : Nat
  log : List Action
  /-- the nodes of the answer in hand, and the id of the lookup it is for -/
  heard : Option (DhtId × List MsgNode)

namespace Lookups

/-- The lookups of a new client. -/
def init (own : DhtId) : Lookups := ⟨own, fun _ => none, 0, [], none⟩

/-- A lookup in the table is changed. -/
def put (L : Lookups) (lookup : DhtLookup) : Lookups :=
  { L with table := Function.update L.table lookup.id (some lookup) }

/-- A lookup leaves the table. -/
def remove (L : Lookups) (id : DhtId) : Lookups :=
  { L with table := Function.update L.table id none }

/-- Entries in the log, the last one first. -/
def note (L : Lookups) (actions : List Action) : Lookups := { L with log := actions ++ L.log }

lemma note_append (L : Lookups) (later earlier : List Action) :
    L.note (later ++ earlier) = (L.note earlier).note later := by
  simp [note]

lemma put_put (L : Lookups) {l l' : DhtLookup} (same : l'.id = l.id) :
    (L.put l).put l' = L.put l' := by
  simp [put, same]

/-- The steps of the lookups. -/
inductive Step : Lookups → Lookups → Prop
  /-- a call for the client's own id -/
  | refuse {L : Lookups} (quiet : L.heard = none) : Step L { L with calls := L.calls + 1 }
  /-- a lookup is created, in the place of one with the same id -/
  | create {L : Lookups} (quiet : L.heard = none) (id : DhtId) :
    Step L ((L.note [.lookupNew id]).put (.new id []))
  /-- a callback waits for a lookup -/
  | join {L : Lookups} {l : DhtLookup} (quiet : L.heard = none) (here : L.table l.id = some l)
    (foreign : l.id ≠ L.own) :
    Step L { L.put { l with results := L.calls :: l.results } with calls := L.calls + 1 }
  /-- nodes are offered, the target not among them -/
  | offer {L : Lookups} {l : DhtLookup} (nodes : List MsgNode)
    (source : L.heard = none ∨ L.heard = some (l.id, nodes)) (here : L.table l.id = some l)
    (sound : l.Sound) (absent : ∀ node ∈ others L.own nodes, node.id ≠ l.id) :
    Step L { (L.note [.offered l.id nodes]).put (l.learn L.own nodes) with heard := none }
  /-- nodes are offered, the target among them -/
  | found {L : Lookups} {l : DhtLookup} (nodes : List MsgNode)
    (source : L.heard = none ∨ L.heard = some (l.id, nodes)) (here : L.table l.id = some l)
    (present : ∃ node ∈ others L.own nodes, node.id = l.id) :
    Step L { (L.note [.offered l.id nodes]).remove l.id with heard := none }
  /-- a query is asked -/
  | request {L : Lookups} {l : DhtLookup} {q : DhtQuery} (source : Nat) (quiet : L.heard = none)
    (here : L.table l.id = some l) (sound : l.Sound) (next : DhtLookup.Next l.querySequence q)
    (more : l.numSources < DHT_CONCURRENCY) (armed : source ≠ 0) :
    Step L ((L.note [.sendTo 0 (some q.addr.deserialize) (.lookupReq L.own l.id),
      .request l.id q l.querySequence]).put (l.request q source))
  /-- a query is answered -/
  | answer {L : Lookups} {l : DhtLookup} {q : DhtQuery} (srcid : DhtId) (nodes : List MsgNode)
    (quiet : L.heard = none) (here : L.table l.id = some l) (sound : l.Sound)
    (mem : q ∈ l.querySequence) (foreign : srcid ≠ L.own) :
    Step L { (L.note [.answered l.id q srcid nodes]).put (l.answer q srcid) with
      heard := some (l.id, nodes) }
  /-- a query in flight times out -/
  | timeOut {L : Lookups} {l : DhtLookup} {q : DhtQuery} (quiet : L.heard = none)
    (here : L.table l.id = some l) (sound : l.Sound) (mem : q ∈ l.querySequence)
    (armed : q.timeoutSource ≠ 0) :
    Step L ((L.note [.timedOut l.id q]).put (l.timeOut q))
  /-- a lookup fails -/
  | fail {L : Lookups} {l : DhtLookup} (quiet : L.heard = none) (here : L.table l.id = some l)
    (sound : l.Sound) (exhausted : DhtLookup.Exhausted l.querySequence) :
    Step L ((L.note (l.results.reverse.map (fun result =>
        .completeInIdle result ⟨.hostNotFound, "Lookup failed"⟩) ++
      [.lookupFailed l.id l.querySequence])).remove l.id)

/-- Any number of steps. -/
abbrev Steps : Lookups → Lookups → Prop := Relation.ReflTransGen Step

end Lookups

/-! ## The client -/

namespace DhtClient

/-- The lookups of a client. -/
def lookups (c : DhtClient) : Lookups :=
  ⟨c.id, c.lookupTable, c.calls, c.log.filter Action.searching, none⟩

variable {c : DhtClient} {l : DhtLookup} {k : DhtConnection}

/-- An action that is no matter of lookups. -/
lemma lookups_act (action : Action) (other : action.searching = false) :
    (c.act action).lookups = c.lookups := by
  simp [lookups, act, other]

lemma lookups_act_searching (action : Action) (searching : action.searching = true) :
    (c.act action).lookups = c.lookups.note [action] := by
  simp [lookups, Lookups.note, act, searching]

/-- Actions of a lookup, one for each callback. -/
lemma lookups_foldl_act (f : Nat → Action) (searching : ∀ r, (f r).searching = true)
    (results : List Nat) : (results.foldl (fun c r => c.act (f r)) c).lookups =
      c.lookups.note (results.reverse.map f) := by
  induction results generalizing c with
  | nil => rfl
  | cons r rs ih =>
    rw [List.foldl_cons, ih, lookups_act_searching _ (searching r), ← Lookups.note_append,
      List.reverse_cons, List.map_append]
    rfl

lemma lookups_putLookup : (c.putLookup l).lookups = c.lookups.put l := rfl

lemma Serves.lookups {c' : DhtClient} (F : Serves c c') : c'.lookups = c.lookups := by
  have other : ∀ action : Action, action.serving = true → action.searching = false := by
    intro action serving
    unfold Action.serving at serving
    split at serving <;> first | rfl | cases serving | simpa [Action.searching] using serving
  have same := F.same
  simp only [Prod.mk.injEq] at same
  obtain ⟨id, -, table, calls⟩ := same
  rw [DhtClient.lookups, id, table, calls, F.filter other]
  rfl

lemma lookups_lookupRemove (here : c.lookupTable l.id = some l) :
    (c.lookupRemove l.id).lookups = c.lookups.remove l.id := by
  rw [lookupRemove, here]
  exact lookupDestroy_serves.lookups

lemma lookups_lookupReplace : (c.lookupReplace l).lookups = c.lookups.put l := by
  unfold lookupReplace
  split
  · exact lookupDestroy_serves.lookups
  · rfl

/-- The last step of a lookup. -/
lemma lookups_finish : ((c.putLookup { l with results := [] }).lookupRemove l.id).lookups =
    c.lookups.remove l.id := by
  rw [lookups_lookupRemove (l := { l with results := [] }) (Function.update_self _ _ _)]
  simp [lookups, Lookups.remove, putLookup]

/-! Dispatching. -/

/-- Asking a query is one step. -/
lemma requestQuery_searches {q : DhtQuery} (C : c.books.Consistent (some l.id))
    (here : c.lookupTable l.id = some l) (next : DhtLookup.Next l.querySequence q)
    (more : l.numSources < DHT_CONCURRENCY) :
    Lookups.Step c.lookups (c.requestQuery l q).lookups := by
  have e : (c.requestQuery l q).lookups = ((c.lookups.note
      [.sendTo 0 (some q.addr.deserialize) (.lookupReq c.id l.id),
        .request l.id q l.querySequence]).put (l.request q c.nextSource)) := by
    rw [← List.singleton_append, Lookups.note_append, ← lookups_act_searching _ rfl,
      ← lookups_act_searching _ rfl]
    rfl
  rw [e]
  exact .request c.nextSource rfl here (C.lookup _ _ here).2 next more C.next

/-- One more query that is asked. -/
lemma begun_concat {visited : List DhtQuery} {q : DhtQuery} (begun : ∀ x ∈ visited, x.Begun)
    (asked : q.Begun) : ∀ x ∈ visited ++ [q], x.Begun := by
  intro x mx
  rcases List.mem_append.mp mx with mx | mx
  · exact begun x mx
  · exact List.mem_singleton.mp mx ▸ asked

/-- The loop counts one more query. -/
lemma countAlive_concat {visited : List DhtQuery} {q : DhtQuery} {numAlive : Nat} {isAlive : Bool}
    (alive : numAlive = DhtLookup.countAlive visited) (few : numAlive < DHT_NODE_COUNT)
    (same : q.isAlive = isAlive) :
    (if isAlive then guintInc numAlive else numAlive) = DhtLookup.countAlive (visited ++ [q]) := by
  have inc : guintInc numAlive = numAlive + 1 :=
    Nat.mod_eq_of_lt (Nat.lt_trans (Nat.succ_lt_succ few) (by decide))
  rw [inc, alive, DhtLookup.countAlive, DhtLookup.countAlive, List.countP_append]
  simp [List.countP_cons, same]
  split <;> rfl

/-- The loop asks queries one after the other. It ends where it should. -/
lemma dispatchLoop_searches (visited todo : List DhtQuery) (C : c.books.Consistent (some l.id))
    (here : c.lookupTable l.id = some l) (split : l.querySequence = visited ++ todo)
    (begun : ∀ q ∈ visited, q.Begun) (numAlive : Nat)
    (alive : numAlive = DhtLookup.countAlive visited) :
    Lookups.Steps c.lookups (dispatchLoop todo c l numAlive).1.lookups ∧
      ((dispatchLoop todo c l numAlive).2.numSources = 0 →
        ∃ visited rest, (dispatchLoop todo c l numAlive).2.querySequence = visited ++ rest ∧
          (∀ q ∈ visited, q.Begun) ∧
          (rest = [] ∨ DHT_NODE_COUNT ≤ DhtLookup.countAlive visited)) := by
  induction todo generalizing c l visited numAlive with
  | nil =>
    rw [List.append_nil] at split
    exact ⟨.refl, fun _ => ⟨visited, [], by rw [List.append_nil]; exact split, begun, .inl rfl⟩⟩
  | cons q rest ih =>
    have S := (C.lookup _ _ here).2
    have mem : q ∈ l.querySequence := by simp [split]
    unfold dispatchLoop
    by_cases go : l.numSources < DHT_CONCURRENCY ∧ numAlive < DHT_NODE_COUNT
    · rw [if_pos go]
      by_cases ask : !q.isFinished ∧ q.timeoutSource = 0
      · rw [if_pos ask]
        have waiting : q.isFinished = false := by simpa using ask.1
        have fresh : c.nextSource ≠ 0 := C.next
        have next : DhtLookup.Next l.querySequence q := by
          refine ⟨visited, rest, split, ?_, begun, alive ▸ go.2⟩
          rintro (done | armed)
          · exact absurd (waiting.symm.trans done) Bool.false_ne_true
          · exact armed ask.2
        have step := requestQuery_searches C here next go.1
        have C' := requestQuery_consistent C here mem go.1 waiting ask.2
        -- the query stays in its place
        have split' : (l.request q c.nextSource).querySequence =
            (visited ++ [{ q with timeoutSource := c.nextSource }]) ++ rest := by
          have e := DhtLookup.setQuery_middle { q with timeoutSource := c.nextSource } split S.iters rfl
          rw [List.append_assoc]
          exact e
        have begun' : ∀ x ∈ visited ++ [{ q with timeoutSource := c.nextSource }], x.Begun :=
          begun_concat begun (.inr fresh)
        obtain ⟨steps, stop⟩ := ih (c := c.requestQuery l q) (l := l.request q c.nextSource)
          _ C' (Function.update_self _ _ _) split' begun' _ (countAlive_concat alive go.2 rfl)
        exact ⟨.head step steps, stop⟩
      · rw [if_neg ask]
        refine ih (visited ++ [q]) C here (by simp [split]) (begun_concat begun ?_) _
          (countAlive_concat alive go.2 rfl)
        by_cases done : q.isFinished = true
        · exact .inl done
        · refine .inr fun idle => ask ⟨?_, idle⟩
          simpa using done
    · rw [if_neg go]
      refine ⟨.refl, fun none => ⟨visited, q :: rest, split, begun, .inr ?_⟩⟩
      rw [← alive]
      by_contra few
      exact go ⟨none ▸ (by decide), Nat.lt_of_not_le few⟩

/-- A lookup goes on query by query, or fails. -/
lemma lookupDispatch_searches (C : c.books.Consistent (some l.id))
    (here : c.lookupTable l.id = some l) :
    Lookups.Steps c.lookups (c.lookupDispatch l).lookups := by
  have S := (C.lookup _ _ here).2
  obtain ⟨steps, stop⟩ := dispatchLoop_searches [] l.querySequence C here rfl
    (List.forall_mem_nil _) 0 rfl
  have C' := dispatchLoop_consistent l.querySequence 0 C here (fun _ m => m) S.iters
  obtain ⟨id, _, here'⟩ := dispatchLoop_here l.querySequence 0 here
  unfold lookupDispatch
  generalize dispatchLoop l.querySequence c l 0 = r at steps stop C' id here'
  obtain ⟨c', l'⟩ := r
  dsimp only at steps stop C' id here' ⊢
  rw [← id] at here'
  split
  · rename_i none
    have S' := (C'.lookup _ _ here').2
    rw [lookups_finish, lookups_foldl_act _ (fun _ => rfl), lookups_act_searching _ rfl]
    obtain ⟨visited, rest, split, begun, enough⟩ := stop none
    -- no query is armed, so those that were passed over are finished
    have idle : ∀ q ∈ l'.querySequence, q.timeoutSource = 0 := by
      have count := S'.numSources
      rw [none, DhtLookup.countArmed, eq_comm, List.countP_eq_zero] at count
      exact fun q mem => by simpa using count q mem
    have finished : ∀ q ∈ visited, q.isFinished = true := by
      intro q mem
      refine (begun q mem).resolve_right fun armed => armed (idle q ?_)
      rw [split]
      exact List.mem_append_left _ mem
    have step := Lookups.Step.fail (L := c'.lookups) rfl here' S'
      ⟨visited, rest, split, idle, finished, enough⟩
    refine steps.tail ?_
    simpa [Lookups.note] using step
  · exact steps

/-! Nodes. -/

/-- A lookup that is there is put back. -/
lemma putLookup_self (here : c.lookupTable l.id = some l) : c.putLookup l = c := by
  have e : Function.update c.lookupTable l.id (some l) = c.lookupTable := by
    rw [← here]
    exact Function.update_eq_self _ _
  rw [putLookup, e]

lemma putLookup_putLookup {l' : DhtLookup} (same : l'.id = l.id) :
    (c.putLookup l).putLookup l' = c.putLookup l' := by
  simp [putLookup, same]

lemma learn_consistent (own : DhtId) (nodes : List MsgNode) (C : c.books.Consistent (some l.id))
    (here : c.lookupTable l.id = some l) :
    (c.putLookup (l.learn own nodes)).books.Consistent (some (l.learn own nodes).id) := by
  unfold DhtLookup.learn
  induction others own nodes generalizing c l with
  | nil =>
    rw [List.foldl_nil, putLookup_self here]
    exact C
  | cons node nodes ih =>
    have C' := ih (insertQuery_consistent C here node) (Function.update_self _ _ _)
    rw [putLookup_putLookup] at C'
    · exact C'
    · exact DhtLookup.id_foldl_insertQuery nodes

section Random

variable (random : Nat → DhtKey)

/-- A connection that is requested is no matter of lookups. -/
lemma lookups_requestConnection (id : DhtId) (addr : DhtAddress) (result : Nat) :
    (c.requestConnection random id addr result).lookups = c.lookups := by
  unfold requestConnection
  dsimp only
  rw [lookups_act _ rfl, connectionReplace_serves.lookups]
  exact lookups_act (c := (c.makeRandom random).2) _ rfl

lemma lookups_requestConnections (id : DhtId) (addr : DhtAddress) (results : List Nat) :
    (results.foldl (fun c r => c.requestConnection random id addr r) c).lookups = c.lookups := by
  induction results generalizing c with
  | nil => rfl
  | cons r rs ih => rw [List.foldl_cons, ih, lookups_requestConnection]

/-- A lookup that is told of its node is removed. -/
lemma updateLoop_found (nodes : List MsgNode)
    (present : ∃ node ∈ others c.id nodes, node.id = l.id) :
    (c.updateLoop random l nodes).lookups = c.lookups.remove l.id := by
  induction nodes generalizing c l with
  | nil => simp [others] at present
  | cons node nodes ih =>
    unfold updateLoop
    split
    · rename_i own
      refine ih ?_
      rwa [others, List.filter_cons_of_neg (by simpa using own)] at present
    · rename_i foreign
      split
      · rw [lookups_finish, lookups_requestConnections]
      · rename_i other
        rw [others, List.filter_cons_of_pos (by simpa using foreign)] at present
        obtain ⟨target, mem, id⟩ := present
        have mem : target ∈ others c.id nodes := by
          refine (List.mem_cons.mp mem).resolve_left ?_
          rintro rfl
          exact other id
        rw [ih (c := c.putLookup (l.insertQuery node))
          ⟨target, mem, id.trans (DhtLookup.id_insertQuery node).symm⟩]
        simp [lookups, Lookups.remove, putLookup]

/-- A lookup that is not told of its node learns of others, and goes on. -/
lemma updateLoop_absent (nodes : List MsgNode) (here : c.lookupTable l.id = some l)
    (absent : ∀ node ∈ others c.id nodes, node.id ≠ l.id) :
    c.updateLoop random l nodes =
      (c.putLookup (l.learn c.id nodes)).lookupDispatch (l.learn c.id nodes) := by
  induction nodes generalizing c l with
  | nil =>
    show c.lookupDispatch l = (c.putLookup l).lookupDispatch l
    rw [putLookup_self here]
  | cons node nodes ih =>
    unfold updateLoop
    split
    · rename_i own
      have skip : others c.id (node :: nodes) = others c.id nodes :=
        List.filter_cons_of_neg (by simpa using own)
      rw [DhtLookup.learn, skip]
      exact ih here (skip ▸ absent)
    · rename_i foreign
      have keep : others c.id (node :: nodes) = node :: others c.id nodes :=
        List.filter_cons_of_pos (by simpa using foreign)
      rw [keep] at absent
      have learn : l.learn c.id (node :: nodes) = (l.insertQuery node).learn c.id nodes := by
        rw [DhtLookup.learn, keep]
        rfl
      rw [if_neg (absent node (List.mem_cons_self ..)), learn]
      have rest : ∀ node' ∈ others c.id nodes, node'.id ≠ (l.insertQuery node).id := by
        rw [DhtLookup.id_insertQuery]
        exact fun node' mem => absent node' (List.mem_cons_of_mem _ mem)
      rw [ih (c := c.putLookup (l.insertQuery node)) (Function.update_self _ _ _) rest]
      exact congrArg (lookupDispatch · _) (putLookup_putLookup (DhtLookup.id_learn c.id nodes))

lemma lookupUpdate_searches (nodes : List MsgNode) (C : c.books.Consistent (some l.id))
    (here : c.lookupTable l.id = some l) {heard : Option (DhtId × List MsgNode)}
    (source : heard = none ∨ heard = some (l.id, nodes)) {L : Lookups}
    (e : { c.lookups with heard := heard } = L) :
    Lookups.Steps L (c.lookupUpdate random l nodes).lookups := by
  subst e
  have offered := lookups_act_searching (c := c) (.offered l.id nodes) rfl
  by_cases present : ∃ node ∈ others c.id nodes, node.id = l.id
  · rw [lookupUpdate, updateLoop_found random (c := c.act _) nodes present, offered]
    exact .single (.found nodes source here present)
  · have absent : ∀ node ∈ others c.id nodes, node.id ≠ l.id := by simpa using present
    have C' := learn_consistent (c := c.act (.offered l.id nodes)) c.id nodes C here
    rw [lookupUpdate, updateLoop_absent random (c := c.act _) nodes here absent]
    refine .head ?_ (lookupDispatch_searches C' (Function.update_self _ _ _))
    have step := Lookups.Step.offer (L := { c.lookups with heard := heard }) nodes source here
      (C.lookup _ _ here).2 absent
    have e : ((c.act (.offered l.id nodes)).putLookup (l.learn c.id nodes)).lookups =
        { (c.lookups.note [.offered l.id nodes]).put (l.learn c.id nodes) with heard := none } := by
      rw [lookups_putLookup, offered]
      rfl
    exact e ▸ step

lemma lookupAsync_searches (C : c.books.Consistent none) (now : Int) (id : DhtId) :
    Lookups.Steps c.lookups (c.lookupAsync random now id).lookups := by
  unfold lookupAsync
  dsimp only
  split
  · rw [lookups_act _ rfl]
    exact .single (.refuse rfl)
  · rename_i foreign
    split
    · rename_i l e
      obtain ⟨rfl, _⟩ := C.lookup _ _ e
      exact .single (.join (L := c.lookups) rfl e foreign)
    · rename_i free
      have C' := putNew_consistent (c := ({ c with calls := c.calls + 1 } : DhtClient).act
        (.lookupNew id)) C [c.calls] free
      have create := Lookups.Step.create (L := c.lookups) rfl id
      have join := Lookups.Step.join (L := (c.lookups.note [.lookupNew id]).put (.new id []))
        (l := .new id []) rfl (Function.update_self _ _ _) foreign
      rw [Lookups.put_put _ (by rfl), ← lookups_act_searching _ rfl] at join
      refine .head create (.head join ?_)
      exact lookupUpdate_searches random _ C' (Function.update_self _ _ _) (.inl rfl) rfl

lemma bootstrap_searches (C : c.books.Consistent none) (address : GSocketAddress) :
    Lookups.Steps c.lookups (c.bootstrap random address).lookups := by
  unfold bootstrap
  dsimp only
  split
  · rename_i l e
    obtain ⟨id, _⟩ := C.lookup _ _ e
    exact lookupUpdate_searches random _ (C.weaken _) (id ▸ e) (.inl rfl) rfl
  · rename_i free
    have C' := putNew_consistent (c := c.act (.lookupNew c.id)) C [] free
    have create := Lookups.Step.create (L := c.lookups) rfl c.id
    rw [← lookups_act_searching _ rfl] at create
    exact .head create (lookupUpdate_searches random _ C' (Function.update_self _ _ _) (.inl rfl) rfl)

lemma refresh_searches (C : c.books.Consistent none) (now : Int) (nbits : Nat)
    (drawn : Nat → UInt8) :
    Lookups.Steps c.lookups (c.refresh random now nbits drawn).lookups := by
  have C' := lookupReplace_consistent (c := c.act (.lookupNew (refreshId c.id nbits drawn))) C
    (refreshId c.id nbits drawn)
  have create := Lookups.Step.create (L := c.lookups) rfl (refreshId c.id nbits drawn)
  rw [← lookups_act_searching _ rfl, ← lookups_lookupReplace] at create
  exact .head create (lookupUpdate_searches random _ C' (lookupReplace_lookupTable _) (.inl rfl) rfl)

end Random

/-! Events. -/

section Receive

variable (S : Sodium) (random : Nat → DhtKey) (env : Env) (sockaddr : GSocketAddress)

/-- A lookup response is an answer to a query that waits. -/
lemma lookupRes_searches (C : c.books.Consistent none) (srcid dstid : DhtId)
    (nodes : List MsgNode) :
    Lookups.Steps c.lookups (c.lookupRes random env sockaddr srcid dstid nodes).lookups := by
  rcases lookupRes_cases random env sockaddr C srcid dstid nodes with
    e | e | ⟨l, q, here, rfl, foreign, mem, _, e⟩
  · rw [e]
  · rw [e]
    exact .refl
  · rw [e]
    have answer := Lookups.Step.answer (L := c.lookups) srcid nodes rfl here (C.lookup _ _ here).2 mem
      foreign
    refine .head answer ?_
    have C' := answer_consistent srcid ((c.update env.updateTime srcid
      (.serialize sockaddr) true).act (.answered l.id q srcid nodes)) C here mem rfl
    refine lookupUpdate_searches random _ C' (Function.update_self _ _ _) (.inr rfl) ?_
    rw [lookups_putLookup, (queryDestroy_serves q).lookups, lookups_act_searching _ rfl,
      ((C.lookup _ _ here).2.answer srcid mem).id]
    rfl

lemma receive_searches (C : c.books.Consistent none) (w : WordSize) (memory : Nat → UInt8)
    (len : Nat) :
    Lookups.Steps c.lookups (c.receive S random env w memory len sockaddr).lookups := by
  unfold receive
  split
  · rename_i msg _
    cases msg with
    | lookupReq srcid dstid =>
      rw [receiveMsg, (lookupReq_serves env sockaddr srcid dstid).lookups]
    | lookupRes srcid dstid nodes => exact lookupRes_searches random env sockaddr C _ _ nodes
    | connectionReq pubkey nonce =>
      rw [receiveMsg, (connectionReq_serves S random env sockaddr pubkey nonce).lookups]
    | connectionRes1 pubkey nonce peerNonce authTag =>
      rw [receiveMsg, (connectionRes1_serves S env sockaddr pubkey nonce peerNonce authTag).lookups]
    | connectionRes2 peerNonce authTag =>
      rw [receiveMsg, (connectionRes2_serves sockaddr peerNonce authTag).lookups]
  · exact .refl

end Receive

/-- A timeout is that of a query, or of a connection. -/
lemma fire_searches (C : c.books.Consistent none) (env : Env) (source : Nat) :
    Lookups.Steps c.lookups (c.fire env source).lookups := by
  cases e : c.sources source with
  | none => rw [fire, e]
  | some timer =>
    cases timer with
    | query id i =>
      obtain ⟨l, q, here, mem, rfl, pos, eq⟩ := queryTimeout_eq env C e
      have C' := timeOut_consistent env C here mem pos
      have timeOut := Lookups.Step.timeOut (L := c.lookups) rfl here (C.lookup _ _ here).2 mem
        (Nat.ne_of_gt pos)
      rw [eq]
      refine .head ?_ (lookupDispatch_searches C' (Function.update_self _ _ _))
      rw [← lookups_act_searching _ rfl] at timeOut
      exact timeOut
    | connection nonce =>
      rw [fire, e]
      dsimp only
      rw [(connectionTimeout_serves nonce).lookups]
      exact .refl

/-- An event is a sequence of steps of the lookups. -/
theorem step_searches (S : Sodium) (w : WordSize) (random : Nat → DhtKey)
    (C : c.books.Consistent none) (env : Env) (e : Event) :
    Lookups.Steps c.lookups (c.step S w random env e).lookups := by
  cases e with
  | lookupAsync id => exact lookupAsync_searches random C _ id
  | bootstrap address => exact bootstrap_searches random C address
  | setListen listen => exact .refl
  | refresh nbits drawn => exact refresh_searches random C _ nbits drawn
  | receive memory len sockaddr => exact receive_searches S random env sockaddr C w memory len
  | timeout source => exact fire_searches C env source

/-- A continued run is a sequence of steps of the lookups. -/
theorem append_searches (S : Sodium) (w : WordSize) (random : Nat → DhtKey) (key : DhtKey)
    (events later : List (Env × Event)) :
    Lookups.Steps (run S w random key events).lookups
      (run S w random key (events ++ later)).lookups := by
  induction later using List.reverseRecOn with
  | nil => rw [List.append_nil]
  | append_singleton later e ih =>
    have C := run_consistent S w random key (events ++ later)
    rw [← List.append_assoc, run_concat]
    exact ih.trans (step_searches S w random C e.1 e.2)

/-- A run is a sequence of steps of the lookups. -/
theorem run_searches (S : Sodium) (w : WordSize) (random : Nat → DhtKey) (key : DhtKey)
    (events : List (Env × Event)) :
    Lookups.Steps (.init (new S key).id) (run S w random key events).lookups :=
  append_searches S w random key [] events

end DhtClient

end Nanotalk
