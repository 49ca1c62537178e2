import Nanotalk.Dht.Lookups

/-!
# How a lookup searches

What the log tells about the life of a lookup, and how that fits the lookup in the table: which
addresses it was offered, which ones it asked, and what it heard from them (`Searched`). The
invariant is kept by each step of the lookups, hence in every run.

* `lookup_invariant`: the queries of a lookup, their index, their timers and their distances.
* `lookup_asks`: a lookup asks the closest nodes first and every address once, and it ends.
* `failure_exhaustive`: a lookup fails only after it asked all the nodes it had to.
-/

namespace Nanotalk
open Glib
open DhtClient (Env)

/-! ## The life of a lookup -/

namespace Action

/-- The lookup that an entry of the log is about. -/
def subject : Action → Option DhtId
  | sendTo _ _ (.lookupReq _ dstid) => some dstid
  | lookupNew id => some id
  | offered id _ => some id
  | request id _ _ => some id
  | answered id _ _ _ => some id
  | timedOut id _ => some id
  | lookupFailed id _ => some id
  | _ => none

/-- Where a lookup request is sent. -/
def dest : Action → Option (Option GSocketAddress)
  | sendTo _ dest (.lookupReq ..) => some dest
  | _ => none

/-- The query of a lookup request. -/
def requested : Action → Option DhtQuery
  | request _ query _ => some query
  | _ => none

/-- The nodes that are offered to a lookup. -/
def nodes : Action → List MsgNode
  | offered _ nodes => nodes
  | _ => []

/-- A query was answered or has timed out. -/
def settled : Action → Option DhtQuery
  | answered _ query _ _ => some query
  | timedOut _ query => some query
  | _ => none

/-- A query in flight was answered or has timed out. -/
def resolves (action : Action) : Bool := action.settled.any (·.timeoutSource ≠ 0)

end Action

/-- The entries about a lookup since it was created, the last one first. -/
def life (id : DhtId) (log : List Action) : List Action :=
  (log.takeWhile (· ≠ .lookupNew id)).filter (·.subject = some id)

/-- The destinations of the requests. -/
def sends (life : List Action) : List (Option GSocketAddress) := life.filterMap Action.dest

/-- The queries of the requests, as they were before. -/
def requests (life : List Action) : List DhtQuery := life.filterMap Action.requested

/-- The addresses offered. -/
def offers (own : DhtId) (life : List Action) : List DhtAddress :=
  life.flatMap fun action => (others own action.nodes).map (·.addr)

/-- The number of requests that were answered or have timed out. -/
def resolved (life : List Action) : Nat := life.countP Action.resolves

/-- The id under which the node at an address is known: that of its last answer, or else that under
    which it was first offered. -/
def knownId (own : DhtId) (addr : DhtAddress) : List Action → Option DhtId
  | [] => none
  | .answered _ query srcid _ :: life =>
    if query.addr = addr then some srcid else knownId own addr life
  | .offered _ nodes :: life =>
    (knownId own addr life).or (((others own nodes).find? (·.addr = addr)).map (·.id))
  | _ :: life => knownId own addr life

section Life

variable {id : DhtId} {action : Action} {log : List Action}

@[simp] lemma life_new : life id (.lookupNew id :: log) = [] := by
  simp [life]

lemma life_cons (about : action.subject = some id) (later : action ≠ .lookupNew id) :
    life id (action :: log) = action :: life id log := by
  rw [life, List.takeWhile_cons_of_pos (by simpa using later),
    List.filter_cons_of_pos (by simpa using about)]
  rfl

/-- What is about another id does not matter. -/
lemma life_other (other : action.subject ≠ some id) : life id (action :: log) = life id log := by
  have later : action ≠ .lookupNew id := fun e => other (e ▸ rfl)
  rw [life, List.takeWhile_cons_of_pos (by simpa using later),
    List.filter_cons_of_neg (by simpa using other)]
  rfl

/-- What is about an id is a matter of lookups. -/
lemma searching_of_subject (about : action.subject = some id) : action.searching = true := by
  cases action with
  | sendTo _ _ msg =>
    cases msg with
    | lookupReq => rfl
    | _ => cases about
  | lookupNew | offered | request | answered | timedOut | lookupFailed => rfl
  | _ => cases about

lemma life_append {new : List Action}
    (about : ∀ action ∈ new, action.subject = some id ∧ action ≠ .lookupNew id) :
    life id (new ++ log) = new ++ life id log := by
  induction new with
  | nil => rfl
  | cons action new ih =>
    obtain ⟨first, later⟩ := about action (List.mem_cons_self ..)
    rw [List.cons_append, life_cons first later,
      ih fun a mem => about a (List.mem_cons_of_mem _ mem)]
    rfl

lemma life_append_other {new : List Action} (other : ∀ action ∈ new, action.subject ≠ some id) :
    life id (new ++ log) = life id log := by
  induction new with
  | nil => rfl
  | cons action new ih =>
    rw [List.cons_append, life_other (other action (List.mem_cons_self ..)),
      ih fun a mem => other a (List.mem_cons_of_mem _ mem)]

/-- The actions of a lookup are all there is to its life. -/
lemma life_filter (log : List Action) : life id (log.filter Action.searching) = life id log := by
  induction log with
  | nil => rfl
  | cons action log ih =>
    by_cases new : action = .lookupNew id
    · subst new
      rw [List.filter_cons_of_pos rfl, life_new, life_new]
    · by_cases about : action.subject = some id
      · rw [List.filter_cons_of_pos (searching_of_subject about), life_cons about new,
          life_cons about new, ih]
      · rw [life_other about, ← ih]
        by_cases searching : action.searching = true
        · rw [List.filter_cons_of_pos searching, life_other about]
        · rw [List.filter_cons_of_neg searching]

end Life

/-! ## Queries -/

namespace DhtLookup

variable {l l' : DhtLookup} {q q' : DhtQuery}

namespace Changed

/-- The queries after a change. -/
lemma mem_iff (change : Changed l l' q q') (S : l.Sound) (x : DhtQuery) :
    x ∈ l'.querySequence ↔ x = q' ∨ x ∈ l.querySequence ∧ x.iter ≠ q.iter := by
  obtain ⟨rest, p, p'⟩ := change.perm
  have iters := (p.map (·.iter)).nodup_iff.mp S.iters
  rw [List.map_cons, List.nodup_cons] at iters
  rw [p'.mem_iff, p.mem_iff, List.mem_cons, List.mem_cons]
  constructor
  · rintro (rfl | mem)
    · exact .inl rfl
    · exact .inr ⟨.inr mem, fun e => iters.1 (e ▸ List.mem_map_of_mem mem)⟩
  · rintro (rfl | ⟨rfl | mem, ne⟩)
    · exact .inl rfl
    · exact absurd rfl ne
    · exact .inr mem

/-- The query that was changed. -/
lemma mem (change : Changed l l' q q') : q ∈ l.querySequence := by
  obtain ⟨rest, p, _⟩ := change.perm
  exact p.mem_iff.mpr (List.mem_cons_self ..)

/-- The query at an address after a change. -/
lemma query (change : Changed l l' q q') (S : l.Sound) (addr : DhtAddress) :
    l'.query addr = if q.addr = addr then some q' else l.query addr := by
  by_cases e : q.addr = addr
  · rw [if_pos e, ← e, ← change.addr]
    exact change.sound.query_of_mem ((change.mem_iff S q').mpr (.inl rfl))
  · rw [if_neg e]
    -- the other queries are the same
    ext x
    constructor
    · intro found
      obtain ⟨mem, rfl⟩ := change.sound.query_mem found
      rcases (change.mem_iff S x).mp mem with rfl | ⟨mem, _⟩
      · exact absurd change.addr.symm e
      · exact S.query_of_mem mem
    · intro found
      obtain ⟨mem, rfl⟩ := S.query_mem found
      refine change.sound.query_of_mem ((change.mem_iff S x).mpr (.inr ⟨mem, fun same => ?_⟩))
      exact e (congrArg (·.addr) (List.inj_on_of_nodup_map S.iters mem change.mem same)).symm

end Changed

section Insert

variable (node : MsgNode)

/-- The queries after a node was offered. -/
lemma mem_insertQuery (x : DhtQuery) : x ∈ (l.insertQuery node).querySequence ↔
    x ∈ l.querySequence ∨ (l.queryTable node.addr = none ∧ x = l.newQuery node) := by
  unfold insertQuery
  split
  · rename_i known
    have ne : l.queryTable node.addr ≠ none := Option.isSome_iff_ne_none.mp known
    simp [ne]
  · rename_i new
    rw [Option.not_isSome_iff_eq_none] at new
    simp only [new, true_and, (insertSorted_perm _ _).mem_iff, List.mem_cons, or_comm]

@[simp] lemma numSources_insertQuery : (l.insertQuery node).numSources = l.numSources := by
  unfold insertQuery
  split <;> rfl

/-- No address is without a query and known. -/
lemma Sound.query_eq_none (S : l.Sound) {addr : DhtAddress} :
    l.query addr = none ↔ l.queryTable addr = none := by
  constructor
  · intro unknown
    cases e : l.queryTable addr with
    | none => rfl
    | some i =>
      obtain ⟨q, mem, _, rfl⟩ := (S.table _ _).mp e
      exact absurd (unknown.symm.trans (S.query_of_mem mem)) nofun
  · intro e
    rw [DhtLookup.query, e]
    rfl

/-- The query at an address after a node was offered. -/
lemma Sound.query_insertQuery (S : l.Sound) (addr : DhtAddress) :
    (l.insertQuery node).query addr =
      (l.query addr).or (if node.addr = addr then some (l.newQuery node) else none) := by
  have S' := (S.insertQuery node).1
  cases e : l.query addr with
  | some q =>
    obtain ⟨mem, rfl⟩ := S.query_mem e
    rw [Option.some_or]
    exact S'.query_of_mem ((mem_insertQuery node q).mpr (.inl mem))
  | none =>
    rw [Option.none_or]
    split
    · rename_i same
      subst same
      have new := S.query_eq_none.mp e
      exact S'.query_of_mem ((mem_insertQuery node _).mpr (.inr ⟨new, rfl⟩))
    · rename_i other
      cases found : (l.insertQuery node).query addr with
      | none => rfl
      | some q =>
        obtain ⟨mem, rfl⟩ := S'.query_mem found
        rcases (mem_insertQuery node q).mp mem with mem | ⟨_, rfl⟩
        · exact absurd (e.symm.trans (S.query_of_mem mem)) nofun
        · exact absurd rfl other

end Insert

section Learn

variable (own : DhtId) (nodes : List MsgNode)

lemma Sound.learn (S : l.Sound) : (l.learn own nodes).Sound := by
  unfold DhtLookup.learn
  induction others own nodes generalizing l with
  | nil => exact S
  | cons node nodes ih => exact ih (S.insertQuery node).1

@[simp] lemma numSources_learn : (l.learn own nodes).numSources = l.numSources := by
  unfold DhtLookup.learn
  induction others own nodes generalizing l with
  | nil => rfl
  | cons node nodes ih => rw [List.foldl_cons, ih, numSources_insertQuery]

@[simp] lemma results_learn : (l.learn own nodes).results = l.results := by
  unfold DhtLookup.learn
  induction others own nodes generalizing l with
  | nil => rfl
  | cons node nodes ih => rw [List.foldl_cons, ih, results_insertQuery]

lemma subset_learn : l.querySequence ⊆ (l.learn own nodes).querySequence := by
  unfold DhtLookup.learn
  induction others own nodes generalizing l with
  | nil => exact List.Subset.refl _
  | cons node nodes ih => exact fun x mem => ih ((mem_insertQuery node x).mpr (.inl mem))

/-- A new query is for one of the nodes, and it is neither finished nor in flight. -/
lemma mem_learn {x : DhtQuery} (mem : x ∈ (l.learn own nodes).querySequence) :
    x ∈ l.querySequence ∨ ¬ x.Begun ∧ ∃ node ∈ others own nodes, node.addr = x.addr := by
  unfold DhtLookup.learn at mem
  generalize others own nodes = nodes at mem ⊢
  induction nodes generalizing l with
  | nil => exact .inl mem
  | cons node nodes ih =>
    rcases ih mem with mem | ⟨idle, node', mem', addr⟩
    · rcases (mem_insertQuery node x).mp mem with mem | ⟨_, rfl⟩
      · exact .inl mem
      · refine .inr ⟨?_, node, List.mem_cons_self .., rfl⟩
        rintro (done | armed)
        · cases done
        · exact armed rfl
    · exact .inr ⟨idle, node', List.mem_cons_of_mem _ mem', addr⟩

/-- Where an address has no query yet, the first node with it counts. -/
lemma Sound.metric_learn (S : l.Sound) (addr : DhtAddress) :
    ((l.learn own nodes).query addr).map (·.metric) = ((l.query addr).map (·.metric)).or
      (((others own nodes).find? (·.addr = addr)).map (l.id.xor ·.id)) := by
  unfold DhtLookup.learn
  induction others own nodes generalizing l with
  | nil => simp
  | cons node nodes ih =>
    rw [List.foldl_cons, ih (S.insertQuery node).1, S.query_insertQuery, Option.map_or,
      Option.or_assoc, List.find?_cons, id_insertQuery]
    by_cases same : node.addr = addr
    · simp [same, newQuery]
    · simp [same]

end Learn

end DhtLookup

/-! ## The invariant -/

/-- The requests of a lookup go to addresses that it was offered, to each of them once. -/
structure Asked (own : DhtId) (life : List Action) : Prop where
  sends : sends life = (requests life).map fun q => some q.addr.deserialize
  nodup : ((requests life).map (·.addr)).Nodup
  offered : ∀ q ∈ requests life, q.addr ∈ offers own life

/-- What the log tells about a lookup in the table. -/
structure Searched (own : DhtId) (heard : Option (DhtId × List MsgNode)) (life : List Action)
    (l : DhtLookup) : Prop where
  sound : l.Sound
  begun : ∀ r ∈ requests life, ∃ q ∈ l.querySequence, q.addr = r.addr ∧ q.Begun
  offered : ∀ q ∈ l.querySequence, q.addr ∈ offers own life
  count : (requests life).length = resolved life + l.numSources
  known : ∀ addr, (l.query addr).map (·.metric) = (knownId own addr life).map l.id.xor
  settled : ∀ q ∈ l.querySequence, q.isFinished = true →
    ∃ q' ∈ life.filterMap Action.settled, q'.iter = q.iter
  absent : l.id ≠ own → ∀ action ∈ life, ∀ node ∈ action.nodes, node.id ≠ l.id
  answers : l.id ≠ own → ∀ id q srcid nodes, .answered id q srcid nodes ∈ life →
    (∀ node ∈ nodes, node.id ≠ l.id) ∨ heard = some (l.id, nodes)
  results : l.id = own → l.results = []

namespace Searched

variable {own : DhtId} {heard : Option (DhtId × List MsgNode)} {life : List Action}
  {l l' : DhtLookup} {q q' : DhtQuery}

lemma new (id : DhtId) : Searched own heard [] (.new id []) where
  sound := DhtLookup.sound_new id []
  begun := List.forall_mem_nil _
  offered := List.forall_mem_nil _
  count := rfl
  known _ := rfl
  settled := List.forall_mem_nil _
  absent _ := List.forall_mem_nil _
  answers _ _ _ _ _ mem := absurd mem List.not_mem_nil
  results _ := rfl

/-- A callback joins. -/
lemma join (S : Searched own heard life l) (foreign : l.id ≠ own) (results : List Nat) :
    Searched own heard life { l with results := results } :=
  { S with
    sound := S.sound.setResults results
    results := fun e => absurd e foreign }

/-- Nodes are offered. -/
lemma offer (S : Searched own heard life l) (nodes : List MsgNode)
    (source : heard = none ∨ heard = some (l.id, nodes))
    (absent : ∀ node ∈ others own nodes, node.id ≠ l.id) :
    Searched own none (.offered l.id nodes :: life) (l.learn own nodes) where
  sound := S.sound.learn own nodes
  begun r mem := by
    obtain ⟨q, here, addr, begun⟩ := S.begun r mem
    exact ⟨q, DhtLookup.subset_learn own nodes here, addr, begun⟩
  offered q mem := by
    rw [offers, List.flatMap_cons, List.mem_append]
    rcases DhtLookup.mem_learn own nodes mem with mem | ⟨_, node, mem, addr⟩
    · exact .inr (S.offered q mem)
    · exact .inl (List.mem_map.mpr ⟨node, mem, addr⟩)
  count := by
    rw [DhtLookup.numSources_learn]
    exact S.count
  known addr := by
    rw [S.sound.metric_learn, S.known, DhtLookup.id_learn, knownId, Option.map_or, Option.map_map]
    rfl
  settled q mem done := by
    rcases DhtLookup.mem_learn own nodes mem with mem | ⟨idle, _⟩
    · exact S.settled q mem done
    · exact absurd (.inl done) idle
  absent foreign action mem node named := by
    rw [DhtLookup.id_learn] at foreign ⊢
    rcases List.mem_cons.mp mem with rfl | mem
    · intro target
      refine absent node (List.mem_filter.mpr ⟨named, ?_⟩) target
      simpa [target] using foreign
    · exact S.absent foreign action mem node named
  answers foreign id q srcid nodes' mem := by
    rw [DhtLookup.id_learn] at foreign ⊢
    have mem : .answered id q srcid nodes' ∈ life := by simpa using mem
    left
    rcases S.answers foreign id q srcid nodes' mem with absent' | e
    · exact absent'
    · -- these are the nodes offered now
      have same : nodes' = nodes := by
        rcases source with none | some
        · exact absurd (none.symm.trans e) nofun
        · exact congrArg Prod.snd (Option.some.inj (e.symm.trans some))
      subst same
      intro node named target
      refine absent node (List.mem_filter.mpr ⟨named, ?_⟩) target
      simpa [target] using foreign
  results e := by
    rw [DhtLookup.id_learn] at e
    rw [DhtLookup.results_learn]
    exact S.results e

/-! A query changes. -/

/-- A query that has begun is still there after a change. -/
lemma begun_change (S : Searched own heard life l) (change : DhtLookup.Changed l l' q q')
    (keep : q.Begun → q'.Begun) :
    ∀ r ∈ requests life, ∃ x ∈ l'.querySequence, x.addr = r.addr ∧ x.Begun := by
  intro r mem
  obtain ⟨x, here, addr, begun⟩ := S.begun r mem
  by_cases same : x.iter = q.iter
  · obtain rfl := List.inj_on_of_nodup_map S.sound.iters here change.mem same
    exact ⟨q', (change.mem_iff S.sound q').mpr (.inl rfl), change.addr.trans addr, keep begun⟩
  · exact ⟨x, (change.mem_iff S.sound x).mpr (.inr ⟨here, same⟩), addr, begun⟩

lemma offered_change (S : Searched own heard life l) (change : DhtLookup.Changed l l' q q') :
    ∀ x ∈ l'.querySequence, x.addr ∈ offers own life := by
  intro x mem
  rcases (change.mem_iff S.sound x).mp mem with rfl | ⟨mem, _⟩
  · rw [change.addr]
    exact S.offered q change.mem
  · exact S.offered x mem

lemma settled_change (S : Searched own heard life l) (change : DhtLookup.Changed l l' q q')
    (new : List Action) (done : q'.isFinished = true →
      ∃ x ∈ (new ++ life).filterMap Action.settled, x.iter = q.iter) :
    ∀ x ∈ l'.querySequence, x.isFinished = true →
      ∃ y ∈ (new ++ life).filterMap Action.settled, y.iter = x.iter := by
  intro x mem finished
  rcases (change.mem_iff S.sound x).mp mem with rfl | ⟨mem, _⟩
  · rw [change.iter]
    exact done finished
  · obtain ⟨y, here, iter⟩ := S.settled x mem finished
    rw [List.filterMap_append]
    exact ⟨y, List.mem_append_right _ here, iter⟩

/-- The metrics are those of the ids that are known. -/
lemma known_change (S : Searched own heard life l) (change : DhtLookup.Changed l l' q q')
    (metric : q'.metric = q.metric) (addr : DhtAddress) :
    (l'.query addr).map (·.metric) = (knownId own addr life).map l'.id.xor := by
  rw [change.query S.sound, change.id, ← S.known]
  split
  · rename_i e
    rw [← e, S.sound.query_of_mem change.mem]
    exact congrArg some metric
  · rfl

/-- A query is asked. -/
lemma request (S : Searched own heard life l) {source : Nat} (mem : q ∈ l.querySequence)
    (idle : ¬ q.Begun) (more : l.numSources < DHT_CONCURRENCY) (armed : source ≠ 0) :
    Searched own heard (.sendTo 0 (some q.addr.deserialize) (.lookupReq own l.id) ::
      .request l.id q l.querySequence :: life) (l.request q source) := by
  obtain ⟨waiting, unarmed⟩ := not_or.mp idle
  rw [Bool.not_eq_true] at waiting
  rw [not_not] at unarmed
  have change := S.sound.request mem more waiting unarmed armed
  refine ⟨change.sound, ?_, S.offered_change change, ?_, S.known_change change rfl, ?_, ?_, ?_,
    S.results⟩
  · intro r asked
    rcases List.mem_cons.mp asked with rfl | asked
    · exact ⟨_, (change.mem_iff S.sound _).mpr (.inl rfl), rfl, .inr armed⟩
    · exact S.begun_change change (fun begun => absurd begun idle) r asked
  · have count := change.count
    rw [if_neg (not_not.mpr unarmed), if_pos armed, Nat.add_zero] at count
    show (requests life).length + 1 = resolved life + _
    rw [S.count, count, Nat.add_assoc]
  · refine S.settled_change change [_, _] fun done => ?_
    exact absurd (waiting.symm.trans done) nofun
  · intro foreign action named
    simp only [List.mem_cons] at named
    rcases named with rfl | rfl | named
    · exact List.forall_mem_nil _
    · exact List.forall_mem_nil _
    · exact S.absent foreign action named
  · intro foreign id q' srcid nodes named
    exact S.answers foreign id q' srcid nodes (by simpa using named)

/-- A query is answered. Its nodes are yet to be offered. -/
lemma answer (S : Searched own none life l) (srcid : DhtId) (nodes : List MsgNode)
    (mem : q ∈ l.querySequence) :
    Searched own (some (l.id, nodes)) (.answered l.id q srcid nodes :: life) (l.answer q srcid) := by
  have change := S.sound.answer srcid mem
  have id : (l.answer q srcid).id = l.id := change.id
  refine ⟨change.sound, S.begun_change change fun _ => .inl rfl, S.offered_change change, ?_, ?_, ?_,
    ?_, ?_, fun e => change.results.trans (S.results (id ▸ e))⟩
  · have count := change.count
    rw [if_neg (not_not.mpr rfl), Nat.add_zero] at count
    show (requests life).length = _
    rw [S.count, ← count, resolved, resolved, List.countP_cons]
    simp only [Action.resolves, Action.settled, Option.any_some, decide_eq_true_eq]
    omega
  · intro addr
    rw [change.query S.sound, knownId, id]
    split
    · exact congrArg some (DhtId.xor_comm _ _)
    · exact S.known addr
  · exact S.settled_change change [_] fun _ => ⟨q, List.mem_cons_self .., rfl⟩
  · intro foreign action named
    rw [id] at foreign ⊢
    rcases List.mem_cons.mp named with rfl | named
    · exact List.forall_mem_nil _
    · exact S.absent foreign action named
  · intro foreign id' q' srcid' nodes' named
    rw [id] at foreign ⊢
    rcases List.mem_cons.mp named with e | named
    · cases e
      exact .inr rfl
    · exact .inl ((S.answers foreign id' q' srcid' nodes' named).resolve_right nofun)

/-- A query in flight times out. -/
lemma timeOut (S : Searched own heard life l) (mem : q ∈ l.querySequence)
    (armed : q.timeoutSource ≠ 0) :
    Searched own heard (.timedOut l.id q :: life) (l.timeOut q) := by
  have change := S.sound.timeOut mem armed
  refine ⟨change.sound, S.begun_change change fun _ => .inl rfl, S.offered_change change, ?_,
    S.known_change change rfl, ?_, ?_, ?_, S.results⟩
  · have count : (l.timeOut q).numSources + 1 = l.numSources := by simpa [armed] using change.count
    show (requests life).length = _
    rw [S.count, ← count, resolved, resolved, List.countP_cons_of_pos (by
      simpa [Action.resolves, Action.settled] using armed)]
    omega
  · exact S.settled_change change [_] fun _ => ⟨q, List.mem_cons_self .., rfl⟩
  · intro foreign action named
    rcases List.mem_cons.mp named with rfl | named
    · exact List.forall_mem_nil _
    · exact S.absent foreign action named
  · intro foreign id q' srcid nodes named
    exact S.answers foreign id q' srcid nodes (by simpa using named)

/-- The nodes of an answer to another lookup do not matter. -/
lemma other (S : Searched own heard life l) (heard' : Option (DhtId × List MsgNode))
    (ne : ∀ nodes, heard ≠ some (l.id, nodes)) : Searched own heard' life l :=
  { S with
    answers := fun foreign id q srcid nodes mem =>
      .inl ((S.answers foreign id q srcid nodes mem).resolve_right (ne nodes)) }

end Searched

namespace Asked

variable {own : DhtId} {heard : Option (DhtId × List MsgNode)} {life : List Action}
  {l : DhtLookup} {q : DhtQuery}

lemma new : Asked own [] := ⟨rfl, List.nodup_nil, List.forall_mem_nil _⟩

/-- A query is asked that was not begun. -/
lemma request (A : Asked own life) (S : Searched own heard life l) (mem : q ∈ l.querySequence)
    (idle : ¬ q.Begun) :
    Asked own (.sendTo 0 (some q.addr.deserialize) (.lookupReq own l.id) ::
      .request l.id q l.querySequence :: life) where
  sends := congrArg _ A.sends
  nodup := by
    refine List.nodup_cons.mpr ⟨fun asked => ?_, A.nodup⟩
    obtain ⟨r, here, addr⟩ := List.mem_map.mp asked
    obtain ⟨x, mem', addr', begun⟩ := S.begun r here
    obtain rfl := List.inj_on_of_nodup_map S.sound.addrs mem' mem (addr'.trans addr)
    exact idle begun
  offered r asked := by
    rcases List.mem_cons.mp asked with rfl | asked
    · exact S.offered _ mem
    · exact A.offered r asked

/-- Anything else happens to the lookup. -/
lemma cons (action : Action) (A : Asked own life) (quiet : action.dest = none)
    (quiet' : action.requested = none) : Asked own (action :: life) where
  sends := by
    rw [Nanotalk.sends, requests, List.filterMap_cons_none quiet, List.filterMap_cons_none quiet']
    exact A.sends
  nodup := by
    rw [requests, List.filterMap_cons_none quiet']
    exact A.nodup
  offered q asked := by
    rw [requests, List.filterMap_cons_none quiet'] at asked
    rw [offers, List.flatMap_cons]
    exact List.mem_append_right _ (A.offered q asked)

end Asked

/-- A query that may be asked: every closer one is begun, and too few of these are alive. -/
def Closest (queries : List DhtQuery) (query : DhtQuery) : Prop :=
  query ∈ queries ∧ (∀ q ∈ queries, q.metric < query.metric → q.Begun) ∧
    DhtLookup.countAlive (queries.filter (·.metric < query.metric)) < DHT_NODE_COUNT

/-- A query that is asked is one of the closest. -/
lemma Closest.of_next {queries : List DhtQuery} {q : DhtQuery} (ordered : DhtLookup.Ordered queries)
    (next : DhtLookup.Next queries q) : Closest queries q := by
  obtain ⟨visited, rest, rfl, idle, begun, few⟩ := next
  obtain ⟨_, after, _⟩ := List.pairwise_append.mp ordered
  have after : ∀ x ∈ rest, ¬ x.metric < q.metric := (List.pairwise_cons.mp after).1
  refine ⟨by simp, fun x mem closer => ?_, ?_⟩
  · rcases List.mem_append.mp mem with mem | mem
    · exact begun x mem
    · rcases List.mem_cons.mp mem with rfl | mem
      · exact absurd closer (DhtId.not_lt_of_lt closer)
      · exact absurd closer (after x mem)
  · have none : (q :: rest).filter (·.metric < q.metric) = [] := by
      refine List.filter_eq_nil_iff.mpr fun x mem closer => ?_
      have closer : x.metric < q.metric := by simpa using closer
      rcases List.mem_cons.mp mem with rfl | mem
      · exact DhtId.not_lt_of_lt closer closer
      · exact after x mem closer
    rw [List.filter_append, none, List.append_nil]
    exact Nat.lt_of_le_of_lt List.filter_sublist.countP_le few

/-- A lookup that asked all the nodes it had to: nothing is in flight, each query with too few alive
    ones before it was answered or has timed out, and the target was never named. -/
structure Exhaustive (id : DhtId) (queries : List DhtQuery) (life : List Action) : Prop where
  ordered : DhtLookup.Ordered queries
  idle : ∀ q ∈ queries, q.timeoutSource = 0
  settled : ∀ visited q rest, queries = visited ++ q :: rest →
    DhtLookup.countAlive visited < DHT_NODE_COUNT →
      ∃ q' ∈ life.filterMap Action.settled, q'.iter = q.iter
  absent : ∀ action ∈ life, ∀ node ∈ action.nodes, node.id ≠ id
  answers : ∀ q srcid nodes, .answered id q srcid nodes ∈ life → ∀ node ∈ nodes, node.id ≠ id

lemma Exhaustive.of_exhausted {own : DhtId} {life : List Action} {l : DhtLookup}
    (S : Searched own none life l) (exhausted : DhtLookup.Exhausted l.querySequence)
    (foreign : l.id ≠ own) : Exhaustive l.id l.querySequence life := by
  obtain ⟨visited, rest, split, idle, finished, enough⟩ := exhausted
  refine ⟨S.sound.ordered, idle, ?_, S.absent foreign, ?_⟩
  · intro visited' q rest' split' few
    have mem : q ∈ l.querySequence := by simp [split']
    refine S.settled q mem (finished q ?_)
    -- the query is before the place where the dispatch stopped
    rcases List.append_eq_append_iff.mp (split'.symm.trans split) with
      ⟨between, e, e'⟩ | ⟨between, e, e'⟩
    · rw [e]
      cases between with
      | nil =>
        have nonempty : rest ≠ [] := by
          rintro rfl
          cases e'
        have many := enough.resolve_left nonempty
        rw [e, List.append_nil] at many
        exact absurd few (Nat.not_lt.mpr many)
      | cons x between =>
        obtain ⟨rfl, _⟩ := List.cons_eq_cons.mp e'
        exact List.mem_append_right _ (List.mem_cons_self ..)
    · have nonempty : rest ≠ [] := by
        rw [e']
        exact List.append_ne_nil_of_right_ne_nil _ (List.cons_ne_nil _ _)
      have many := enough.resolve_left nonempty
      have le : DhtLookup.countAlive visited ≤ DhtLookup.countAlive visited' := by
        rw [e, DhtLookup.countAlive, DhtLookup.countAlive, List.countP_append]
        exact Nat.le_add_right _ _
      exact absurd few (Nat.not_lt.mpr (Nat.le_trans many le))
  · exact fun q srcid nodes mem =>
      (S.answers foreign l.id q srcid nodes mem).resolve_right (Option.some_ne_none _).symm

/-- A failure that is reported: before it, and before the others of its kind, a lookup was given up
    that had asked all the nodes it had to. -/
def Failed (error : GError) (earlier : List Action) : Prop :=
  ∃ completions id queries before, earlier = completions ++ .lookupFailed id queries :: before ∧
    (∀ action ∈ completions, ∃ result, action = .completeInIdle result error) ∧
    Exhaustive id queries (life id before)

namespace Lookups

/-- The invariant of the lookups of a client. -/
structure Invariant (L : Lookups) : Prop where
  table : ∀ id l, L.table id = some l → l.id = id ∧ Searched L.own L.heard (life id L.log) l
  asked : ∀ id, Asked L.own (life id L.log)
  closest : ∀ id q queries, .request id q queries ∈ L.log → Closest queries q
  failed : ∀ result error earlier, .completeInIdle result error :: earlier <:+ L.log →
    Failed error earlier

variable {L L' : Lookups} {l : DhtLookup}

lemma invariant_init (own : DhtId) : (init own).Invariant where
  table := nofun
  asked _ := .new
  closest := nofun
  failed _ _ _ suffix := absurd (List.suffix_nil.mp suffix) (List.cons_ne_nil _ _)

/-- Entries that are no failures. -/
lemma suffix_of_append {result : Nat} {error : GError} {earlier log : List Action}
    (new : List Action) (ne : ∀ action ∈ new, action ≠ .completeInIdle result error)
    (suffix : .completeInIdle result error :: earlier <:+ new ++ log) :
    .completeInIdle result error :: earlier <:+ log := by
  induction new with
  | nil => exact suffix
  | cons action new ih =>
    rcases List.suffix_cons_iff.mp suffix with e | suffix
    · exact absurd (List.cons_eq_cons.mp e).1.symm (ne action (List.mem_cons_self ..))
    · exact ih (fun a mem => ne a (List.mem_cons_of_mem _ mem)) suffix

/-- What is to be shown when something happens to one lookup. -/
lemma Invariant.update (I : L.Invariant) (id : DhtId) (new : List Action) (own : L'.own = L.own)
    (table : ∀ id', id' ≠ id → L'.table id' = L.table id') (log : L'.log = new ++ L.log)
    (about : ∀ action ∈ new, action.subject = some id ∨ action.subject = none)
    (heard : ∀ id' nodes, id' ≠ id → L.heard ≠ some (id', nodes))
    (here : ∀ l, L'.table id = some l → l.id = id ∧ Searched L.own L'.heard (life id L'.log) l)
    (asked : Asked L.own (life id L'.log))
    (closest : ∀ id q queries, .request id q queries ∈ new → Closest queries q)
    (failed : ∀ result error earlier, .completeInIdle result error :: earlier <:+ L'.log →
      .completeInIdle result error :: earlier <:+ L.log ∨ Failed error earlier) : L'.Invariant := by
  have other : ∀ id', id' ≠ id → life id' L'.log = life id' L.log := by
    intro id' ne
    rw [log]
    refine life_append_other fun action mem e => ?_
    rcases about action mem with e' | e'
    · exact ne (Option.some.inj (e.symm.trans e'))
    · exact absurd (e.symm.trans e') nofun
  refine ⟨?_, ?_, ?_, ?_⟩
  · intro id' l e
    rw [own]
    by_cases same : id' = id
    · subst same
      exact here l e
    · rw [table id' same] at e
      obtain ⟨rfl, S⟩ := I.table id' l e
      rw [other _ same]
      exact ⟨rfl, S.other _ fun nodes => heard _ nodes same⟩
  · intro id'
    rw [own]
    by_cases same : id' = id
    · subst same
      exact asked
    · rw [other _ same]
      exact I.asked id'
  · intro id' q queries mem
    rw [log] at mem
    rcases List.mem_append.mp mem with mem | mem
    · exact closest id' q queries mem
    · exact I.closest id' q queries mem
  · intro result error earlier suffix
    rcases failed result error earlier suffix with suffix | failed
    · exact I.failed result error earlier suffix
    · exact failed

/-- Something happens to a lookup that stays in the table. -/
lemma Invariant.put (I : L.Invariant) (id : DhtId) (l' : DhtLookup) (new : List Action)
    (same : l'.id = id) (own : L'.own = L.own)
    (table : L'.table = Function.update L.table l'.id (some l')) (log : L'.log = new ++ L.log)
    (about : ∀ action ∈ new, action.subject = some id ∧ action ≠ .lookupNew id)
    (heard : ∀ id' nodes, id' ≠ id → L.heard ≠ some (id', nodes))
    (searched : Searched L.own L'.heard (new ++ life id L.log) l')
    (asked : Asked L.own (new ++ life id L.log))
    (closest : ∀ id q queries, .request id q queries ∈ new → Closest queries q) : L'.Invariant := by
  subst same
  have e : life l'.id L'.log = new ++ life l'.id L.log := by rw [log, life_append about]
  refine I.update l'.id new own ?_ log (fun a mem => .inl (about a mem).1) heard ?_ (e ▸ asked)
    closest ?_
  · intro id' ne
    rw [table, Function.update_of_ne ne]
  · intro l here
    rw [table, Function.update_self] at here
    cases here
    rw [e]
    exact ⟨rfl, searched⟩
  · intro result error earlier suffix
    rw [log] at suffix
    refine .inl (suffix_of_append new (fun action mem failure => ?_) suffix)
    subst failure
    exact absurd (about _ mem).1 nofun

/-- The failures of a lookup. -/
lemma suffix_of_failures {result : Nat} {error failure : GError} {earlier log : List Action}
    {id : DhtId} {queries : List DhtQuery} (results : List Nat)
    (suffix : .completeInIdle result error :: earlier <:+
      results.map (fun r => .completeInIdle r failure) ++ .lookupFailed id queries :: log) :
    .completeInIdle result error :: earlier <:+ log ∨
    results ≠ [] ∧ error = failure ∧
      ∃ completions, earlier = completions ++ .lookupFailed id queries :: log ∧
        ∀ action ∈ completions, ∃ r, action = .completeInIdle r failure := by
  induction results with
  | nil => exact .inl (suffix_of_append [_] (by simp) suffix)
  | cons r rs ih =>
    rcases List.suffix_cons_iff.mp suffix with e | suffix
    · obtain ⟨first, rfl⟩ := List.cons_eq_cons.mp e
      cases first
      refine .inr ⟨List.cons_ne_nil _ _, rfl, _, rfl, fun action mem => ?_⟩
      obtain ⟨r, _, rfl⟩ := List.mem_map.mp mem
      exact ⟨r, rfl⟩
    · rcases ih suffix with suffix | ⟨_, rest⟩
      · exact .inl suffix
      · exact .inr ⟨List.cons_ne_nil _ _, rest⟩

/-- A lookup that has failed is over. -/
lemma Invariant.fail (I : L.Invariant) {l : DhtLookup} (quiet : L.heard = none)
    (here : L.table l.id = some l) (exhausted : DhtLookup.Exhausted l.querySequence) :
    ((L.note (l.results.reverse.map (fun result =>
        .completeInIdle result ⟨.hostNotFound, "Lookup failed"⟩) ++
      [.lookupFailed l.id l.querySequence])).remove l.id).Invariant := by
  have S := (I.table _ _ here).2
  rw [quiet] at S
  generalize failures : (l.results.reverse.map fun result =>
    Action.completeInIdle result ⟨.hostNotFound, "Lookup failed"⟩) = completions
  have mem : ∀ action ∈ completions, ∃ r e, action = .completeInIdle r e := by
    rw [← failures]
    intro action mem
    obtain ⟨r, _, rfl⟩ := List.mem_map.mp mem
    exact ⟨r, _, rfl⟩
  have log : (L.note (completions ++ [.lookupFailed l.id l.querySequence])).log =
      completions ++ .lookupFailed l.id l.querySequence :: L.log :=
    List.append_assoc ..
  have e : life l.id (completions ++ .lookupFailed l.id l.querySequence :: L.log) =
      .lookupFailed l.id l.querySequence :: life l.id L.log := by
    rw [life_append_other]
    · exact life_cons rfl nofun
    · intro action here
      obtain ⟨r, _, rfl⟩ := mem action here
      exact nofun
  have asked := (I.asked l.id).cons (.lookupFailed l.id l.querySequence) rfl rfl
  rw [← e, ← log] at asked
  refine I.update l.id _ rfl (fun id' ne => Function.update_of_ne ne _ _) rfl ?_
    (fun _ _ _ e => absurd (quiet.symm.trans e) nofun) ?_ asked ?_ ?_
  · intro action here
    rcases List.mem_append.mp here with here | here
    · obtain ⟨r, _, rfl⟩ := mem action here
      exact .inr rfl
    · exact .inl (List.mem_singleton.mp here ▸ rfl)
  · intro l' here'
    exact absurd ((Function.update_self ..).symm.trans here') nofun
  · intro id q queries here
    rcases List.mem_append.mp here with here | here
    · obtain ⟨r, e, eq⟩ := mem _ here
      cases eq
    · cases List.mem_singleton.mp here
  · intro result error earlier suffix
    have suffix : .completeInIdle result error :: earlier <:+
        completions ++ .lookupFailed l.id l.querySequence :: L.log := log ▸ suffix
    rw [← failures] at suffix
    rcases suffix_of_failures _ suffix with suffix | ⟨some, rfl, completions, rfl, same⟩
    · exact .inl suffix
    · -- only callbacks of foreign lookups fail
      have foreign : l.id ≠ L.own := by
        intro own
        rw [S.results own] at some
        exact some rfl
      exact .inr ⟨completions, l.id, _, L.log, rfl, same, .of_exhausted S exhausted foreign⟩

/-- Every step keeps the invariant. -/
theorem Step.invariant (step : Step L L') (I : L.Invariant) : L'.Invariant := by
  have quieten : L.heard = none → ∀ id : DhtId, ∀ id' nodes, id' ≠ id → L.heard ≠ some (id', nodes) :=
    fun quiet _ _ _ _ e => absurd (quiet.symm.trans e) nofun
  have named : ∀ {id : DhtId} {nodes : List MsgNode},
      L.heard = none ∨ L.heard = some (id, nodes) →
        ∀ id' nodes, id' ≠ id → L.heard ≠ some (id', nodes) := by
    rintro id nodes (quiet | named) id' nodes' ne e
    · exact absurd (quiet.symm.trans e) nofun
    · exact ne (congrArg Prod.fst (Option.some.inj (e.symm.trans named)))
  cases step with
  | refuse => exact ⟨I.table, I.asked, I.closest, I.failed⟩
  | create quiet id =>
    have asked : Asked L.own (life id (.lookupNew id :: L.log)) := by
      rw [life_new]
      exact .new
    refine I.update id [.lookupNew id] rfl (fun id' ne => Function.update_of_ne ne _ _) rfl
      (by simp [Action.subject]) (quieten quiet id) ?_ asked (by simp) ?_
    · intro l here
      cases (Function.update_self ..).symm.trans here
      rw [show life id ((L.note [.lookupNew id]).put (.new id [])).log = [] from life_new]
      exact ⟨rfl, .new id⟩
    · exact fun _ _ _ suffix => .inl (suffix_of_append [_] (by simp) suffix)
  | @join l quiet here foreign =>
    have S := (I.table _ _ here).2
    exact I.put l.id { l with results := L.calls :: l.results } [] rfl rfl rfl rfl (by simp)
      (quieten quiet _) (S.join foreign _) (I.asked l.id) (by simp)
  | @offer l nodes source here sound absent =>
    have S := (I.table _ _ here).2
    exact I.put l.id (l.learn L.own nodes) [.offered l.id nodes] (DhtLookup.id_learn _ _) rfl rfl rfl
      (by simp [Action.subject]) (named source) (S.offer nodes source absent)
      ((I.asked l.id).cons _ rfl rfl) (by simp)
  | @found l nodes source here present =>
    have e : life l.id (.offered l.id nodes :: L.log) = .offered l.id nodes :: life l.id L.log :=
      life_cons rfl nofun
    refine I.update l.id [.offered l.id nodes] rfl (fun id' ne => Function.update_of_ne ne _ _) rfl
      (by simp [Action.subject]) (named source) ?_ (e ▸ (I.asked l.id).cons _ rfl rfl) (by simp) ?_
    · intro l' here'
      exact absurd ((Function.update_self ..).symm.trans here') nofun
    · exact fun _ _ _ suffix => .inl (suffix_of_append [_] (by simp) suffix)
  | @request l q source quiet here sound next more armed =>
    have S := (I.table _ _ here).2
    have closest := Closest.of_next sound.ordered next
    obtain ⟨_, _, _, idle, _⟩ := next
    refine I.put l.id (l.request q source) [_, _] rfl rfl rfl rfl (by simp [Action.subject])
      (quieten quiet _) (S.request closest.1 idle more armed)
      ((I.asked l.id).request S closest.1 idle) ?_
    intro id q' queries mem
    simp only [List.mem_cons, List.not_mem_nil, or_false, reduceCtorEq, false_or,
      Action.request.injEq] at mem
    obtain ⟨_, rfl, rfl⟩ := mem
    exact closest
  | @answer l q srcid nodes quiet here sound mem foreign =>
    have S := (I.table _ _ here).2
    exact I.put l.id (l.answer q srcid) [.answered l.id q srcid nodes] (sound.answer srcid mem).id
      rfl rfl rfl (by simp [Action.subject]) (quieten quiet _) ((quiet ▸ S).answer srcid nodes mem)
      ((I.asked l.id).cons _ rfl rfl) (by simp)
  | @timeOut l q quiet here sound mem armed =>
    have S := (I.table _ _ here).2
    exact I.put l.id (l.timeOut q) [.timedOut l.id q] rfl rfl rfl rfl (by simp [Action.subject])
      (quieten quiet _) (S.timeOut mem armed) ((I.asked l.id).cons _ rfl rfl) (by simp)
  | fail quiet here _ exhausted => exact I.fail quiet here exhausted

lemma Steps.invariant (steps : L.Steps L') (I : L.Invariant) : L'.Invariant := by
  induction steps with
  | refl => exact I
  | tail _ step ih => exact step.invariant ih

end Lookups

/-! ## Runs -/

namespace DhtClient

variable (S : Sodium) (w : WordSize) (random : Nat → DhtKey) (key : DhtKey)
  (events : List (Env × Event))

/-- The invariant holds in every state of a run. -/
lemma run_searched : (run S w random key events).lookups.Invariant :=
  (run_searches S w random key events).invariant (Lookups.invariant_init _)

/-- The timeout of a query is armed: the main context has the source recorded in it. -/
def Armed (c : DhtClient) (id : DhtId) (query : DhtQuery) : Prop :=
  c.sources query.timeoutSource = some (.query id query.iter)

instance (c : DhtClient) (id : DhtId) (query : DhtQuery) : Decidable (c.Armed id query) :=
  inferInstanceAs (Decidable (_ = _))

/-- A lookup as it is in the table between events. -/
structure WellFormed (c : DhtClient) (id : DhtId) (l : DhtLookup) : Prop where
  same : l.id = id
  sorted : l.querySequence.Pairwise fun a b => ¬ b.metric < a.metric
  distance : ∀ addr, (l.query addr).map (·.metric) = (knownId c.id addr (life id c.log)).map id.xor
  table : ∀ addr iter, l.queryTable addr = some iter ↔
    ∃ q ∈ l.querySequence, q.iter = iter ∧ q.addr = addr
  iters : (l.querySequence.map (·.iter)).Nodup
  addrs : (l.querySequence.map (·.addr)).Nodup
  numSources : l.numSources = l.querySequence.countP (c.Armed id ·)
  pos : 1 ≤ l.numSources
  le : l.numSources ≤ DHT_CONCURRENCY
  armed : ∀ q ∈ l.querySequence, q.timeoutSource ≠ 0 ↔ c.Armed id q
  single : ∀ q ∈ l.querySequence, ¬ (q.isFinished = true ∧ c.Armed id q)

/-- Between events, every lookup in the table is well-formed. -/
theorem lookup_invariant (id : DhtId) (l : DhtLookup)
    (here : (run S w random key events).lookupTable id = some l) :
    (run S w random key events).WellFormed id l := by
  have C := run_consistent S w random key events
  have I := run_searched S w random key events
  generalize run S w random key events = c at here C I
  obtain ⟨rfl, D⟩ := I.table id l here
  have sound := D.sound
  have armed : ∀ q ∈ l.querySequence, q.timeoutSource ≠ 0 ↔ c.Armed l.id q := by
    intro q mem
    have recorded : c.books.timerOf (.query l.id q.iter) = q.timeoutSource :=
      (Books.Consistent.timerOf_query here _).trans (DhtLookup.timer_of_mem sound.iters mem)
    refine Iff.trans ?_ (C.timers _ _).symm
    rw [recorded]
    exact (and_iff_left rfl).symm
  refine ⟨rfl, sound.ordered, ?_, sound.table, sound.iters, sound.addrs, ?_, ?_, sound.le, armed, ?_⟩
  · intro addr
    rw [D.known, ← life_filter c.log]
    rfl
  · rw [sound.numSources, DhtLookup.countArmed]
    exact List.countP_congr fun q mem => by simpa using armed q mem
  · exact Nat.one_le_iff_ne_zero.mpr (C.busy _ _ here (Option.some_ne_none _))
  · rintro q mem ⟨done, live⟩
    exact (armed q mem).mpr live (sound.single q mem done)

/-- The id and the address of node `n`. -/
def nodeId (n : UInt8) : DhtId := ⟨fun i => if i.val = 0 then n else 0⟩

def nodeAddr (n : UInt8) : GSocketAddress := ⟨.ipv4 fun _ => n, 5004⟩

/-- Client 1 after a sequence of inputs. -/
def client1 (inputs : List (Env × Input)) : DhtClient :=
  run Sodium.transparent .w64 (fun _ => ⟨fun _ => 0⟩) ⟨fun i => if i.val = 0 then 1 else 0⟩
    (DhtClient.events inputs)

lemma client1_eq {inputs : List (Env × Input)} (short : ∀ e ∈ inputs, e.2.Short) :
    client1 inputs = runInputs Sodium.transparent .w64 (fun _ => ⟨fun _ => 0⟩)
      ⟨fun i => if i.val = 0 then 1 else 0⟩ inputs :=
  run_events _ _ _ _ short

/-- Node 0 is looked up by client 1, which knows node 40 only. That one answers with the nodes 2
    to 16, of which the last one gives a second address of node 40. -/
def tiedRun : List (Env × Input) :=
  let answer (n : UInt8) (nodes : List MsgNode) : Env × Input :=
    (⟨0, 0, false⟩, .message (.lookupRes (nodeId n) (nodeId 0) nodes) (nodeAddr n))
  let nodes := (List.range 15).map fun i => UInt8.ofNat (i + 2)
  [(⟨0, 0, false⟩, .message (.lookupReq (nodeId 40) (nodeId 0)) (nodeAddr 40)),
    (⟨0, 0, false⟩, .event (.lookupAsync (nodeId 0))),
    answer 40 (nodes.map fun n => ⟨nodeId n, .serialize (nodeAddr n)⟩)] ++
  nodes.map fun n => answer n (if n = 16 then [⟨nodeId 40, .serialize (nodeAddr 41)⟩] else [])

/-- Client 1 after the first inputs of `tiedRun`. -/
def tiedClient (n : Nat) : DhtClient := client1 (tiedRun.take n)

lemma tiedClient_eq (n : Nat) : tiedClient n = runInputs Sodium.transparent .w64
    (fun _ => ⟨fun _ => 0⟩) ⟨fun i => if i.val = 0 then 1 else 0⟩ (tiedRun.take n) := by
  have short : ∀ e ∈ tiedRun, e.2.Short := by simp +decide [tiedRun, Input.Short, Msg.bytes_length]
  exact client1_eq fun e mem => short e (List.mem_of_mem_take mem)

lemma tiedClient_lookup : ∃ l, (tiedClient 3).lookupTable (nodeId 0) = some l := by
  have some : ((tiedClient 3).lookupTable (nodeId 0)).isSome := by
    rw [tiedClient_eq]
    decide +kernel
  exact Option.isSome_iff_exists.mp some

/-- After its first answer, the lookup of `tiedRun` is well-formed. -/
theorem lookup_invariant_tied : ∃ l, (tiedClient 3).WellFormed (nodeId 0) l := by
  obtain ⟨l, here⟩ := tiedClient_lookup
  unfold tiedClient client1 at here ⊢
  exact ⟨l, lookup_invariant _ _ _ _ _ _ l here⟩

/-- A lookup asks the closest nodes first and every address once, and it is over when as many
    requests were answered or have timed out as it was offered addresses. -/
theorem lookup_asks (id : DhtId) :
    let c := run S w random key events
    let offered := (offers c.id (life id c.log)).dedup
    (sends (life id c.log)).Nodup ∧
    sends (life id c.log) = (requests (life id c.log)).map (fun q => some q.addr.deserialize) ∧
    (∀ id q queries, .request id q queries ∈ c.log → Closest queries q) ∧
    (sends (life id c.log)).length ≤ offered.length ∧
    ∀ l, c.lookupTable id = some l → resolved (life id c.log) < offered.length := by
  intro c offered
  have C := run_consistent S w random key events
  have I := run_searched S w random key events
  have A : Asked c.id (life id c.log) := life_filter c.log ▸ I.asked id
  have le : (requests (life id c.log)).length ≤ offered.length := by
    have sub : (requests (life id c.log)).map (·.addr) ⊆ offered := by
      intro addr mem
      obtain ⟨q, asked, rfl⟩ := List.mem_map.mp mem
      exact List.mem_dedup.mpr (A.offered q asked)
    simpa using (A.nodup.subperm sub).length_le
  refine ⟨?_, A.sends, ?_, ?_, ?_⟩
  · rw [A.sends]
    have injective : Function.Injective fun addr : DhtAddress => some addr.deserialize :=
      (Option.some_injective _).comp DhtAddress.deserialize_injective
    have nodup := A.nodup.map injective
    rwa [List.map_map] at nodup
  · exact fun id q queries mem => I.closest id q queries (List.mem_filter.mpr ⟨mem, rfl⟩)
  · rw [A.sends, List.length_map]
    exact le
  · intro l here
    obtain ⟨_, D⟩ := I.table id l here
    have count : (requests (life id c.log)).length = resolved (life id c.log) + l.numSources :=
      life_filter c.log ▸ D.count
    have busy := C.busy id l here nofun
    omega

/-- After its first answer, the lookup of `tiedRun` has fewer requests answered than addresses. -/
theorem lookup_asks_tied : resolved (life (nodeId 0) (tiedClient 3).log) <
    (offers (tiedClient 3).id (life (nodeId 0) (tiedClient 3).log)).dedup.length := by
  obtain ⟨l, here⟩ := tiedClient_lookup
  unfold tiedClient client1 at here ⊢
  exact (lookup_asks _ _ _ _ _ _).2.2.2.2 l here

/-- A lookup is reported to have failed only after it asked all the nodes that it had to. -/
theorem failure_exhaustive (result : Nat) (error : GError) (earlier : List Action)
    (failed : error.code = .hostNotFound)
    (reported : .completeInIdle result error :: earlier <:+ (run S w random key events).log) :
    ∃ completions id queries before, earlier.filter Action.searching =
        completions ++ .lookupFailed id queries :: before ∧
      (∀ action ∈ completions, ∃ result, action = .completeInIdle result error) ∧
      Exhaustive id queries (life id before) := by
  have I := run_searched S w random key events
  refine I.failed result error _ ?_
  have searching : (Action.completeInIdle result error).searching = true := by
    simpa [Action.searching] using failed
  have suffix := reported.filter Action.searching
  rwa [List.filter_cons_of_pos searching] at suffix

/-- A failure at the end of a log. -/
def lastFailure : List Action → Option (Nat × GError × DhtId × List DhtQuery × List Action)
  | .completeInIdle result error :: .lookupFailed id queries :: before =>
    some (result, error, id, queries, before)
  | _ => none

/-- The last failure is at the head of the log. -/
lemma exists_of_lastFailure {log : List Action}
    {p : Nat × GError × DhtId × List DhtQuery × List Action → Bool} (h : (lastFailure log).any p) :
    ∃ result error id queries before,
      log = .completeInIdle result error :: .lookupFailed id queries :: before ∧
      p (result, error, id, queries, before) := by
  unfold lastFailure at h
  split at h
  · exact ⟨_, _, _, _, _, rfl, h⟩
  · cases h

/-- In `tiedRun` the lookup fails, while a query that is as close as the last of the
    `DHT_NODE_COUNT` alive ones was neither answered nor has it timed out. -/
theorem tied_query_unasked : ∃ result error id queries before,
    (tiedClient 18).log = .completeInIdle result error :: .lookupFailed id queries :: before ∧
    error.code = .hostNotFound ∧ ∃ q ∈ queries,
      DhtLookup.countAlive (queries.filter (·.metric < q.metric)) < DHT_NODE_COUNT ∧
      ∀ q' ∈ (life id before).filterMap Action.settled, q'.iter ≠ q.iter := by
  have unasked : (lastFailure (tiedClient 18).log).any fun (_, error, id, queries, before) =>
      error.code = .hostNotFound ∧ ∃ q ∈ queries,
        DhtLookup.countAlive (queries.filter (·.metric < q.metric)) < DHT_NODE_COUNT ∧
        ∀ q' ∈ (life id before).filterMap Action.settled, q'.iter ≠ q.iter := by
    rw [tiedClient_eq]
    decide +kernel
  obtain ⟨result, error, id, queries, before, log, unasked⟩ := exists_of_lastFailure unasked
  exact ⟨result, error, id, queries, before, log, of_decide_eq_true unasked⟩

/-- The lookup of `tiedRun` asked all the nodes it had to. -/
theorem failure_exhaustive_tied : ∃ earlier completions id queries before,
    earlier <:+ (tiedClient 18).log ∧
    earlier.filter Action.searching = completions ++ .lookupFailed id queries :: before ∧
    Exhaustive id queries (life id before) := by
  have failed : (lastFailure (tiedClient 18).log).any fun (_, error, _) =>
      error.code = .hostNotFound := by
    rw [tiedClient_eq]
    decide +kernel
  obtain ⟨result, error, id, queries, before, log, failed⟩ := exists_of_lastFailure failed
  have suffix : .completeInIdle result error :: .lookupFailed id queries :: before <:+
      (tiedClient 18).log := by
    rw [log]
  obtain ⟨completions, id, queries, before, split, _, exhaustive⟩ :=
    failure_exhaustive Sodium.transparent .w64 (fun _ => ⟨fun _ => 0⟩)
      ⟨fun i => if i.val = 0 then 1 else 0⟩ (DhtClient.events (tiedRun.take 18)) result error _
      (of_decide_eq_true failed) suffix
  exact ⟨_, completions, id, queries, before, (List.suffix_cons _ _).trans suffix, split, exhaustive⟩

end DhtClient

end Nanotalk
