import Mathlib.Data.List.TakeWhile
import Nanotalk.Lib.Sources
import Nanotalk.Dht.Client

/-!
# Tables and timeouts

The two tables of a client and its timeout sources, its `Books`, and the invariant `Consistent` that
every callback keeps:

* the queries of a lookup have different addresses, and `num_sources` counts the armed ones, at most
  `DHT_CONCURRENCY` (`DhtLookup.Sound`);
* between events every lookup has an armed query, and always every connection is armed;
* the ids recorded in queries and connections are exactly those of the sources in the main context,
  each of which refers back to its query or connection.

While a callback works on one lookup, that lookup may be without an armed query; it is the `idle`
one of `Consistent`. `step_consistent` is the result for all events.
-/

namespace Nanotalk
open Glib

/-! ## Lookups -/

namespace DhtLookup

/-- The timeout source recorded in the query at a place, 0 if there is none. -/
def timer (lookup : DhtLookup) (iter : Nat) : Nat := (lookup.get iter).elim 0 (·.timeoutSource)

/-- The number of armed queries. -/
def countArmed (queries : List DhtQuery) : Nat := queries.countP (·.timeoutSource ≠ 0)

/-- The queries are sorted by their metric. -/
def Ordered (queries : List DhtQuery) : Prop := queries.Pairwise fun a b => ¬ b.metric < a.metric

/-- A lookup after a request to a query of it. -/
def request (lookup : DhtLookup) (query : DhtQuery) (source : Nat) : DhtLookup :=
  { lookup.setQuery { query with timeoutSource := source } with
    numSources := guintInc lookup.numSources }

/-- A lookup after a response from `srcid` to a query of it. -/
def answer (lookup : DhtLookup) (query : DhtQuery) (srcid : DhtId) : DhtLookup :=
  let lookup := { lookup with
    numSources :=
      if query.timeoutSource > 0 then guintDec lookup.numSources else lookup.numSources }
  let query' := { query with timeoutSource := 0, isFinished := true, isAlive := true }
  if srcid.xor lookup.id ≠ query.metric then
    lookup.sortChanged { query' with metric := srcid.xor lookup.id }
  else lookup.setQuery query'

/-- A lookup after the timeout of a query of it. -/
def timeOut (lookup : DhtLookup) (query : DhtQuery) : DhtLookup :=
  { lookup.setQuery { query with isFinished := true, timeoutSource := 0 } with
    numSources := guintDec lookup.numSources }

/-- A well-formed lookup. -/
structure Sound (lookup : DhtLookup) : Prop where
  iters : (lookup.querySequence.map (·.iter)).Nodup
  below : ∀ q ∈ lookup.querySequence, q.iter < lookup.querySequence.length
  table : ∀ addr iter, lookup.queryTable addr = some iter ↔
    ∃ q ∈ lookup.querySequence, q.iter = iter ∧ q.addr = addr
  ordered : Ordered lookup.querySequence
  single : ∀ q ∈ lookup.querySequence, q.isFinished = true → q.timeoutSource = 0
  numSources : lookup.numSources = countArmed lookup.querySequence
  le : lookup.numSources ≤ DHT_CONCURRENCY

section Sequence

variable {qs qs' : List DhtQuery} {q q' : DhtQuery} {i : Nat}

/-- The query at a place does not depend on the order. -/
lemma find_perm (p : qs.Perm qs') (nodup : (qs.map (·.iter)).Nodup) :
    qs.find? (·.iter = i) = qs'.find? (·.iter = i) := by
  induction p with
  | nil => rfl
  | cons q _ ih =>
    simp only [List.map_cons, List.nodup_cons] at nodup
    simp only [List.find?_cons, ih nodup.2]
  | swap x y qs =>
    simp only [List.map_cons, List.nodup_cons, List.mem_cons, not_or] at nodup
    simp only [List.find?_cons]
    by_cases ex : x.iter = i
    · by_cases ey : y.iter = i
      · exact absurd (ey.trans ex.symm) nodup.1.1
      · simp [ex, ey]
    · simp [ex]
  | trans p _ ih1 ih2 =>
    exact (ih1 nodup).trans (ih2 ((p.map _).nodup nodup))

/-- Replacing the query at a place puts it in the place of the old one. -/
lemma perm_replace (q' : DhtQuery) (nodup : (qs.map (·.iter)).Nodup) (mem : q ∈ qs)
    (e : q.iter = q'.iter) : (qs.map fun x => if x.iter = q'.iter then q' else x).Perm
      (q' :: qs.filter fun x => x.iter ≠ q'.iter) := by
  induction qs with
  | nil => cases mem
  | cons x qs ih =>
    simp only [List.map_cons, List.nodup_cons] at nodup
    by_cases ex : x.iter = q'.iter
    · -- no other query is at this place
      have others : ∀ y ∈ qs, y.iter ≠ q'.iter := by
        intro y my ey
        exact nodup.1 (ex.trans ey.symm ▸ List.mem_map_of_mem my)
      rw [List.map_cons, if_pos ex, List.filter_cons_of_neg (by simpa using ex),
        List.filter_eq_self.mpr (by simpa using others)]
      apply List.Perm.of_eq
      congr 1
      conv_rhs => rw [← List.map_id qs]
      apply List.map_congr_left
      intro y my
      rw [if_neg (others y my)]
      rfl
    · have mem' : q ∈ qs := by
        rcases List.mem_cons.mp mem with rfl | h
        · exact absurd e ex
        · exact h
      rw [List.map_cons, if_neg ex, List.filter_cons_of_pos (by simpa using ex)]
      exact ((ih nodup.2 mem').cons x).trans (List.Perm.swap _ _ _)

/-- A query and the rest of its sequence. -/
lemma perm_cons (nodup : (qs.map (·.iter)).Nodup) (mem : q ∈ qs) :
    qs.Perm (q :: qs.filter fun x => x.iter ≠ q.iter) := by
  have e : (qs.map fun x => if x.iter = q.iter then q else x) = qs := by
    conv_rhs => rw [← List.map_id qs]
    apply List.map_congr_left
    intro x mx
    split
    · rename_i ex
      exact (List.inj_on_of_nodup_map nodup mx mem ex).symm
    · rfl
  have p := perm_replace q nodup mem rfl
  rwa [e] at p

lemma insertSorted_perm (q : DhtQuery) (qs : List DhtQuery) : (insertSorted q qs).Perm (q :: qs) :=
  List.perm_orderedInsert _ _ _

/-- An insertion before the first query with a greater metric keeps the order. -/
lemma Ordered.insertSorted (q : DhtQuery) (O : Ordered qs) : Ordered (insertSorted q qs) := by
  induction qs with
  | nil => exact List.pairwise_singleton _ _
  | cons x qs ih =>
    obtain ⟨first, rest⟩ := List.pairwise_cons.mp O
    unfold DhtLookup.insertSorted
    rw [List.orderedInsert_cons]
    split
    · rename_i lt
      refine List.pairwise_cons.mpr ⟨fun y my => ?_, O⟩
      rcases List.mem_cons.mp my with rfl | my
      · exact DhtId.not_lt_of_lt lt
      · exact fun h => first y my (DhtId.lt_of_not_lt_of_lt (DhtId.not_lt_of_lt h) lt)
    · rename_i ge
      refine List.pairwise_cons.mpr ⟨fun y my => ?_, ih rest⟩
      rcases List.mem_cons.mp ((insertSorted_perm q qs).mem_iff.mp my) with rfl | my
      · exact ge
      · exact first y my

/-- Changing a query but for its metric keeps the order. -/
lemma Ordered.replace (O : Ordered qs) (nodup : (qs.map (·.iter)).Nodup) (mem : q ∈ qs)
    (iter : q'.iter = q.iter) (metric : q'.metric = q.metric) :
    Ordered (qs.map fun x => if x.iter = q'.iter then q' else x) := by
  refine List.pairwise_map.mpr (O.imp_of_mem fun {x y} mx my h => ?_)
  have same : ∀ z ∈ qs, (if z.iter = q'.iter then q' else z).metric = z.metric := by
    intro z mz
    split
    · rename_i ez
      rw [metric, List.inj_on_of_nodup_map nodup mz mem (ez.trans iter)]
    · rfl
  rwa [same x mx, same y my]

/-- A query that now compares equal to one of its neighbours may stay where it is. -/
lemma Ordered.stay {visited rest : List DhtQuery} (O : Ordered (visited ++ q :: rest))
    (tied : visited.getLast?.any (·.metric = q'.metric) ∨ rest.head?.any (·.metric = q'.metric)) :
    Ordered (visited ++ q' :: rest) := by
  obtain ⟨ordered, ordered', cross⟩ := List.pairwise_append.mp O
  obtain ⟨first, ordered'⟩ := List.pairwise_cons.mp ordered'
  -- the neighbour lies between what is before and what is after
  have neighbour : ∃ x : DhtQuery, x.metric = q'.metric ∧ (∀ y ∈ visited, ¬ x.metric < y.metric) ∧
      ∀ y ∈ rest, ¬ y.metric < x.metric := by
    rcases tied with last | next
    · obtain ⟨x, here, e⟩ := (Option.any_eq_true _ _).mp last
      obtain ⟨init, rfl⟩ := List.getLast?_eq_some_iff.mp here
      obtain ⟨-, -, upTo⟩ := List.pairwise_append.mp ordered
      refine ⟨x, of_decide_eq_true e, fun y mem => ?_, fun y mem => ?_⟩
      · rcases List.mem_append.mp mem with mem | mem
        · exact upTo y mem x (List.mem_singleton_self x)
        · rw [List.mem_singleton.mp mem]
          exact DhtId.lt_irrefl _
      · exact cross x (List.mem_append_right _ (List.mem_singleton_self x)) y (List.mem_cons_of_mem q mem)
    · obtain ⟨x, here, e⟩ := (Option.any_eq_true _ _).mp next
      obtain ⟨tail, rfl⟩ := List.head?_eq_some_iff.mp here
      obtain ⟨from', -⟩ := List.pairwise_cons.mp ordered'
      refine ⟨x, of_decide_eq_true e, fun y mem => ?_, fun y mem => ?_⟩
      · exact cross y mem x (List.mem_cons_of_mem q List.mem_cons_self)
      · rcases List.mem_cons.mp mem with rfl | mem
        · exact DhtId.lt_irrefl _
        · exact from' y mem
  obtain ⟨x, e, upTo, further⟩ := neighbour
  rw [e] at upTo further
  refine List.pairwise_append.mpr ⟨ordered, List.pairwise_cons.mpr ⟨further, ordered'⟩, ?_⟩
  intro y mem z mem'
  rcases List.mem_cons.mp mem' with rfl | mem'
  · exact upTo y mem
  · exact cross y mem z (List.mem_cons_of_mem q mem')

end Sequence

variable {l l' : DhtLookup} {q q' : DhtQuery} {addr : DhtAddress} {i : Nat} {rest : List DhtQuery}

/-- A query that is found is in the sequence. -/
lemma get_mem (e : l.get i = some q) : q ∈ l.querySequence ∧ q.iter = i := by
  unfold get at e
  exact ⟨List.mem_of_find?_eq_some e, by simpa using List.find?_some e⟩

lemma get_of_mem (nodup : (l.querySequence.map (·.iter)).Nodup) (mem : q ∈ l.querySequence) :
    l.get q.iter = some q := by
  rw [get, find_perm (perm_cons nodup mem) nodup, List.find?_cons_of_pos (by simp)]

lemma timer_of_mem (nodup : (l.querySequence.map (·.iter)).Nodup) (mem : q ∈ l.querySequence) :
    l.timer q.iter = q.timeoutSource := by
  rw [timer, get_of_mem nodup mem]
  rfl

/-- The table leads to the query with the address. -/
lemma Sound.query_mem (S : l.Sound) (e : l.query addr = some q) :
    q ∈ l.querySequence ∧ q.addr = addr := by
  obtain ⟨i, ei, eq⟩ := Option.bind_eq_some_iff.mp e
  obtain ⟨mem, rfl⟩ := get_mem eq
  obtain ⟨x, mx, ix, rfl⟩ := (S.table _ _).mp ei
  rw [List.inj_on_of_nodup_map S.iters mx mem ix]
  exact ⟨mem, rfl⟩

/-- The table has every query under its address. -/
lemma Sound.query_of_mem (S : l.Sound) (mem : q ∈ l.querySequence) : l.query q.addr = some q := by
  rw [query, (S.table _ _).mpr ⟨q, mem, rfl, rfl⟩, Option.bind_some, get_of_mem S.iters mem]

/-- No two queries have the same address. -/
lemma Sound.addrs (S : l.Sound) : (l.querySequence.map (·.addr)).Nodup := by
  refine (List.nodup_map_iff_inj_on (List.Nodup.of_map _ S.iters)).mpr fun x mx y my e => ?_
  have ex := S.query_of_mem mx
  rw [e, S.query_of_mem my] at ex
  exact (Option.some.inj ex).symm

@[simp] lemma id_new (id : DhtId) (results : List Nat) : (new id results).id = id := rfl

@[simp] lemma id_insertQuery (node : MsgNode) : (l.insertQuery node).id = l.id := by
  unfold insertQuery
  split <;> rfl

@[simp] lemma results_insertQuery (node : MsgNode) : (l.insertQuery node).results = l.results := by
  unfold insertQuery
  split <;> rfl

@[simp] lemma timer_new (id : DhtId) (results : List Nat) : (new id results).timer i = 0 := rfl

lemma sound_new (id : DhtId) (results : List Nat) : (new id results).Sound where
  iters := List.nodup_nil
  below := List.forall_mem_nil _
  table _ _ := ⟨fun e => (by cases e), fun ⟨_, mem, _⟩ => (by cases mem)⟩
  ordered := List.Pairwise.nil
  single := List.forall_mem_nil _
  numSources := rfl
  le := Nat.zero_le _

/-- The results do not matter. -/
lemma Sound.setResults (S : l.Sound) (results : List Nat) : { l with results := results }.Sound :=
  ⟨S.iters, S.below, S.table, S.ordered, S.single, S.numSources, S.le⟩

/-- The queries of a lookup, one of them set apart. -/
lemma get_cons (p : l.querySequence.Perm (q :: rest))
    (nodup : (l.querySequence.map (·.iter)).Nodup) :
    l.get i = if i = q.iter then some q else rest.find? (·.iter = i) := by
  rw [get, find_perm p nodup, List.find?_cons]
  by_cases e : q.iter = i
  · simp [e]
  · simp [e, Ne.symm e]

/-- The timers of a lookup, one query set apart. -/
lemma timer_cons (p : l.querySequence.Perm (q :: rest))
    (nodup : (l.querySequence.map (·.iter)).Nodup) :
    l.timer i = if i = q.iter then q.timeoutSource
      else (rest.find? (·.iter = i)).elim 0 (·.timeoutSource) := by
  rw [timer, get_cons p nodup]
  split <;> rfl

/-- One query of a sound lookup changes. -/
lemma Sound.change (l' : DhtLookup) (S : l.Sound) (p : l.querySequence.Perm (q :: rest))
    (p' : l'.querySequence.Perm (q' :: rest)) (iter : q'.iter = q.iter) (addr : q'.addr = q.addr)
    (table : l'.queryTable = l.queryTable) (ordered : Ordered l'.querySequence)
    (single : q'.isFinished = true → q'.timeoutSource = 0)
    (count : l'.numSources + (if q.timeoutSource ≠ 0 then 1 else 0) =
      l.numSources + if q'.timeoutSource ≠ 0 then 1 else 0)
    (le : l'.numSources ≤ DHT_CONCURRENCY) :
    l'.Sound ∧ ∀ i, l'.timer i = if i = q.iter then q'.timeoutSource else l.timer i := by
  have iters' : (l'.querySequence.map (·.iter)).Nodup := by
    have n := (p.map (·.iter)).nodup S.iters
    apply (p'.map (·.iter)).symm.nodup
    rw [List.map_cons, iter]
    exact n
  -- a query of either sequence is the changed one or one of the rest
  have mem : ∀ x, x ∈ l.querySequence ↔ x = q ∨ x ∈ rest :=
    fun x => p.mem_iff.trans List.mem_cons
  have mem' : ∀ x, x ∈ l'.querySequence ↔ x = q' ∨ x ∈ rest :=
    fun x => p'.mem_iff.trans List.mem_cons
  refine ⟨⟨iters', ?_, ?_, ordered, ?_, ?_, le⟩, ?_⟩
  · intro x mx
    rw [p'.length_eq, List.length_cons, ← List.length_cons (a := q), ← p.length_eq]
    rcases (mem' x).mp mx with rfl | mx
    · rw [iter]
      exact S.below q ((mem q).mpr (.inl rfl))
    · exact S.below x ((mem x).mpr (.inr mx))
  · intro a i
    rw [table, S.table]
    constructor
    · rintro ⟨x, mx, ex⟩
      rcases (mem x).mp mx with rfl | mx
      · exact ⟨q', (mem' q').mpr (.inl rfl), by rw [iter, addr]; exact ex⟩
      · exact ⟨x, (mem' x).mpr (.inr mx), ex⟩
    · rintro ⟨x, mx, ex⟩
      rcases (mem' x).mp mx with rfl | mx
      · exact ⟨q, (mem q).mpr (.inl rfl), by rw [iter, addr] at ex; exact ex⟩
      · exact ⟨x, (mem x).mpr (.inr mx), ex⟩
  · intro x mx
    rcases (mem' x).mp mx with rfl | mx
    · exact single
    · exact S.single x ((mem x).mpr (.inr mx))
  · have n := S.numSources
    unfold countArmed at n ⊢
    rw [p.countP_eq, List.countP_cons] at n
    rw [p'.countP_eq, List.countP_cons]
    simp only [decide_eq_true_eq] at n ⊢
    omega
  · intro i
    rw [timer_cons p' iters', timer_cons p S.iters, iter]
    split <;> rfl

/-- A changed query stays in its place. -/
lemma setQuery_middle {visited : List DhtQuery} (q' : DhtQuery)
    (split : l.querySequence = visited ++ q :: rest)
    (nodup : (l.querySequence.map (·.iter)).Nodup) (iter : q'.iter = q.iter) :
    (l.setQuery q').querySequence = visited ++ q' :: rest := by
  rw [split, (List.perm_middle.map _).nodup_iff, List.map_cons, List.nodup_cons] at nodup
  have keep : ∀ xs : List DhtQuery, (∀ x ∈ xs, x ∈ visited ++ rest) →
      (xs.map fun x => if x.iter = q'.iter then q' else x) = xs := by
    intro xs sub
    refine (List.map_congr_left fun x mx => if_neg fun e => ?_).trans (List.map_id xs)
    exact nodup.1 (iter ▸ e ▸ List.mem_map_of_mem (sub x mx))
  rw [setQuery]
  dsimp only
  rw [split, List.map_append, List.map_cons, if_pos iter.symm,
    keep visited fun x mx => List.mem_append_left _ mx,
    keep rest fun x mx => List.mem_append_right _ mx]

/-- The sequence around the place of a query. -/
lemma split_at (nodup : (l.querySequence.map (·.iter)).Nodup) (mem : q ∈ l.querySequence)
    (iter : q'.iter = q.iter) : l.querySequence = l.before q' ++ q :: l.after q' := by
  have split := List.takeWhile_append_dropWhile (p := fun x : DhtQuery => x.iter ≠ q'.iter)
    (l := l.querySequence)
  cases e : l.querySequence.dropWhile fun x => x.iter ≠ q'.iter with
  | nil =>
    have other := List.dropWhile_eq_nil_iff.mp e q mem
    exact absurd iter.symm (of_decide_eq_true other)
  | cons x rest =>
    rw [e] at split
    have here : x.iter = q'.iter := by
      by_contra other
      have first := List.head_dropWhile_not (l := l.querySequence)
        (fun x : DhtQuery => x.iter ≠ q'.iter) (by rw [e]; exact List.cons_ne_nil x rest)
      simp only [e, List.head_cons, decide_eq_false_iff_not] at first
      exact first other
    have mem' : x ∈ l.querySequence := by
      rw [← split]
      exact List.mem_append_right _ List.mem_cons_self
    obtain rfl := List.inj_on_of_nodup_map nodup mem' mem (here.trans iter)
    rw [before, after, e, List.tail_cons, split]

/-- Both ways of changing a query leave the others in place and keep the order. -/
lemma Sound.replace (q' : DhtQuery) (S : l.Sound) (mem : q ∈ l.querySequence)
    (iter : q'.iter = q.iter) :
    ∃ rest, l.querySequence.Perm (q :: rest) ∧ (l.setQuery q').querySequence.Perm (q' :: rest) ∧
      (l.sortChanged q').querySequence.Perm (q' :: rest) ∧
      (q'.metric = q.metric → Ordered (l.setQuery q').querySequence) ∧
      Ordered (l.sortChanged q').querySequence := by
  have set : (l.setQuery q').querySequence.Perm
      (q' :: l.querySequence.filter fun x => x.iter ≠ q.iter) := by
    rw [← iter]
    exact perm_replace q' S.iters mem iter.symm
  refine ⟨l.querySequence.filter fun x => x.iter ≠ q.iter, perm_cons S.iters mem, set, ?_,
    S.ordered.replace S.iters mem iter, ?_⟩
  · unfold sortChanged
    dsimp only
    split
    · exact set
    · rw [← iter]
      exact insertSorted_perm _ _
  · unfold sortChanged
    dsimp only
    split
    · rename_i tied
      have around := split_at S.iters mem iter
      rw [setQuery_middle q' around S.iters iter]
      exact Ordered.stay (around ▸ S.ordered) tied
    · exact Ordered.insertSorted q' (S.ordered.sublist List.filter_sublist)

/-- Changing one query keeps the others. -/
lemma mem_setQuery (mem : q ∈ l.querySequence) (ne : q.iter ≠ q'.iter) :
    q ∈ (l.setQuery q').querySequence :=
  List.mem_map.mpr ⟨q, mem, if_neg ne⟩

/-- The place of a new query is free. -/
lemma Sound.place_free (S : l.Sound) (iter : q.iter = l.querySequence.length) :
    ∀ x ∈ l.querySequence, x.iter ≠ q.iter :=
  fun x mx => iter ▸ Nat.ne_of_lt (S.below x mx)

/-- The index with a new query in it. -/
lemma Sound.table_insert (S : l.Sound) (new : ¬ (l.queryTable q.addr).isSome) (a : DhtAddress) (i : Nat) :
    Function.update l.queryTable q.addr (some q.iter) a = some i ↔
      ∃ x ∈ insertSorted q l.querySequence, x.iter = i ∧ x.addr = a := by
  have mem : ∀ x, x ∈ insertSorted q l.querySequence ↔ x = q ∨ x ∈ l.querySequence :=
    fun x => (insertSorted_perm q l.querySequence).mem_iff.trans List.mem_cons
  by_cases ea : a = q.addr
  · subst ea
    rw [Function.update_self]
    constructor
    · intro e
      exact ⟨q, (mem q).mpr (.inl rfl), Option.some.inj e, rfl⟩
    · rintro ⟨x, mx, ex, ax⟩
      rcases (mem x).mp mx with rfl | mx
      · rw [ex]
      · refine absurd ?_ new
        rw [(S.table _ _).mpr ⟨x, mx, rfl, ax⟩]
        rfl
  · rw [Function.update_of_ne ea, S.table]
    constructor
    · rintro ⟨x, mx, ex⟩
      exact ⟨x, (mem x).mpr (.inr mx), ex⟩
    · rintro ⟨x, mx, ex⟩
      rcases (mem x).mp mx with rfl | mx
      · exact absurd ex.2.symm ea
      · exact ⟨x, mx, ex⟩

/-- A new query is not armed. -/
lemma Sound.insertQuery (S : l.Sound) (node : MsgNode) :
    (l.insertQuery node).Sound ∧ ∀ i, (l.insertQuery node).timer i = l.timer i := by
  unfold DhtLookup.insertQuery
  split
  · exact ⟨S, fun _ => rfl⟩
  · rename_i new
    have iter : (l.newQuery node).iter = l.querySequence.length := rfl
    have idle : (l.newQuery node).timeoutSource = 0 := rfl
    have new : ¬ (l.queryTable (l.newQuery node).addr).isSome := new
    dsimp only
    generalize l.newQuery node = q at iter idle new
    have p := insertSorted_perm q l.querySequence
    have other := S.place_free iter
    have iters : (List.map (·.iter) (insertSorted q l.querySequence)).Nodup := by
      apply (p.map (·.iter)).symm.nodup
      refine List.nodup_cons.mpr ⟨fun mem => ?_, S.iters⟩
      obtain ⟨x, mx, ex⟩ := List.mem_map.mp mem
      exact other x mx ex
    have mem : ∀ x, x ∈ insertSorted q l.querySequence ↔ x = q ∨ x ∈ l.querySequence :=
      fun x => p.mem_iff.trans List.mem_cons
    refine ⟨⟨iters, ?_, S.table_insert new, S.ordered.insertSorted q, ?_, ?_, S.le⟩, ?_⟩
    · intro x mx
      dsimp only
      rw [p.length_eq, List.length_cons]
      rcases (mem x).mp mx with rfl | mx
      · rw [iter]
        exact Nat.lt_succ_self _
      · exact Nat.lt_succ_of_lt (S.below x mx)
    · intro x mx
      rcases (mem x).mp mx with rfl | mx
      · exact fun _ => idle
      · exact S.single x mx
    · dsimp only
      rw [S.numSources, countArmed, countArmed, p.countP_eq, List.countP_cons]
      simp [idle]
    · intro i
      rw [timer_cons p iters, idle]
      split
      · rename_i e
        rw [timer, get, e, List.find?_eq_none.mpr]
        · rfl
        · intro x mx ex
          exact other x mx (of_decide_eq_true ex)
      · rfl

/-- One query of a lookup was changed, `q` to `q'`. -/
structure Changed (l l' : DhtLookup) (q q' : DhtQuery) : Prop where
  id : l'.id = l.id
  results : l'.results = l.results
  iter : q'.iter = q.iter
  addr : q'.addr = q.addr
  perm : ∃ rest, l.querySequence.Perm (q :: rest) ∧ l'.querySequence.Perm (q' :: rest)
  count : l'.numSources + (if q.timeoutSource ≠ 0 then 1 else 0) =
    l.numSources + if q'.timeoutSource ≠ 0 then 1 else 0
  sound : l'.Sound
  timers : ∀ i, l'.timer i = if i = q.iter then q'.timeoutSource else l.timer i

/-- A query is armed. -/
lemma Sound.request {source : Nat} (S : l.Sound) (mem : q ∈ l.querySequence)
    (more : l.numSources < DHT_CONCURRENCY) (waiting : q.isFinished = false)
    (idle : q.timeoutSource = 0) (armed : source ≠ 0) :
    Changed l (l.request q source) q { q with timeoutSource := source } := by
  obtain ⟨others, p, p', _, order, _⟩ := S.replace { q with timeoutSource := source } mem rfl
  have inc : guintInc l.numSources = l.numSources + 1 :=
    Nat.mod_eq_of_lt (Nat.lt_trans (Nat.succ_lt_succ more) (by decide))
  have count : guintInc l.numSources + (if q.timeoutSource ≠ 0 then 1 else 0) =
      l.numSources + if source ≠ 0 then 1 else 0 := by
    rw [inc, if_neg (not_not.mpr idle), if_pos armed]
  obtain ⟨sound, timers⟩ := S.change (l.request q source) p p' rfl rfl rfl (order rfl)
    (fun done => absurd (waiting.symm.trans done) nofun) count
    (show guintInc l.numSources ≤ DHT_CONCURRENCY by rw [inc]; exact more)
  exact ⟨rfl, rfl, rfl, rfl, ⟨others, p, p'⟩, count, sound, timers⟩

/-- A query that was answered or has timed out is disarmed. -/
lemma Sound.disarm (q' : DhtQuery) (S : l.Sound) (mem : q ∈ l.querySequence) (id : l'.id = l.id)
    (results : l'.results = l.results) (table : l'.queryTable = l.queryTable)
    (iter : q'.iter = q.iter) (addr : q'.addr = q.addr) (idle : q'.timeoutSource = 0)
    (change : q'.metric = q.metric ∧ l'.querySequence = (l.setQuery q').querySequence ∨
      l'.querySequence = (l.sortChanged q').querySequence)
    (count : l'.numSources = if q.timeoutSource > 0 then guintDec l.numSources else l.numSources) :
    Changed l l' q q' := by
  obtain ⟨rest, p, set, sort, order, order'⟩ := S.replace q' mem iter
  have p' : l'.querySequence.Perm (q' :: rest) := by
    rcases change with ⟨_, h⟩ | h
    · rwa [h]
    · rwa [h]
  have ordered : Ordered l'.querySequence := by
    rcases change with ⟨metric, h⟩ | h
    · rw [h]
      exact order metric
    · rwa [h]
  -- an armed query is counted, so the counter does not wrap
  have counted : q.timeoutSource > 0 → 0 < l.numSources := by
    intro pos
    rw [S.numSources, countArmed, p.countP_eq, List.countP_cons]
    simp [Nat.ne_of_gt pos]
  have numSources : l'.numSources + (if q.timeoutSource ≠ 0 then 1 else 0) = l.numSources := by
    rw [count]
    have le : l.numSources ≤ 3 := S.le
    unfold guintDec
    split
    · rename_i pos
      have := counted pos
      rw [if_pos (Nat.ne_of_gt pos)]
      omega
    · rw [if_neg (by omega)]
      omega
  have count : l'.numSources + (if q.timeoutSource ≠ 0 then 1 else 0) =
      l.numSources + if q'.timeoutSource ≠ 0 then 1 else 0 := by
    rw [numSources, idle]
    rfl
  obtain ⟨sound, timers⟩ := S.change l' p p' iter addr table ordered (fun _ => idle) count
    (Nat.le_trans (Nat.le.intro numSources) S.le)
  exact ⟨id, results, iter, addr, ⟨rest, p, p'⟩, count, sound, timers⟩

lemma Sound.answer (srcid : DhtId) (S : l.Sound) (mem : q ∈ l.querySequence) :
    Changed l (l.answer q srcid) q
      { q with metric := srcid.xor l.id, timeoutSource := 0, isFinished := true, isAlive := true } := by
  by_cases moved : srcid.xor l.id ≠ q.metric
  · rw [DhtLookup.answer, if_pos moved]
    exact S.disarm _ mem rfl rfl rfl rfl rfl rfl (.inr rfl) rfl
  · rw [DhtLookup.answer, if_neg moved, not_not.mp moved]
    exact S.disarm _ mem rfl rfl rfl rfl rfl rfl (.inl ⟨rfl, rfl⟩) rfl

lemma Sound.timeOut (S : l.Sound) (mem : q ∈ l.querySequence) (armed : q.timeoutSource ≠ 0) :
    Changed l (l.timeOut q) q { q with isFinished := true, timeoutSource := 0 } :=
  S.disarm _ mem rfl rfl rfl rfl rfl rfl (.inl ⟨rfl, rfl⟩) (if_pos (Nat.pos_of_ne_zero armed)).symm

end DhtLookup

/-! ## Books -/

/-- The tables of a client and its timeout sources. -/
structure Books where
  lookupTable : DhtId → Option DhtLookup
  connectionTable : DhtKey → Option DhtConnection
  sources : Nat → Option Timer
  nextSource : Nat

/-- The books of a client. -/
def DhtClient.books (c : DhtClient) : Books :=
  ⟨c.lookupTable, c.connectionTable, c.sources, c.nextSource⟩

/-- `g_source_remove` of a recorded source, if there is one. -/
def dropSource (source : Nat) (sources : Nat → Option Timer) : Nat → Option Timer :=
  if source > 0 then Function.update sources source none else sources

/-- The sources without those of some queries. -/
def dropSources (queries : List DhtQuery) (sources : Nat → Option Timer) : Nat → Option Timer :=
  queries.foldl (fun sources query => dropSource query.timeoutSource sources) sources

/-- The sources that are left when one is removed. -/
lemma dropSource_apply (source s : Nat) (sources : Nat → Option Timer) :
    dropSource source sources s = if s ≠ 0 ∧ source = s then none else sources s := by
  unfold dropSource
  by_cases e : source = s
  · subst e
    by_cases z : source = 0
    · simp [z]
    · simp [z, Nat.pos_of_ne_zero z]
  · split <;> simp [e, Ne.symm e]

/-- The sources that are left when those of queries are removed. -/
lemma dropSources_apply (queries : List DhtQuery) (s : Nat) (sources : Nat → Option Timer) :
    dropSources queries sources s =
      if s ≠ 0 ∧ ∃ q ∈ queries, q.timeoutSource = s then none else sources s := by
  unfold dropSources
  induction queries generalizing sources with
  | nil => simp
  | cons q qs ih =>
    rw [List.foldl_cons, ih, dropSource_apply]
    by_cases z : s = 0
    · simp [z]
    · by_cases e : q.timeoutSource = s <;> simp [z, e]

namespace Books

/-- The timeout source recorded where the timer refers to, 0 if there is none. -/
def timerOf (b : Books) : Timer → Nat
  | .query id iter => (b.lookupTable id).elim 0 (·.timer iter)
  | .connection nonce => (b.connectionTable nonce).elim 0 (·.timeoutSource)

/-- The invariant, but for the lookup `idle`. -/
structure Consistent (b : Books) (idle : Option DhtId) : Prop where
  lookup : ∀ id l, b.lookupTable id = some l → l.id = id ∧ l.Sound
  busy : ∀ id l, b.lookupTable id = some l → some id ≠ idle → l.numSources ≠ 0
  connection : ∀ nonce k, b.connectionTable nonce = some k →
    k.nonce = nonce ∧ k.timeoutSource ≠ 0 ∧ (k.isRemote = true ↔ k.result = none)
  timers : Registered b.sources b.timerOf
  fresh : ∀ s, b.nextSource ≤ s → b.sources s = none
  next : b.nextSource ≠ 0

namespace Consistent

variable {b : Books} {idle : Option DhtId} {l l' : DhtLookup} {q : DhtQuery} {i : Nat}
  {k : DhtConnection} {nonce : DhtKey}

/-- The books of a new client. -/
lemma init : Consistent ⟨fun _ => none, fun _ => none, fun _ => none, 3⟩ none where
  lookup := nofun
  busy := nofun
  connection := nofun
  timers := by
    intro s t
    cases t <;> simp [timerOf, eq_comm]
  fresh := fun _ _ => rfl
  next := nofun

lemma weaken (idle : Option DhtId) (C : b.Consistent none) : b.Consistent idle :=
  { C with busy := fun id l e _ => C.busy id l e nofun }

/-- The idle lookup has an armed query again. -/
lemma strengthen (C : b.Consistent (some l.id)) (here : b.lookupTable l.id = some l)
    (ne : l.numSources ≠ 0) : b.Consistent none := by
  refine { C with busy := fun id l' e _ => ?_ }
  by_cases same : id = l.id
  · subst same
    cases here.symm.trans e
    exact ne
  · exact C.busy id l' e (fun h => same (Option.some.inj h))

/-- The source recorded in a query of a lookup in the table. -/
lemma timerOf_query (here : b.lookupTable l.id = some l) (i : Nat) :
    b.timerOf (.query l.id i) = l.timer i := by
  simp [timerOf, here]

/-- What is to be shown when a lookup changes together with the sources. -/
lemma put (C : b.Consistent idle) (sound : l.Sound) (busy : some l.id ≠ idle → l.numSources ≠ 0)
    {b' : Books} (lookups : b'.lookupTable = Function.update b.lookupTable l.id (some l))
    (connections : b'.connectionTable = b.connectionTable)
    (timers : Registered b'.sources b'.timerOf)
    (fresh : ∀ s, b'.nextSource ≤ s → b'.sources s = none) (next : b'.nextSource ≠ 0) :
    b'.Consistent idle where
  lookup id l' e := by
    rw [lookups] at e
    by_cases same : id = l.id
    · subst same
      rw [Function.update_self] at e
      cases e
      exact ⟨rfl, sound⟩
    · rw [Function.update_of_ne same] at e
      exact C.lookup id l' e
  busy id l' e ne := by
    rw [lookups] at e
    by_cases same : id = l.id
    · subst same
      rw [Function.update_self] at e
      cases e
      exact busy ne
    · rw [Function.update_of_ne same] at e
      exact C.busy id l' e ne
  connection nonce k e := C.connection nonce k (by rwa [connections] at e)
  timers := timers
  fresh := fresh
  next := next

/-- The timers after a change of one lookup. -/
lemma timerOf_put {lookups : DhtId → Option DhtLookup} {sources : Nat → Option Timer} {next : Nat}
    (lookups_eq : lookups = Function.update b.lookupTable l.id (some l)) (t : Timer) :
    timerOf ⟨lookups, b.connectionTable, sources, next⟩ t =
      match t with
      | .query id i => if id = l.id then l.timer i else b.timerOf t
      | .connection _ => b.timerOf t := by
  subst lookups_eq
  cases t with
  | connection nonce => rfl
  | query id i =>
    by_cases e : id = l.id
    · subst e
      simp [timerOf]
    · simp [timerOf, e]

/-- A lookup is entered or changed, its timers remaining the same. -/
lemma putLookup (C : b.Consistent idle) (sound : l.Sound)
    (busy : some l.id ≠ idle → l.numSources ≠ 0)
    (same : ∀ i, l.timer i = b.timerOf (.query l.id i)) :
    Consistent { b with lookupTable := Function.update b.lookupTable l.id (some l) } idle := by
  refine C.put sound busy rfl rfl ?_ C.fresh C.next
  have e : timerOf { b with lookupTable := Function.update b.lookupTable l.id (some l) } =
      b.timerOf := by
    funext t
    rw [timerOf_put rfl]
    cases t with
    | connection nonce => rfl
    | query id i =>
      dsimp only
      split
      · rename_i e
        rw [e, same]
      · rfl
  rw [e]
  exact C.timers

/-- A query loses its source. -/
lemma disarm (C : b.Consistent none) (here : b.lookupTable l.id = some l)
    (mem : q ∈ l.querySequence) (sound : l'.Sound) (same : l'.id = l.id)
    (timers : ∀ i, l'.timer i = if i = q.iter then 0 else l.timer i) :
    Consistent { b with
      lookupTable := Function.update b.lookupTable l'.id (some l')
      sources := dropSource q.timeoutSource b.sources } (some l.id) := by
  refine (C.weaken _).put sound (fun h => absurd (congrArg some same) h) rfl rfl ?_ ?_ C.next
  · have recorded : b.timerOf (.query l.id q.iter) = q.timeoutSource := by
      rw [timerOf_query here, DhtLookup.timer_of_mem (C.lookup _ _ here).2.iters mem]
    apply C.timers.remove {.query l.id q.iter}
    · rintro s ⟨t, rfl, es, ne⟩
      rw [recorded] at es
      simp [dropSource_apply, es, ne]
    · intro s other
      dsimp only
      rw [dropSource_apply, if_neg]
      rintro ⟨ne, es⟩
      exact ne (other _ rfl (recorded.trans es))
    · rintro t rfl
      rw [timerOf_put rfl]
      simp [same, timers]
    · intro t other
      rw [timerOf_put rfl]
      cases t with
      | connection nonce => rfl
      | query id i =>
        dsimp only
        split
        · rename_i ei
          rw [ei, same, timerOf_query here, timers, if_neg]
          rintro rfl
          exact other (by rw [ei, same]; rfl)
        · rfl
  · intro s le
    dsimp only
    rw [dropSource_apply, C.fresh s le, ite_self]

/-- A query gets a new source. -/
lemma arm (C : b.Consistent (some l.id)) (here : b.lookupTable l.id = some l)
    (idle : l.timer i = 0) (sound : l'.Sound) (same : l'.id = l.id)
    (timers : ∀ j, l'.timer j = if j = i then b.nextSource else l.timer j) :
    Consistent { b with
      lookupTable := Function.update b.lookupTable l'.id (some l')
      sources := Function.update b.sources b.nextSource (some (.query l.id i))
      nextSource := b.nextSource + 1 } (some l.id) := by
  refine C.put sound (fun h => absurd (congrArg some same) h) rfl rfl ?_ ?_ (Nat.succ_ne_zero _)
  · apply C.timers.add (C.fresh _ (Nat.le_refl _)) C.next
    · rw [timerOf_query here, idle]
    · intro t other
      rw [timerOf_put rfl]
      cases t with
      | connection nonce => rfl
      | query id i =>
        dsimp only
        split
        · rename_i ei
          rw [ei, same, timerOf_query here, timers, if_neg]
          rintro rfl
          exact other (by rw [ei, same])
        · rfl
    · rw [timerOf_put rfl]
      simp [same, timers]
  · intro s le
    have lt : b.nextSource < s := le
    dsimp only
    rw [Function.update_of_ne (Nat.ne_of_gt lt), C.fresh s (Nat.le_of_lt lt)]

/-- A lookup is removed with its sources. -/
lemma removeLookup (C : b.Consistent (some l.id)) (here : b.lookupTable l.id = some l) :
    Consistent { b with
      lookupTable := Function.update b.lookupTable l.id none
      sources := dropSources l.querySequence b.sources } none where
  lookup id l' e := by
    by_cases same : id = l.id
    · subst same
      simp at e
    · simp only [Function.update_of_ne same] at e
      exact C.lookup id l' e
  busy id l' e _ := by
    by_cases same : id = l.id
    · subst same
      simp at e
    · simp only [Function.update_of_ne same] at e
      exact C.busy id l' e (fun h => same (Option.some.inj h))
  connection := C.connection
  timers := by
    have nodup := (C.lookup _ _ here).2.iters
    apply C.timers.remove { t | ∃ i, t = .query l.id i }
    · rintro s ⟨_, ⟨i, rfl⟩, es, ne⟩
      rw [timerOf_query here] at es
      dsimp only
      rw [dropSources_apply, if_pos]
      refine ⟨ne, ?_⟩
      unfold DhtLookup.timer at es
      cases e : l.get i with
      | none =>
        rw [e] at es
        exact absurd es.symm ne
      | some q =>
        rw [e] at es
        exact ⟨q, (DhtLookup.get_mem e).1, es⟩
    · intro s other
      dsimp only
      rw [dropSources_apply, if_neg]
      rintro ⟨ne, q, mem, es⟩
      apply ne
      apply other _ ⟨q.iter, rfl⟩
      rw [timerOf_query here, DhtLookup.timer_of_mem nodup mem, es]
    · rintro _ ⟨i, rfl⟩
      simp [timerOf]
    · intro t other
      cases t with
      | connection nonce => rfl
      | query id i =>
        have ne : id ≠ l.id := by
          rintro rfl
          exact other ⟨i, rfl⟩
        simp [timerOf, ne]
  fresh s le := by
    dsimp only
    rw [dropSources_apply, C.fresh s le, ite_self]
  next := C.next

/-- A connection leaves the table, and its source is removed. -/
lemma dropConnection (C : b.Consistent idle) (here : b.connectionTable nonce = some k) :
    Consistent { b with
      connectionTable := Function.update b.connectionTable nonce none
      sources := dropSource k.timeoutSource b.sources } idle where
  lookup := C.lookup
  busy := C.busy
  connection nonce' k' e := by
    by_cases same : nonce' = nonce
    · subst same
      simp at e
    · simp only [Function.update_of_ne same] at e
      exact C.connection nonce' k' e
  timers := by
    have recorded : b.timerOf (.connection nonce) = k.timeoutSource := by
      simp [timerOf, here]
    apply C.timers.remove {.connection nonce}
    · rintro s ⟨t, rfl, es, ne⟩
      rw [recorded] at es
      simp [dropSource_apply, es, ne]
    · intro s other
      dsimp only
      rw [dropSource_apply, if_neg]
      rintro ⟨ne, es⟩
      exact ne (other _ rfl (recorded.trans es))
    · rintro t rfl
      simp [timerOf]
    · intro t other
      cases t with
      | query id i => rfl
      | connection nonce' =>
        have ne : nonce' ≠ nonce := by
          rintro rfl
          exact other rfl
        simp [timerOf, ne]
  fresh s le := by
    dsimp only
    rw [dropSource_apply, C.fresh s le, ite_self]
  next := C.next

/-- A connection is entered under a free nonce, with a new source. -/
lemma addConnection (C : b.Consistent idle) (free : b.connectionTable k.nonce = none)
    (source : k.timeoutSource = b.nextSource) (role : k.isRemote = true ↔ k.result = none) :
    Consistent { b with
      connectionTable := Function.update b.connectionTable k.nonce (some k)
      sources := Function.update b.sources b.nextSource (some (.connection k.nonce))
      nextSource := b.nextSource + 1 } idle where
  lookup := C.lookup
  busy := C.busy
  connection nonce' k' e := by
    by_cases same : nonce' = k.nonce
    · subst same
      simp only [Function.update_self, Option.some.injEq] at e
      subst e
      exact ⟨rfl, source ▸ C.next, role⟩
    · simp only [Function.update_of_ne same] at e
      exact C.connection nonce' k' e
  timers := by
    apply C.timers.add (C.fresh _ (Nat.le_refl _)) C.next
    · simp [timerOf, free]
    · intro t other
      cases t with
      | query id i => rfl
      | connection nonce' =>
        have ne : nonce' ≠ k.nonce := by
          rintro rfl
          exact other rfl
        simp [timerOf, ne]
    · simp [timerOf, source]
  fresh s le := by
    have lt : b.nextSource < s := le
    dsimp only
    rw [Function.update_of_ne (Nat.ne_of_gt lt), C.fresh s (Nat.le_of_lt lt)]
  next := Nat.succ_ne_zero _

/-- The keys of a connection change. -/
lemma rekey (k' : DhtConnection) (C : b.Consistent idle)
    (here : b.connectionTable nonce = some k) (same : k'.nonce = nonce) (source : k'.timeoutSource = k.timeoutSource)
    (role : k'.isRemote = k.isRemote) (result : k'.result = k.result) :
    Consistent { b with
      connectionTable := Function.update b.connectionTable nonce (some k') } idle where
  lookup := C.lookup
  busy := C.busy
  connection nonce' k'' e := by
    by_cases es : nonce' = nonce
    · subst es
      simp only [Function.update_self, Option.some.injEq] at e
      subst e
      rw [source, role, result]
      exact ⟨same, (C.connection _ _ here).2⟩
    · simp only [Function.update_of_ne es] at e
      exact C.connection nonce' k'' e
  timers := by
    have e : timerOf { b with
        connectionTable := Function.update b.connectionTable nonce (some k') } = b.timerOf := by
      funext t
      cases t with
      | query id i => rfl
      | connection nonce' =>
        by_cases es : nonce' = nonce
        · subst es
          simp [timerOf, here, source]
        · simp [timerOf, es]
    rw [e]
    exact C.timers
  fresh := C.fresh
  next := C.next

end Consistent

end Books

/-! ## Callbacks -/

namespace DhtClient

variable {c : DhtClient} {l : DhtLookup} {k : DhtConnection} {idle : Option DhtId}

/-! What the destroy callbacks leave behind. -/

lemma resultDestroy_foldl (results : List Nat) :
    results.foldl resultDestroy c =
      { c with log := (results.reverse.map fun result =>
          .completeInIdle result ⟨.cancelled, "Operation cancelled"⟩) ++ c.log } := by
  induction results generalizing c with
  | nil => rfl
  | cons r rs ih => rw [List.foldl_cons, ih]; simp [resultDestroy, act]

lemma queryDestroy_foldl (queries : List DhtQuery) :
    queries.foldl queryDestroy c = { c with sources := dropSources queries c.sources } := by
  induction queries generalizing c with
  | nil => rfl
  | cons q qs ih =>
    have e : c.queryDestroy q = { c with sources := dropSource q.timeoutSource c.sources } := by
      unfold queryDestroy dropSource
      split <;> rfl
    rw [List.foldl_cons, ih, e]
    rfl

lemma lookupDestroy_books :
    (c.lookupDestroy l).books = { c.books with sources := dropSources l.querySequence c.sources } := by
  rw [lookupDestroy, resultDestroy_foldl, queryDestroy_foldl]
  rfl

lemma connectionDestroy_books :
    (c.connectionDestroy k).books = { c.books with sources := dropSource k.timeoutSource c.sources } := by
  unfold connectionDestroy dropSource
  split <;> cases k.result <;> rfl

/-- Failing the results of a lookup. -/
lemma foldl_act_books (f : Nat → Action) (results : List Nat) :
    (results.foldl (fun c result => c.act (f result)) c).books = c.books := by
  induction results generalizing c with
  | nil => rfl
  | cons r rs ih => rw [List.foldl_cons, ih]; rfl

/-! Lookups. -/

lemma lookupRemove_consistent (C : c.books.Consistent (some l.id))
    (here : c.lookupTable l.id = some l) : (c.lookupRemove l.id).books.Consistent none := by
  rw [lookupRemove, here]
  dsimp only
  rw [lookupDestroy_books]
  exact C.removeLookup here

/-- The last step of a lookup: its results have gone elsewhere, and it is removed. -/
lemma finish_consistent (C : c.books.Consistent (some l.id)) (here : c.lookupTable l.id = some l) :
    ((c.putLookup { l with results := [] }).lookupRemove l.id).books.Consistent none := by
  have sound := (C.lookup _ _ here).2
  have timers : ∀ i, l.timer i = c.books.timerOf (.query l.id i) :=
    fun i => (Books.Consistent.timerOf_query here i).symm
  have C' : (c.putLookup { l with results := [] }).books.Consistent (some l.id) :=
    C.putLookup (l := { l with results := [] }) (sound.setResults []) (fun ne => absurd rfl ne) timers
  exact lookupRemove_consistent (l := { l with results := [] }) C' (Function.update_self _ _ _)

/-- The lookup in hand remains the one in the table. -/
lemma dispatchLoop_here (todo : List DhtQuery) (numAlive : Nat) (here : c.lookupTable l.id = some l) :
    (dispatchLoop todo c l numAlive).2.id = l.id ∧
    (dispatchLoop todo c l numAlive).2.results = l.results ∧
    (dispatchLoop todo c l numAlive).1.lookupTable l.id =
      some (dispatchLoop todo c l numAlive).2 := by
  induction todo generalizing c l numAlive with
  | nil => exact ⟨rfl, rfl, here⟩
  | cons q rest ih =>
    unfold dispatchLoop
    split
    · dsimp only
      split
      · exact ih _ (Function.update_self _ _ _)
      · exact ih _ here
    · exact ⟨rfl, rfl, here⟩

/-- The client after a request to a query. -/
abbrev requestQuery (c : DhtClient) (l : DhtLookup) (q : DhtQuery) : DhtClient :=
  (((c.act (.request l.id q l.querySequence)).act
    (.sendTo 0 (some q.addr.deserialize) (.lookupReq c.id l.id))).timeoutAdd
      (.query l.id q.iter)).2.putLookup (l.request q c.nextSource)

/-- A query is armed with the next source. -/
lemma requestQuery_consistent {q : DhtQuery} (C : c.books.Consistent (some l.id))
    (here : c.lookupTable l.id = some l) (mem : q ∈ l.querySequence)
    (more : l.numSources < DHT_CONCURRENCY) (waiting : q.isFinished = false)
    (idle : q.timeoutSource = 0) : (c.requestQuery l q).books.Consistent (some l.id) := by
  have S := (C.lookup _ _ here).2
  have change := S.request mem more waiting idle C.next
  have timer : l.timer q.iter = 0 := (DhtLookup.timer_of_mem S.iters mem).trans idle
  exact C.arm here timer change.sound rfl change.timers

lemma dispatchLoop_consistent (todo : List DhtQuery) (numAlive : Nat)
    (C : c.books.Consistent (some l.id)) (here : c.lookupTable l.id = some l)
    (mem : ∀ q ∈ todo, q ∈ l.querySequence) (nodup : (todo.map (·.iter)).Nodup) :
    (dispatchLoop todo c l numAlive).1.books.Consistent (some l.id) := by
  induction todo generalizing c l numAlive with
  | nil => exact C
  | cons q rest ih =>
    have e := mem q (List.mem_cons_self ..)
    have mem' := fun q' m => mem q' (List.mem_cons_of_mem _ m)
    rw [List.map_cons, List.nodup_cons] at nodup
    unfold dispatchLoop
    split
    · rename_i more
      dsimp only
      split
      · rename_i idle
        apply ih
        · exact requestQuery_consistent C here e more.1 (by simpa using idle.1) idle.2
        · exact Function.update_self _ _ _
        · intro q' m
          have ne : q'.iter ≠ q.iter := fun same => nodup.1 (same ▸ List.mem_map_of_mem m)
          exact DhtLookup.mem_setQuery (mem' q' m) ne
        · exact nodup.2
      · exact ih _ C here mem' nodup.2
    · exact C

/-- A lookup goes on, or is removed when it has failed. -/
lemma lookupDispatch_consistent (C : c.books.Consistent (some l.id))
    (here : c.lookupTable l.id = some l) : (c.lookupDispatch l).books.Consistent none := by
  have S := (C.lookup _ _ here).2
  have C' := dispatchLoop_consistent l.querySequence 0 C here
    (fun _ m => m) S.iters
  obtain ⟨id, _, here'⟩ := dispatchLoop_here l.querySequence 0 here
  unfold lookupDispatch
  generalize dispatchLoop l.querySequence c l 0 = r at C' id here'
  obtain ⟨c', l'⟩ := r
  dsimp only at C' id here' ⊢
  rw [← id] at C' here'
  split
  · apply finish_consistent
    · rw [foldl_act_books]
      exact C'
    · have e := congrArg Books.lookupTable (foldl_act_books
        (c := c'.act (.lookupFailed l'.id l'.querySequence))
        (fun result => .completeInIdle result ⟨.hostNotFound, "Lookup failed"⟩) l'.results)
      exact (congrFun e l'.id).trans here'
  · rename_i ne
    exact C'.strengthen here' ne

/-! Connections. -/

/-- A connection replaces another one, for the books. -/
lemma connectionReplace_books : (c.connectionReplace k).books =
    { c.books with
      connectionTable := Function.update c.connectionTable k.nonce (some k)
      sources := (c.connectionTable k.nonce).elim c.sources
        fun old => dropSource old.timeoutSource c.sources } := by
  unfold connectionReplace
  cases c.connectionTable k.nonce with
  | none => rfl
  | some old =>
    dsimp only
    rw [connectionDestroy_books]
    rfl

/-- A source is removed while another one is attached. -/
lemma dropSource_update {sources : Nat → Option Timer} {source new : Nat} {t : Option Timer}
    (ne : source ≠ new) : dropSource source (Function.update sources new t) =
      Function.update (dropSource source sources) new t := by
  unfold dropSource
  split
  · exact Function.update_comm ne.symm _ _ _
  · rfl

/-- A connection is created: a timeout is added, and the connection replaces one that has the same
    nonce. -/
lemma connectionReplace_consistent (C : c.books.Consistent idle)
    (source : k.timeoutSource = c.nextSource) (role : k.isRemote = true ↔ k.result = none) :
    ((c.timeoutAdd (.connection k.nonce)).2.connectionReplace k).books.Consistent idle := by
  rw [connectionReplace_books]
  cases e : c.connectionTable k.nonce with
  | none =>
    simp only [timeoutAdd, e]
    exact C.addConnection e source role
  | some old =>
    have C' := (C.dropConnection e).addConnection (k := k) (Function.update_self _ _ _) source role
    have ne : old.timeoutSource ≠ c.nextSource := by
      intro same
      have recorded : c.books.timerOf (.connection k.nonce) = old.timeoutSource := by
        simp [Books.timerOf, books, e]
      have used := C.timers.source (recorded.trans_ne (C.connection _ _ e).2.1)
      rw [recorded, same] at used
      exact absurd (used.symm.trans (C.fresh _ (Nat.le_refl _))) nofun
    simp only [timeoutAdd, e, Option.elim_some]
    rw [dropSource_update ne]
    simp only [Function.update_idem] at C'
    exact C'

lemma connectionRemove_books (here : c.connectionTable k.nonce = some k) :
    (c.connectionRemove k.nonce).books =
    { c.books with
      connectionTable := Function.update c.connectionTable k.nonce none
      sources := dropSource k.timeoutSource c.sources } := by
  rw [connectionRemove, here]
  dsimp only
  rw [connectionDestroy_books]
  rfl

section Random

variable (random : Nat → DhtKey)

lemma requestConnection_consistent (C : c.books.Consistent idle) (id : DhtId) (addr : DhtAddress)
    (result : Nat) : (c.requestConnection random id addr result).books.Consistent idle := by
  unfold requestConnection
  dsimp only
  apply connectionReplace_consistent (c := (c.makeRandom random).2.act _) C rfl
  simp

lemma requestConnection_lookupTable (id : DhtId) (addr : DhtAddress) (result : Nat) :
    (c.requestConnection random id addr result).lookupTable = c.lookupTable := by
  unfold requestConnection
  dsimp only
  exact congrArg Books.lookupTable connectionReplace_books

lemma requestConnections_consistent (C : c.books.Consistent idle) (id : DhtId) (addr : DhtAddress)
    (results : List Nat) :
    (results.foldl (fun c result => c.requestConnection random id addr result) c).books.Consistent
      idle := by
  induction results generalizing c with
  | nil => exact C
  | cons r rs ih => exact ih (requestConnection_consistent random C id addr r)

lemma requestConnections_lookupTable (id : DhtId) (addr : DhtAddress) (results : List Nat) :
    (results.foldl (fun c result => c.requestConnection random id addr result) c).lookupTable =
      c.lookupTable := by
  induction results generalizing c with
  | nil => rfl
  | cons r rs ih => rw [List.foldl_cons, ih, requestConnection_lookupTable]

lemma insertQuery_consistent (C : c.books.Consistent (some l.id))
    (here : c.lookupTable l.id = some l) (node : MsgNode) :
    (c.putLookup (l.insertQuery node)).books.Consistent (some (l.insertQuery node).id) := by
  obtain ⟨sound, timers⟩ := (C.lookup _ _ here).2.insertQuery node
  rw [DhtLookup.id_insertQuery]
  apply C.putLookup sound
  · intro ne
    exact absurd (congrArg some (DhtLookup.id_insertQuery node)) ne
  · intro i
    rw [timers, DhtLookup.id_insertQuery]
    exact (Books.Consistent.timerOf_query here i).symm

/-- A lookup takes nodes, or is removed when it has found its node. -/
lemma updateLoop_consistent (nodes : List MsgNode) (C : c.books.Consistent (some l.id))
    (here : c.lookupTable l.id = some l) :
    (c.updateLoop random l nodes).books.Consistent none := by
  induction nodes generalizing c l with
  | nil => exact lookupDispatch_consistent C here
  | cons node nodes ih =>
    unfold updateLoop
    split
    · exact ih C here
    · split
      · apply finish_consistent
        · exact requestConnections_consistent random C _ _ _
        · rw [requestConnections_lookupTable]
          exact here
      · exact ih (insertQuery_consistent C here node) (Function.update_self _ _ _)

lemma lookupUpdate_consistent (nodes : List MsgNode) (C : c.books.Consistent (some l.id))
    (here : c.lookupTable l.id = some l) :
    (c.lookupUpdate random l nodes).books.Consistent none :=
  updateLoop_consistent random (c := c.act (.offered l.id nodes)) nodes C here

/-- A lookup is created. -/
lemma putNew_consistent (C : c.books.Consistent none) {id : DhtId} (results : List Nat)
    (free : c.lookupTable id = none) :
    (c.putLookup (.new id results)).books.Consistent (some id) := by
  apply (C.weaken _).putLookup (DhtLookup.sound_new id results)
  · intro ne
    exact absurd rfl ne
  · intro a
    have e : c.books.timerOf (.query id a) = 0 := by simp [Books.timerOf, books, free]
    exact e.symm

/-- A lookup replaces the one with the same id. -/
lemma lookupReplace_consistent (C : c.books.Consistent none) (id : DhtId) :
    (c.lookupReplace (.new id [])).books.Consistent (some id) := by
  unfold lookupReplace
  cases e : c.lookupTable (DhtLookup.new id []).id with
  | none => exact putNew_consistent C [] e
  | some old =>
    -- the old one is removed before the new one is entered
    have id_eq : old.id = id := (C.lookup _ _ e).1
    have e' : c.lookupTable old.id = some old := id_eq ▸ e
    have C' := Books.Consistent.removeLookup (C.weaken _) e'
    have C'' := (C'.weaken (some id)).putLookup (l := .new id []) (DhtLookup.sound_new id [])
      (fun ne => absurd rfl ne) (fun a => by simp [Books.timerOf, id_eq])
    dsimp only
    rw [lookupDestroy_books]
    simp only [id_eq, DhtLookup.new, Function.update_idem] at C''
    exact C''

lemma lookupReplace_lookupTable (id : DhtId) :
    (c.lookupReplace (.new id [])).lookupTable id = some (.new id []) := by
  unfold lookupReplace
  split
  · have e := congrArg Books.lookupTable (lookupDestroy_books (c := c.putLookup (.new id []))
      (l := ‹DhtLookup›))
    exact (congrFun e id).trans (Function.update_self _ _ _)
  · exact Function.update_self _ _ _

lemma lookupAsync_consistent (C : c.books.Consistent none) (now : Int) (id : DhtId) :
    (c.lookupAsync random now id).books.Consistent none := by
  unfold lookupAsync
  dsimp only
  split
  · exact C
  · split
    · rename_i l e
      obtain ⟨id_eq, sound⟩ := C.lookup _ _ e
      subst id_eq
      have timers : ∀ i, l.timer i = c.books.timerOf (.query l.id i) :=
        fun i => (Books.Consistent.timerOf_query e i).symm
      exact C.putLookup (l := { l with results := c.calls :: l.results })
        (sound.setResults _) (fun _ => C.busy l.id l e nofun) timers
    · rename_i free
      exact lookupUpdate_consistent random _ (l := .new id [c.calls])
        (putNew_consistent (c := ({ c with calls := c.calls + 1 } : DhtClient).act (.lookupNew id))
          C _ free)
        (Function.update_self _ _ _)

lemma bootstrap_consistent (C : c.books.Consistent none) (address : GSocketAddress) :
    (c.bootstrap random address).books.Consistent none := by
  unfold bootstrap
  dsimp only
  split
  · rename_i l e
    obtain ⟨id_eq, _⟩ := C.lookup _ _ e
    exact lookupUpdate_consistent random _ (C.weaken _) (id_eq ▸ e)
  · rename_i free
    exact lookupUpdate_consistent random _
      (putNew_consistent (c := c.act (.lookupNew c.id)) C _ free) (Function.update_self _ _ _)

lemma refresh_consistent (C : c.books.Consistent none) (now : Int) (nbits : Nat)
    (drawn : Nat → UInt8) : (c.refresh random now nbits drawn).books.Consistent none :=
  lookupUpdate_consistent random _
    (lookupReplace_consistent (c := c.act (.lookupNew (refreshId c.id nbits drawn))) C _)
    (lookupReplace_lookupTable _)

end Random

/-! Datagrams. -/

section Receive

variable (S : Sodium) (random : Nat → DhtKey) (env : Env) (sockaddr : GSocketAddress)

lemma lookupReq_consistent (C : c.books.Consistent none) (srcid dstid : DhtId) :
    (c.lookupReq env sockaddr srcid dstid).books.Consistent none := by
  unfold lookupReq
  split <;> exact C

/-- A query that was answered or has timed out loses its source. -/
lemma disarm_consistent {q q' : DhtQuery} {l' : DhtLookup} {c' : DhtClient}
    (C : c.books.Consistent none) (here : c.lookupTable l.id = some l) (mem : q ∈ l.querySequence)
    (change : DhtLookup.Changed l l' q q') (idle : q'.timeoutSource = 0)
    (removed : c'.books = { c.books with sources := dropSource q.timeoutSource c.sources }) :
    (c'.putLookup l').books.Consistent (some l'.id) := by
  have timers := change.timers
  rw [idle] at timers
  have D := C.disarm here mem change.sound change.id timers
  rw [← change.id] at D
  have books : (c'.putLookup l').books = { c'.books with
      lookupTable := Function.update c'.books.lookupTable l'.id (some l') } := rfl
  rw [books, removed]
  exact D

/-- A response to a query. -/
lemma lookupRes_eq {srcid dstid : DhtId} {q : DhtQuery} (nodes : List MsgNode) (foreign : srcid ≠ c.id)
    (here : c.lookupTable dstid = some l) (found : l.query (.serialize sockaddr) = some q) :
    c.lookupRes random env sockaddr srcid dstid nodes =
      (((((c.update env.updateTime srcid (.serialize sockaddr) true).act
        (.answered dstid q srcid nodes)).queryDestroy q).putLookup (l.answer q srcid)).lookupUpdate
          random (l.answer q srcid) nodes) := by
  have here' : (c.update env.updateTime srcid (.serialize sockaddr) true).lookupTable dstid =
    some l := here
  unfold lookupRes
  rw [if_neg foreign]
  simp only [here', found, queryDestroy, DhtLookup.answer]
  split <;> rfl

/-- A response is ignored, but for the routing table, or belongs to a query. -/
lemma lookupRes_cases (C : c.books.Consistent none) (srcid dstid : DhtId) (nodes : List MsgNode) :
    c.lookupRes random env sockaddr srcid dstid nodes = c ∨
    c.lookupRes random env sockaddr srcid dstid nodes =
      c.update env.updateTime srcid (.serialize sockaddr) true ∨
    ∃ l q, c.lookupTable l.id = some l ∧ dstid = l.id ∧ srcid ≠ c.id ∧ q ∈ l.querySequence ∧
      l.query (.serialize sockaddr) = some q ∧
      c.lookupRes random env sockaddr srcid dstid nodes =
        (((((c.update env.updateTime srcid (.serialize sockaddr) true).act
          (.answered l.id q srcid nodes)).queryDestroy q).putLookup (l.answer q srcid)).lookupUpdate
            random (l.answer q srcid) nodes) := by
  by_cases own : srcid = c.id
  · exact .inl (by rw [lookupRes, if_pos own])
  · cases here : c.lookupTable dstid with
    | none =>
      have here' : (c.update env.updateTime srcid (.serialize sockaddr) true).lookupTable dstid =
        none := here
      refine .inr (.inl ?_)
      rw [lookupRes, if_neg own]
      simp only [here']
    | some l =>
      obtain ⟨rfl, S⟩ := C.lookup _ _ here
      cases found : l.query (.serialize sockaddr) with
      | none =>
        have here' : (c.update env.updateTime srcid (.serialize sockaddr) true).lookupTable l.id =
          some l := here
        refine .inr (.inl ?_)
        rw [lookupRes, if_neg own]
        simp only [here', found]
      | some q =>
        exact .inr (.inr ⟨l, q, here, rfl, own, (S.query_mem found).1, found,
          lookupRes_eq random env sockaddr nodes own here found⟩)

/-- The lookup of an answered query is left without a source, possibly. -/
lemma answer_consistent {q : DhtQuery} (srcid : DhtId) (c' : DhtClient) (C : c.books.Consistent none)
    (here : c.lookupTable l.id = some l) (mem : q ∈ l.querySequence)
    (same : c'.books = c.books) :
    ((c'.queryDestroy q).putLookup (l.answer q srcid)).books.Consistent
      (some (l.answer q srcid).id) := by
  have removed : (c'.queryDestroy q).books =
      { c.books with sources := dropSource q.timeoutSource c.sources } := by
    have e := congrArg (fun b : Books => { b with sources := dropSource q.timeoutSource b.sources }) same
    refine Eq.trans ?_ e
    unfold queryDestroy dropSource
    split <;> rfl
  exact disarm_consistent C here mem ((C.lookup _ _ here).2.answer srcid mem) rfl removed

lemma lookupRes_consistent (C : c.books.Consistent none) (srcid dstid : DhtId)
    (nodes : List MsgNode) :
    (c.lookupRes random env sockaddr srcid dstid nodes).books.Consistent none := by
  rcases lookupRes_cases random env sockaddr C srcid dstid nodes with
    e | e | ⟨l, q, here, rfl, _, mem, _, e⟩
  · rw [e]
    exact C
  · rw [e]
    exact C
  · rw [e]
    exact lookupUpdate_consistent random _ (answer_consistent _ _ C here mem rfl)
      (Function.update_self _ _ _)

/-- A connection request is answered with a timeout. -/
lemma connectionReq_consistent (C : c.books.Consistent none) (pubkey nonce : DhtKey) :
    (c.connectionReq S random env sockaddr pubkey nonce).books.Consistent none := by
  unfold connectionReq
  dsimp only
  split
  · exact C
  · split
    · split
      · exact C
      · split
        · exact C
        · apply connectionReplace_consistent (c := (c.socketNew.2.makeRandom random).2.act _) C rfl
          simp
    · exact C

/-- A connection leaves the table after its source was removed. -/
lemma steal_consistent (C : c.books.Consistent idle) (here : c.connectionTable k.nonce = some k) :
    ((c.sourceRemove k.timeoutSource).connectionSteal k.nonce).books.Consistent idle := by
  have D := C.dropConnection here
  rw [dropSource, if_pos (Nat.pos_of_ne_zero (C.connection _ _ here).2.1)] at D
  exact D

/-- A connection response ends the timeout if the tag is right. -/
lemma connectionRes1_consistent (C : c.books.Consistent none)
    (pubkey nonce peerNonce authTag : DhtKey) :
    (c.connectionRes1 S env sockaddr pubkey nonce peerNonce authTag).books.Consistent none := by
  unfold connectionRes1
  dsimp only
  split
  · exact C
  · rename_i k here
    obtain ⟨rfl, _⟩ := C.connection _ _ here
    split
    · exact C
    · split
      · exact C
      · rename_i shared _
        -- the keys are written before the tag is checked
        generalize e : ({ k with
            encKey := some (DhtKey.derive S shared k.nonce nonce).1
            decKey := some (DhtKey.derive S shared nonce k.nonce).1
            authTag := some (DhtKey.derive S shared nonce k.nonce).2
            session := some ⟨pubkey, shared, k.nonce, nonce⟩ } : DhtConnection) = k'
        have id : k'.nonce = k.nonce := by rw [← e]
        have source : k'.timeoutSource = k.timeoutSource := by rw [← e]
        have C' := C.rekey k' here id source (by rw [← e]) (by rw [← e])
        generalize put : (c.act (.derive ⟨pubkey, shared, k.nonce, nonce⟩)).putConnection k' = c'
        have put_books : c'.books = { c.books with
            connectionTable := Function.update c.connectionTable k.nonce (some k') } := by
          rw [← put, ← id]
          rfl
        have here' : c'.connectionTable k'.nonce = some k' := by
          rw [← put]
          exact Function.update_self _ _ _
        have C' : c'.books.Consistent none := by
          rw [put_books]
          exact C'
        have D := steal_consistent C' here'
        rw [id, source] at D
        split
        · exact C'
        · split
          · exact C'
          · split
            · exact D
            · exact D

lemma connectionRes2_consistent (C : c.books.Consistent none) (peerNonce authTag : DhtKey) :
    (c.connectionRes2 sockaddr peerNonce authTag).books.Consistent none := by
  unfold connectionRes2
  dsimp only
  split
  · exact C
  · rename_i k here
    obtain ⟨rfl, _⟩ := C.connection _ _ here
    split
    · exact C
    · rw [connectionDestroy_books]
      split
      · exact C.dropConnection here
      · exact C.dropConnection here

lemma receive_consistent (C : c.books.Consistent none) (w : WordSize) (memory : Nat → UInt8)
    (len : Nat) : (c.receive S random env w memory len sockaddr).books.Consistent none := by
  unfold receive
  split
  · rename_i m _
    cases m with
    | lookupReq srcid dstid => exact lookupReq_consistent env sockaddr C srcid dstid
    | lookupRes srcid dstid nodes =>
      exact lookupRes_consistent random env sockaddr C srcid dstid nodes
    | connectionReq pubkey nonce =>
      exact connectionReq_consistent S random env sockaddr C pubkey nonce
    | connectionRes1 pubkey nonce peerNonce authTag =>
      exact connectionRes1_consistent S env sockaddr C pubkey nonce peerNonce authTag
    | connectionRes2 peerNonce authTag => exact connectionRes2_consistent sockaddr C peerNonce authTag
  · exact C

end Receive

/-! Timeouts. -/

/-- A query source that fires belongs to a query, which it arms. -/
lemma queryTimeout_eq (env : Env) {source i : Nat} {id : DhtId} (C : c.books.Consistent none)
    (e : c.sources source = some (.query id i)) : ∃ l q, c.lookupTable l.id = some l ∧
      q ∈ l.querySequence ∧ q.timeoutSource = source ∧ 0 < source ∧
      c.fire env source = ((((c.sourceRemove q.timeoutSource).act (.timedOut l.id q)).update
        env.updateTime (q.metric.xor l.id) q.addr false).putLookup (l.timeOut q)).lookupDispatch
          (l.timeOut q) := by
  have ne : source ≠ 0 := ((C.timers _ _).mp e).1
  have recorded := C.timers.recorded e
  cases here : c.lookupTable id with
  | none => simp [Books.timerOf, books, here, ne.symm] at recorded
  | some l =>
    obtain ⟨rfl, _⟩ := C.lookup _ _ here
    rw [Books.Consistent.timerOf_query here, DhtLookup.timer] at recorded
    cases eq : l.get i with
    | none => simp [eq, ne.symm] at recorded
    | some q =>
      rw [eq, Option.elim_some] at recorded
      subst recorded
      refine ⟨l, q, here, (DhtLookup.get_mem eq).1, rfl, Nat.pos_of_ne_zero ne, ?_⟩
      unfold fire
      simp only [e]
      unfold queryTimeout
      simp only [sourceRemove, here, eq]
      rfl

/-- The lookup of a query that timed out. -/
lemma timeOut_consistent (env : Env) {q : DhtQuery} (C : c.books.Consistent none)
    (here : c.lookupTable l.id = some l) (mem : q ∈ l.querySequence) (pos : 0 < q.timeoutSource) :
    ((((c.sourceRemove q.timeoutSource).act (.timedOut l.id q)).update env.updateTime
      (q.metric.xor l.id) q.addr false).putLookup (l.timeOut q)).books.Consistent
        (some (l.timeOut q).id) := by
  have removed : (((c.sourceRemove q.timeoutSource).act (.timedOut l.id q)).update
      env.updateTime (q.metric.xor l.id) q.addr false).books =
        { c.books with sources := dropSource q.timeoutSource c.sources } := by
    rw [dropSource, if_pos pos]
    rfl
  exact disarm_consistent C here mem ((C.lookup _ _ here).2.timeOut mem (Nat.ne_of_gt pos)) rfl removed

lemma fire_consistent (C : c.books.Consistent none) (env : Env) (source : Nat) :
    (c.fire env source).books.Consistent none := by
  cases e : c.sources source with
  | none =>
    rw [fire, e]
    exact C
  | some timer =>
    cases timer with
    | query id i =>
      obtain ⟨l, q, here, mem, rfl, pos, eq⟩ := queryTimeout_eq env C e
      rw [eq]
      exact lookupDispatch_consistent (timeOut_consistent env C here mem pos) (Function.update_self _ _ _)
    | connection nonce =>
      rw [fire, e]
      dsimp only
      have ne : source ≠ 0 := ((C.timers _ _).mp e).1
      have recorded := C.timers.recorded e
      cases here : c.connectionTable nonce with
      | none => simp [Books.timerOf, books, here, ne.symm] at recorded
      | some k =>
        obtain ⟨rfl, _⟩ := C.connection _ _ here
        simp only [Books.timerOf, books, here, Option.elim_some] at recorded
        subst recorded
        have D := steal_consistent C here
        unfold connectionTimeout
        simp only [sourceRemove, here]
        have removed : ∀ c' : DhtClient, (((c'.putConnection { k with
            result := none, timeoutSource := 0 }).connectionRemove k.nonce).books =
              (c'.connectionSteal k.nonce).books) := by
          intro c'
          rw [connectionRemove_books (k := { k with result := none, timeoutSource := 0 })
            (Function.update_self _ _ _)]
          simp [books, putConnection, connectionSteal, dropSource]
        rw [removed]
        split
        · exact D
        · exact D

/-! ## Runs -/

/-- The books are consistent after every event. -/
theorem step_consistent (S : Sodium) (w : WordSize) (random : Nat → DhtKey) (env : Env) (e : Event)
    (C : c.books.Consistent none) : (c.step S w random env e).books.Consistent none := by
  cases e with
  | lookupAsync id => exact lookupAsync_consistent random C _ id
  | bootstrap address => exact bootstrap_consistent random C address
  | setListen listen => exact C
  | refresh nbits drawn => exact refresh_consistent random C _ nbits drawn
  | receive memory len sockaddr => exact receive_consistent S random env sockaddr C w memory len
  | timeout source => exact fire_consistent C env source

/-- The books of every client in every run. -/
theorem run_consistent (S : Sodium) (w : WordSize) (random : Nat → DhtKey) (key : DhtKey)
    (events : List (Env × Event)) : (run S w random key events).books.Consistent none := by
  induction events using List.reverseRecOn with
  | nil => exact Books.Consistent.init
  | append_singleton events e ih =>
    rw [run_concat]
    exact step_consistent S w random e.1 e.2 ih

end DhtClient

end Nanotalk
