import Nanotalk.Dht.Retention

/-!
# The peers counter

`num_peers` is kept apart from the lists of the table. `Ledger` compares the two: every insertion and
every deletion moves both, and the counter is ahead by the number of nodes that splits have lost,
which is less than `DHT_NODE_COUNT` for each bucket, so that the counter never wraps around.

* `Buckets.update_ledger`: an update loses nodes exactly where it overflows the last bucket.
* `DhtTable.search_above`: a search never decrements a counter of zero.
* `DhtTable.peers_exact_iff`: the counter is exact in a run exactly where no update of it overflows.
-/

namespace Nanotalk
open Glib Glib.Heap

variable {own id : DhtId} {addr : DhtAddress} {now : Int} {T : Buckets} {t : DhtTable}

namespace DhtTable

/-- The values of the counter that the loop over the nodes of bucket `nbits` decrements. -/
def visitDecrements (now : Int) (nbits : Nat) :
    Nat → DhtTable → List MsgNode → Option Nat → List Nat
  | fuel + 1, t, nodes, some link =>
    match t.heap.cell link with
    | some c =>
      if Eligible now c.data then
        let nodes := nodes ++ [⟨c.data.id, c.data.addr⟩]
        if nodes.length = DHT_NODE_COUNT then [] else visitDecrements now nbits fuel t nodes c.next
      else
        let (data, h) := t.heap.deleteLink (t.data nbits) link
        t.numPeers :: visitDecrements now nbits fuel
          { t with
            heap := h
            buckets := t.buckets.set nbits data
            numPeers := guintDec t.numPeers }
          nodes c.next
    | none => []
  | _, _, _, _ => []

/-- The values of the counter that the loop over the buckets decrements. -/
def searchLoopDecrements (metric : DhtId) (now : Int) :
    Nat → DhtTable → List MsgNode → Nat → Bool → List Nat
  | 0, _, _, _, _ => []
  | fuel + 1, t, nodes, nbits, dir =>
    let here := if metric.bit nbits = dir then
      visitDecrements now nbits t.heap.fresh t nodes (t.data nbits) else []
    let (t, nodes, full) :=
      if metric.bit nbits = dir then visit now nbits t.heap.fresh t nodes (t.data nbits)
      else (t, nodes, false)
    here ++
      if full then []
      else if dir then
        if nbits + 1 < t.buckets.length then
          searchLoopDecrements metric now fuel t nodes (nbits + 1) true
        else searchLoopDecrements metric now fuel t nodes nbits false
      else
        match nbits with
        | 0 => []
        | n + 1 => searchLoopDecrements metric now fuel t nodes n false

lemma searchLoopDecrements_succ {metric : DhtId} {now : Int} {fuel nbits : Nat} {t : DhtTable}
    {nodes : List MsgNode} {dir : Bool} {r : DhtTable × List MsgNode × Bool}
    (er : r = if metric.bit nbits = dir then visit now nbits t.heap.fresh t nodes (t.data nbits)
      else (t, nodes, false)) :
    searchLoopDecrements metric now (fuel + 1) t nodes nbits dir =
      (if metric.bit nbits = dir then visitDecrements now nbits t.heap.fresh t nodes (t.data nbits)
        else []) ++
      match if r.2.2 then none else nextBucket r.1.buckets.length nbits dir with
      | none => []
      | some next => searchLoopDecrements metric now fuel r.1 r.2.1 next.1 next.2 := by
  rw [searchLoopDecrements, ← er]
  unfold nextBucket
  obtain ⟨t', nodes', full⟩ := r
  cases full with
  | true => rfl
  | false =>
    cases dir with
    | true =>
      simp only [Bool.false_eq_true, if_false, if_true]
      congr 1
      split <;> rfl
    | false => cases nbits <;> rfl

/-- The values of the counter that C `dht_client_search` decrements. -/
def searchDecrements (own : DhtId) (now : Int) (t : DhtTable) (id : DhtId) : List Nat :=
  searchLoopDecrements (own.xor id) now (2 * t.buckets.length) t [] 0 true

end DhtTable

/-- A counter above zero is decremented. -/
lemma guintDec_of_pos {n : Nat} (pos : 0 < n) (small : n < 2 ^ 32) : guintDec n + 1 = n := by
  unfold guintDec
  omega

/-! ## Counting nodes -/

namespace Buckets

variable {i k : Nat} {l : List DhtNode}

/-- The nodes of a table with a bucket replaced. -/
lemma nodes_length_set {n m : Nat} (lt : i < T.lists.length) :
    (Buckets.mk (T.lists.set i l) n m).nodes.length + (T.list i).length =
      T.nodes.length + l.length := by
  obtain ⟨lists, _, _⟩ := T
  simp only [nodes, list] at lt ⊢
  induction lists generalizing i with
  | nil => cases lt
  | cons b bs ih =>
    cases i with
    | zero =>
      simp only [List.set_cons_zero, List.flatten_cons, List.length_append, List.getD_cons_zero]
      omega
    | succ i =>
      have ih := ih (i := i) (Nat.lt_of_succ_lt_succ lt)
      simp only [List.set_cons_succ, List.flatten_cons, List.length_append, List.getD_cons_succ]
      omega

/-- A table has no more nodes than its buckets hold. -/
lemma nodes_length_le (S : Sorted own T) : T.nodes.length ≤ DHT_NODE_COUNT * T.lists.length := by
  have cap : ∀ b ∈ T.lists, b.length ≤ DHT_NODE_COUNT := by
    intro b hb
    obtain ⟨j, lt, rfl⟩ := List.getElem_of_mem hb
    have cap := S.cap j
    rwa [list, List.getD_eq_getElem _ _ lt] at cap
  rw [nodes]
  generalize T.lists = bs at cap
  induction bs with
  | nil => exact Nat.zero_le _
  | cons b bs ih =>
    have le := cap b List.mem_cons_self
    have ih := ih fun b hb => cap b (List.mem_cons_of_mem _ hb)
    rw [List.flatten_cons, List.length_append, List.length_cons, Nat.mul_succ]
    omega

/-- The nodes of a bucket stay or move. -/
lemma differ_same_length (own : DhtId) (i : Nat) (l : List DhtNode) :
    (differ own i l).length + (same own i l).length = l.length := by
  rw [differ, same, ← List.countP_eq_length_filter, ← List.countP_eq_length_filter,
    List.length_eq_countP_add_countP fun n : DhtNode => (n.id.xor own).bit i]
  congr 1
  exact List.countP_congr fun n _ => by simp

/-- A round of a split loses all but two of the nodes that move. -/
lemma nodes_length_round (own : DhtId) {n m : Nat} (e : i + 1 = T.lists.length) :
    (Buckets.mk (T.lists.set i (differ own i (T.list i)) ++
        [lastTwo (same own i (T.list i))]) n m).nodes.length + ((same own i (T.list i)).length - 2) =
      T.nodes.length := by
  have lt : i < T.lists.length := e ▸ Nat.lt_succ_self i
  have moved := differ_same_length own i (T.list i)
  have rest := nodes_length_set (n := n) (m := m) (l := differ own i (T.list i)) lt
  have two : (lastTwo (same own i (T.list i))).length =
      (same own i (T.list i)).length - ((same own i (T.list i)).length - 2) := List.length_drop
  simp only [nodes, List.flatten_append, List.flatten_singleton, List.length_append] at rest ⊢
  omega

/-- The counter is ahead of the lists by the `k` nodes that were lost. -/
structure Ledger (T : Buckets) (k : Nat) : Prop where
  count : T.numPeers = T.nodes.length + k
  lost : k + DHT_NODE_COUNT ≤ DHT_NODE_COUNT * T.lists.length
  short : T.lists.length ≤ 8 * DHT_ID_SIZE + 1

namespace Ledger

/-- The initial table. -/
lemma init : Ledger Buckets.init 0 := ⟨rfl, Nat.le_refl _, by decide⟩

/-- The counter does not wrap around. -/
lemma small (L : Ledger T k) (S : Sorted own T) : T.numPeers + 1 < 2 ^ 32 := by
  have le := nodes_length_le S
  obtain ⟨count, lost, short⟩ := L
  simp only [DHT_NODE_COUNT, DHT_ID_SIZE] at le lost short
  omega

/-- A bucket is replaced by as many nodes. -/
lemma set (L : Ledger T k) (lt : i < T.lists.length) (len : l.length = (T.list i).length) :
    Ledger { T with lists := T.lists.set i l } k := by
  have e := nodes_length_set (n := T.numBuckets) (m := T.numPeers) (l := l) lt
  obtain ⟨count, lost, short⟩ := L
  refine ⟨?_, by simpa using lost, by simpa using short⟩
  show T.numPeers = _ + k
  omega

end Ledger

/-- A round of a split. -/
abbrev round (own : DhtId) (T : Buckets) (i : Nat) : Buckets :=
  ⟨T.lists.set i (differ own i (T.list i)) ++ [lastTwo (same own i (T.list i))],
    guintInc T.numBuckets, T.numPeers⟩

/-- A round of the loop makes one bucket more. -/
lemma round_length : (round own T i).lists.length = T.lists.length + 1 := by simp

/-- Splitting a bucket of at most two nodes loses none. -/
lemma split_two (own : DhtId) (e : i + 1 = T.lists.length) (two : (T.list i).length ≤ 2) (fuel count : Nat) :
    (T.split own fuel i count).nodes.length = T.nodes.length ∧
    (T.split own fuel i count).numPeers = T.numPeers ∧
    T.lists.length ≤ (T.split own fuel i count).lists.length ∧
    (T.split own fuel i count).lists.length ≤ T.lists.length + 1 := by
  cases fuel with
  | zero => exact ⟨rfl, rfl, Nat.le_refl _, Nat.le_succ _⟩
  | succ fuel =>
    unfold split
    split
    · have le : (same own i (T.list i)).length ≤ 2 := List.filter_sublist.length_le.trans two
      have lost := nodes_length_round own (n := guintInc T.numBuckets) (m := T.numPeers) e
      rw [split_idle fun h => absurd (h.1 ▸ le) (by decide), round_length]
      exact ⟨by omega, rfl, Nat.le_succ _, Nat.le_refl _⟩
    · exact ⟨rfl, rfl, Nat.le_refl _, Nat.le_succ _⟩

/-- The loop `Split buckets` loses nodes exactly where a full last bucket has more than two to
    move. -/
lemma split_ledger {count : Nat} (S : Sorted own T) (L : Ledger T k) (lt : i < T.lists.length)
    (full : (T.list i).length = count) (fuel : Nat) :
    ∃ k', Ledger (T.split own (fuel + 1) i count) k' ∧
      (k' = k ↔ ¬ (count = DHT_NODE_COUNT ∧ i + 1 = T.lists.length ∧
        3 ≤ (same own i (T.list i)).length)) := by
  by_cases go : count = DHT_NODE_COUNT ∧ ¬ i + 1 < T.lists.length
  · have e : i + 1 = T.lists.length := by omega
    have deep := S.full_shallow lt (full.trans go.1)
    have lost : (round own T i).nodes.length + ((same own i (T.list i)).length - 2) =
      T.nodes.length := nodes_length_round own e
    have le : (same own i (T.list i)).length ≤ DHT_NODE_COUNT :=
      List.filter_sublist.length_le.trans (S.cap i)
    refine ⟨k + ((same own i (T.list i)).length - 2), ?_, by omega⟩
    -- the new bucket holds at most two nodes, so that the next round loses none
    have two : ((round own T i).list (i + 1)).length ≤ 2 := by
      rw [list_split e, if_neg (by omega), if_pos rfl]
      exact lastTwo_length_le
    obtain ⟨nodes, peers, grow, short⟩ := split_two own (T := round own T i) (i := i + 1)
      (by rw [round_length, e]) two fuel (same own i (T.list i)).length
    have peers : _ = T.numPeers := peers
    rw [round_length] at grow short
    unfold split
    rw [if_pos go]
    show Ledger ((round own T i).split own fuel (i + 1) (same own i (T.list i)).length) _
    refine ⟨?_, ?_, ?_⟩
    · have count := L.count
      rw [peers, nodes]
      omega
    · have bound := L.lost
      simp only [DHT_NODE_COUNT] at bound le ⊢
      omega
    · omega
  · exact ⟨k, by rwa [split_idle go], by omega⟩

/-- A new node is counted. -/
lemma Ledger.inserted (L : Ledger T k) (V : Valid own T) (now : Int) (id : DhtId) (addr : DhtAddress) :
    Ledger (inserted own now T id addr) k := by
  obtain ⟨lt, _⟩ := place_index own id V.pos
  have e : (Buckets.inserted own now T id addr).nodes.length + (T.list (T.index own id)).length =
    T.nodes.length + ((T.list (T.index own id)).length + 1) := nodes_length_set lt
  have small := L.small V.toSorted
  obtain ⟨count, lost, short⟩ := L
  refine ⟨?_, by simpa using lost, by simpa using short⟩
  show guintInc T.numPeers = _ + k
  rw [guintInc, Nat.mod_eq_of_lt small]
  omega

/-- An update keeps the ledger, and loses nodes exactly where it overflows the last bucket. -/
lemma update_ledger (V : Valid own T) (L : Ledger T k) (now : Int) (id : DhtId) (addr : DhtAddress)
    (isAlive : Bool) : ∃ k', Ledger (T.update own now id addr isAlive) k' ∧
      (k' = k ↔ ¬ Overflows own id isAlive T.lists.length (T.index own id) (T.list (T.index own id))
        T.nodes) := by
  obtain ⟨lt, _⟩ := place_index own id V.pos
  by_cases present : id ∈ T.nodes.map DhtNode.id
  · refine ⟨k, ?_, iff_of_true rfl fun ov => ov.2.1 present⟩
    unfold Buckets.update
    dsimp only
    rw [if_pos ((any_iff V).mpr present)]
    have len := congrArg List.length (modifyFirst_ids (p := fun n => decide (n.id = id))
      (touch_id now addr isAlive) (T.list (T.index own id)))
    rw [List.length_map, List.length_map] at len
    exact L.set lt len
  · have miss : ¬ (T.list (T.index own id)).any (·.id = id) = true :=
      fun h => present ((any_iff V).mp h)
    cases isAlive with
    | false =>
      refine ⟨k, ?_, iff_of_true rfl fun ov => Bool.noConfusion ov.1⟩
      unfold Buckets.update
      dsimp only
      rw [if_neg miss]
      exact L
    | true =>
      rcases Nat.lt_or_ge (T.list (T.index own id)).length DHT_NODE_COUNT with room | full
      · -- the new node is inserted
        obtain ⟨S, el, _⟩ := inserted_sorted now addr V present room
        have L' := L.inserted V now id addr
        rw [update_insert present V room]
        obtain ⟨k', L', iff⟩ := split_ledger S L' (i := T.index own id) (by simpa using lt)
          (congrArg List.length el) (8 * DHT_ID_SIZE - 1)
        refine ⟨k', L', iff.trans (not_congr ?_)⟩
        rw [el, same_length, List.length_set]
        constructor
        · intro h
          exact ⟨rfl, present, h.2.1, h.1, h.2.2⟩
        · intro h
          exact ⟨h.2.2.2.1, h.2.2.1, h.2.2.2.2⟩
      · -- a dead node is overwritten, or none
        have full := Nat.le_antisymm (V.cap _) full
        refine ⟨k, ?_, iff_of_true rfl fun ov => ?_⟩
        · unfold Buckets.update
          dsimp only
          rw [if_neg miss, if_neg (by simp), if_pos full]
          refine L.set lt ?_
          rcases replaceDead_cases ⟨id, addr, now, true⟩ (T.list (T.index own id)) with
            ⟨_, er⟩ | ⟨as, x, bs, el, _, er⟩
          · rw [er]
          · rw [er, el, List.length_append, List.length_append, List.length_cons, List.length_cons]
        · have sixteen := ov.2.2.2.1
          omega

/-! ## Searching -/

/-- The loop over the nodes of a bucket counts what it deletes. -/
lemma visitList_count (now : Int) {numPeers : Nat} (entries : List MsgNode) (enough : l.length ≤ numPeers)
    (small : numPeers < 2 ^ 32) : (visitList now numPeers entries l).2.1 + l.length =
      numPeers + (visitList now numPeers entries l).1.length := by
  induction l generalizing numPeers entries with
  | nil => rfl
  | cons n l ih =>
    rw [List.length_cons] at enough
    unfold visitList
    split
    · dsimp only
      split
      · rfl
      · have ih := ih (entries ++ [⟨n.id, n.addr⟩]) (Nat.le_of_succ_le enough) small
        show (visitList now numPeers (entries ++ [⟨n.id, n.addr⟩]) l).2.1 + (l.length + 1) =
          numPeers + ((visitList now numPeers (entries ++ [⟨n.id, n.addr⟩]) l).1.length + 1)
        omega
    · have dec := guintDec_of_pos (Nat.lt_of_lt_of_le (Nat.succ_pos _) enough) small
      have enough : l.length ≤ guintDec numPeers := by omega
      have ih := ih entries enough (by omega)
      rw [List.length_cons]
      omega

/-- A bucket has no more nodes than the counter. -/
lemma Ledger.list_le (L : Ledger T k) (lt : i < T.lists.length) :
    (T.list i).length ≤ T.numPeers := by
  have whole := nodes_length_set (n := T.numBuckets) (m := T.numPeers) (l := []) lt
  have count := L.count
  rw [List.length_nil] at whole
  omega

/-- Visiting a bucket keeps the ledger. -/
lemma Ledger.visit (L : Ledger T k) (now : Int) (S : Sorted own T) (lt : i < T.lists.length)
    (entries : List MsgNode) : Ledger (T.visit now i entries).1 k := by
  have small := L.small S
  have counted := visitList_count now entries (L.list_le lt) (by omega)
  have e : (T.visit now i entries).1.nodes.length + (T.list i).length = T.nodes.length +
    (visitList now T.numPeers entries (T.list i)).1.length := nodes_length_set lt
  obtain ⟨count, lost, short⟩ := L
  refine ⟨?_, by simpa [Buckets.visit] using lost, by simpa [Buckets.visit] using short⟩
  show (visitList now T.numPeers entries (T.list i)).2.1 = _ + k
  omega

end Buckets

/-- The loop over the nodes of a bucket, of which `bs` are left, never decrements zero. -/
lemma Cut.visitDecrements (as : List (Nat × DhtNode)) {bs : List (Nat × DhtNode)} {i fuel : Nat}
    {P Q : List (Option Nat)} {p : Option Nat} {A B : List (List (Nat × DhtNode))}
    {nodes : List MsgNode} (C : Cut t T i P p Q A (as ++ bs) B) (enough : bs.length ≤ t.numPeers)
    (small : t.numPeers < 2 ^ 32) :
    ∀ n ∈ t.visitDecrements now i fuel nodes (Heap.first bs none), 0 < n := by
  induction bs generalizing t T fuel nodes as p with
  | nil =>
    have e : DhtTable.visitDecrements now i fuel t nodes none = [] := by cases fuel <;> rfl
    rw [first_nil, e]
    exact List.forall_mem_nil _
  | cons c bs ih =>
    obtain ⟨a, x⟩ := c
    cases fuel with
    | zero => exact List.forall_mem_nil _
    | succ fuel =>
      obtain ⟨ch, _⟩ := C.forest.focus C.len
      obtain ⟨pr, hc⟩ := ch.cell
      rw [List.length_cons] at enough
      simp only [first_cons, DhtTable.visitDecrements, hc]
      split
      · split
        · exact List.forall_mem_nil _
        · exact ih (as ++ [(a, x)]) (by simpa using C) (Nat.le_of_succ_le enough) small
      · have pos := Nat.lt_of_lt_of_le (Nat.succ_pos _) enough
        have dec := guintDec_of_pos pos small
        have C' := C.write (n := guintDec t.numPeers) (C.forest.deleteLink C.len)
        rw [← C.data] at C'
        refine List.forall_mem_cons.mpr ⟨pos, ih as C' ?_ ?_⟩
        · show bs.length ≤ guintDec t.numPeers
          omega
        · show guintDec t.numPeers < 2 ^ 32
          omega

open Buckets

/-- The loop over the buckets keeps the ledger and never decrements zero. -/
lemma Buckets.Ledger.searchLoop {metric : DhtId} {fuel nbits k : Nat} {nodes : List MsgNode}
    {dir : Bool} (L : Ledger T k) (V : Valid own T) (R : Repr t T) (lt : nbits < T.lists.length) :
    Ledger (T.searchLoop metric now fuel nodes nbits dir).1 k ∧
    ∀ n ∈ t.searchLoopDecrements metric now fuel nodes nbits dir, 0 < n := by
  induction fuel generalizing t T nodes nbits dir with
  | zero => exact ⟨L, List.forall_mem_nil _⟩
  | succ fuel ih =>
    -- the bucket, visited or passed over
    obtain ⟨⟨t', nodes', full⟩, er⟩ : ∃ r, r = if metric.bit nbits = dir then
      t.visit now nbits t.heap.fresh nodes (t.data nbits) else (t, nodes, false) := ⟨_, rfl⟩
    obtain ⟨⟨T', v⟩, eV⟩ : ∃ V, V = if metric.bit nbits = dir then
      T.visit now nbits nodes else (T, nodes, false) := ⟨_, rfl⟩
    have here : Ledger T' k ∧ Valid own T' ∧ Repr t' T' ∧ (nodes', full) = v ∧
        T'.lists.length = T.lists.length ∧
        ∀ n ∈ (if metric.bit nbits = dir then
          t.visitDecrements now nbits t.heap.fresh nodes (t.data nbits) else []), 0 < n := by
      have lt' : nbits < t.buckets.length := R.length ▸ lt
      split at er
      · rename_i on
        rw [if_pos on] at eV
        obtain ⟨R', e, _⟩ := R.visit lt' now nodes
        have L' := L.visit now V.toSorted lt nodes
        have V' := V.visit now lt nodes
        have len : (T.visit now nbits nodes).1.lists.length = T.lists.length := List.length_set
        rw [← er, ← eV] at R' e
        rw [← eV] at L' V' len
        refine ⟨L', V', R', e, len, ?_⟩
        rw [if_pos on]
        obtain ⟨P, p, Q, A, l, B, C⟩ := R.cut lt'
        obtain ⟨ep, _⟩ := C.seg
        have enough := L.list_le lt
        have small := L.small V.toSorted
        rw [C.list, List.length_map] at enough
        rw [C.data, ep]
        exact Cut.visitDecrements [] C (C.numPeers ▸ enough) (by rw [C.numPeers]; omega)
      · rename_i off
        rw [if_neg off] at eV
        cases er
        cases eV
        exact ⟨L, V, R, rfl, rfl, by rw [if_neg off]; exact List.forall_mem_nil _⟩
    obtain ⟨L', V', R', rfl, len, above⟩ := here
    rw [Buckets.searchLoop_succ eV, DhtTable.searchLoopDecrements_succ er, ← R'.length,
      List.forall_mem_append]
    cases en : if full then none else DhtTable.nextBucket T'.lists.length nbits dir with
    | none => exact ⟨L', above, List.forall_mem_nil _⟩
    | some next =>
      obtain ⟨-, en⟩ := Option.ite_none_left_eq_some.mp en
      obtain ⟨L'', rest⟩ := ih L' V' R' (DhtTable.nextBucket_lt (len ▸ lt) en)
      exact ⟨L'', above, rest⟩

namespace DhtTable

/-- What an update of a reachable table does to its ledger. -/
lemma ledger_update (own : DhtId) {calls : List TableCall} {k : Nat}
    (L : Ledger (Buckets.run own calls) k) (now : Int) (id : DhtId) (addr : DhtAddress)
    (isAlive : Bool) :
    ∃ k', Ledger (Buckets.run own (calls ++ [.update now id addr isAlive])) k' ∧
      (k' = k ↔ ¬ Overflows own id isAlive (run own calls).buckets.length
        (bucketIndex (own.xor id) 0 (run own calls).buckets)
        ((run own calls).bucket (bucketIndex (own.xor id) 0 (run own calls).buckets))
        (run own calls).nodes) := by
  have V := Buckets.valid_run own calls
  have R := repr_run own calls
  rw [R.index, R.bucket, R.nodes, ← R.length, Buckets.run, List.foldl_append]
  exact update_ledger V L now id addr isAlive

/-- A search of a reachable table keeps its ledger. -/
lemma ledger_search (own : DhtId) {calls : List TableCall} {k : Nat}
    (L : Ledger (Buckets.run own calls) k) (now : Int) (id : DhtId) :
    Ledger (Buckets.run own (calls ++ [.search now id])) k := by
  have V := Buckets.valid_run own calls
  rw [Buckets.run, List.foldl_append]
  exact (L.searchLoop V (repr_run own calls) V.pos).1

/-- Every reachable table has a ledger. -/
lemma ledger_run (own : DhtId) (calls : List TableCall) : ∃ k, Ledger (Buckets.run own calls) k := by
  induction calls using List.reverseRecOn with
  | nil => exact ⟨0, .init⟩
  | append_singleton calls call ih =>
    obtain ⟨k, L⟩ := ih
    cases call with
    | update now id addr isAlive =>
      obtain ⟨k', L', _⟩ := ledger_update own L now id addr isAlive
      exact ⟨k', L'⟩
    | search now id => exact ⟨k, ledger_search own L now id⟩

/-- The counter is exact where the ledger has no lost nodes. -/
lemma peers_exact {calls : List TableCall} {k : Nat} (L : Ledger (Buckets.run own calls) k) :
    (run own calls).numPeers = (run own calls).nodes.length ↔ k = 0 := by
  have R := repr_run own calls
  have count := L.count
  rw [R.numPeers, R.nodes]
  omega

/-- No search of a reachable table decrements zero. -/
lemma search_above (own : DhtId) (calls : List TableCall) (now : Int) (id : DhtId) :
    ∀ n ∈ (run own calls).searchDecrements own now id, 0 < n := by
  obtain ⟨k, L⟩ := ledger_run own calls
  have V := Buckets.valid_run own calls
  exact (L.searchLoop V (repr_run own calls) V.pos).2

/-- Without an overflow no node is lost. -/
lemma ledger_calm (own : DhtId) {calls : List TableCall}
    (calm : ∀ i now id addr isAlive, calls[i]? = some (.update now id addr isAlive) →
      ¬ Overflows own id isAlive (run own (calls.take i)).buckets.length
        (bucketIndex (own.xor id) 0 (run own (calls.take i)).buckets)
        ((run own (calls.take i)).bucket
          (bucketIndex (own.xor id) 0 (run own (calls.take i)).buckets))
        (run own (calls.take i)).nodes)
    {i : Nat} (le : i ≤ calls.length) : Ledger (Buckets.run own (calls.take i)) 0 := by
  induction i with
  | zero => exact .init
  | succ i ih =>
    have L := ih (Nat.le_of_succ_le le)
    have e := List.getElem?_eq_getElem (l := calls) (i := i) le
    rw [List.take_add_one, e, Option.toList_some]
    cases call : calls[i] with
    | update now id addr isAlive =>
      rw [call] at e
      obtain ⟨k', L', iff⟩ := ledger_update own L now id addr isAlive
      exact iff.mpr (calm i now id addr isAlive e) ▸ L'
    | search now id => exact ledger_search own L now id

/-- In every run the counter equals the number of nodes in the lists in every state and is never
    decremented below zero, exactly where no update of the run overflows the last bucket. -/
theorem peers_exact_iff (own : DhtId) (calls : List TableCall) :
    ((∀ i ≤ calls.length,
        (run own (calls.take i)).numPeers = (run own (calls.take i)).nodes.length) ∧
      ∀ i now id, calls[i]? = some (.search now id) →
        ∀ n ∈ (run own (calls.take i)).searchDecrements own now id, 0 < n) ↔
    ∀ i now id addr isAlive, calls[i]? = some (.update now id addr isAlive) →
      ¬ Overflows own id isAlive (run own (calls.take i)).buckets.length
        (bucketIndex (own.xor id) 0 (run own (calls.take i)).buckets)
        ((run own (calls.take i)).bucket
          (bucketIndex (own.xor id) 0 (run own (calls.take i)).buckets))
        (run own (calls.take i)).nodes := by
  constructor
  · rintro ⟨exact_at, _⟩ i now id addr isAlive e
    have lt : i < calls.length := (List.getElem?_eq_some_iff.mp e).1
    obtain ⟨k, L⟩ := ledger_run own (calls.take i)
    obtain ⟨k', L', iff⟩ := ledger_update own L now id addr isAlive
    have take : calls.take i ++ [.update now id addr isAlive] = calls.take (i + 1) := by
      rw [List.take_add_one, e, Option.toList_some]
    rw [take] at L'
    exact iff.mp (((peers_exact L').mp (exact_at _ lt)).trans
      ((peers_exact L).mp (exact_at _ (Nat.le_of_lt lt))).symm)
  · intro calm
    refine ⟨fun i le => ?_, fun i now id _ => search_above own _ now id⟩
    exact (peers_exact (ledger_calm own calm le)).mpr rfl

/-- After the sixteenth report the counter says sixteen, and two nodes are left. -/
theorem sixteenth_report_miscounts :
    (run (leadingId 0) (reports 16)).numPeers = 16 ∧
      (run (leadingId 0) (reports 16)).nodes.length = 2 ∧
      (run (leadingId 0) (reports 16)).numPeers ≠ (run (leadingId 0) (reports 16)).nodes.length := by
  decide +kernel

end DhtTable

end Nanotalk
