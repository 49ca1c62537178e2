import Nanotalk.Dht.PeerCount
import Nanotalk.Dht.Bounds

/-!
# The nodes that a search finds

C `dht_client_search` goes over the buckets twice, up and then down, and each time takes those that
the bits of the metric tell it to. So it visits every bucket once, in the order of their distance from
the target (`route`), and stops after sixteen nodes.

* `Buckets.search_entries`: what is found, as a list over the buckets of `route`.
* `route_lt`: of two buckets, the one with the ids closer to the target comes first.
* `DhtTable.search_nearest`: what a search of a reachable table finds, and what it does to the table.
-/

namespace Nanotalk
open Glib
open DhtTable (Eligible)

/-- The distance of two ids, a number with 160 binary digits. -/
def DhtId.distance (a b : DhtId) : Nat := (a.xor b).data.number (8 * DHT_ID_SIZE)

/-- C `dht_id_compare` orders metrics by the distance. -/
lemma DhtId.distance_lt_iff {a b id : DhtId} : a.distance id < b.distance id ↔ a.xor id < b.xor id :=
  Bytes.toList_lt_iff.symm

/-- What is written to `nodes` for a node. -/
def DhtNode.entry (n : DhtNode) : MsgNode := ⟨n.id, n.addr⟩

/-! ## The order of the buckets -/

/-- The buckets that are visited on the way up, from bucket `i` on. -/
def ascent (metric : DhtId) (i len : Nat) : List Nat :=
  (List.range' i len).filter fun j => metric.bit j

/-- The buckets that are visited on the way down, below bucket `i`. -/
def descent (metric : DhtId) (i : Nat) : List Nat :=
  ((List.range i).filter fun j => !metric.bit j).reverse

/-- The order in which C `dht_client_search` visits the buckets. -/
def route (metric : DhtId) (len : Nat) : List Nat := ascent metric 0 len ++ descent metric len

section Route

variable {metric own id : DhtId} {i j len : Nat}

lemma ascent_succ (metric : DhtId) (i len : Nat) :
    ascent metric i (len + 1) = (if metric.bit i then [i] else []) ++ ascent metric (i + 1) len := by
  rw [ascent, List.range'_succ, List.filter_cons]
  split <;> rfl

lemma descent_succ (metric : DhtId) (i : Nat) :
    descent metric (i + 1) = (if metric.bit i then [] else [i]) ++ descent metric i := by
  rw [descent, List.range_succ, List.filter_append, List.reverse_append]
  cases e : metric.bit i <;> simp [descent, e]

/-- The buckets that are ahead of the loop at bucket `i` of `len`. -/
def ahead (metric : DhtId) (len i : Nat) : Bool → List Nat
  | true => ascent metric i (len - i) ++ descent metric len
  | false => descent metric (i + 1)

/-- The bucket the loop is at comes first, if it is visited. -/
lemma ahead_next (metric : DhtId) (dir : Bool) (lt : i < len) : ahead metric len i dir =
    (if metric.bit i = dir then [i] else []) ++
      (DhtTable.nextBucket len i dir).elim [] fun next => ahead metric len next.1 next.2 := by
  unfold DhtTable.nextBucket
  cases dir with
  | true =>
    rw [if_pos rfl, ahead]
    by_cases more : i + 1 < len
    · have e : len - i = (len - (i + 1)) + 1 := by omega
      rw [if_pos more, e, ascent_succ, List.append_assoc]
      rfl
    · have e : len - i = 0 + 1 := by omega
      have last : i + 1 = len := by omega
      rw [if_neg more, e, ascent_succ, List.append_assoc, ← last]
      rfl
  | false =>
    rw [if_neg Bool.false_ne_true, ahead, descent_succ]
    cases i <;> cases metric.bit _ <;> rfl

/-- The rounds of the loop that are left. -/
def roundsLeft (len i : Nat) (dir : Bool) : Nat := if dir then 2 * len - i else i + 1

lemma roundsLeft_next {dir : Bool} {next : Nat × Bool} (lt : i < len)
    (e : DhtTable.nextBucket len i dir = some next) :
    roundsLeft len next.1 next.2 < roundsLeft len i dir := by
  unfold DhtTable.nextBucket at e
  unfold roundsLeft
  split at e
  · split at e
    · cases e
      rw [if_pos rfl, if_pos (by assumption)]
      omega
    · cases e
      rw [if_neg Bool.false_ne_true, if_pos (by assumption)]
      omega
  · split at e
    · cases e
    · cases e
      rw [if_neg Bool.false_ne_true, if_neg (by assumption)]
      exact Nat.lt_succ_self _

/-- Every bucket is visited once. -/
lemma route_perm (metric : DhtId) (len : Nat) : (route metric len).Perm (List.range len) := by
  have down : (descent metric len).Perm ((List.range len).filter fun j => !metric.bit j) :=
    List.reverse_perm _
  rw [route, ascent, ← List.range_eq_range']
  exact (down.append_left _).trans (List.filter_append_perm _ _)

/-- Of two buckets, the first one is visited first if its bit of the metric is set, and last
    otherwise. -/
lemma route_pair (metric : DhtId) (ij : i < j) (lt : j < len) :
    (if metric.bit i then [i, j] else [j, i]).Sublist (route metric len) := by
  have both : [i, j].Sublist (List.range len) := by
    obtain ⟨k, rfl⟩ := Nat.exists_eq_add_of_lt lt
    rw [Nat.add_assoc, List.range_add, ← List.singleton_append]
    refine (List.singleton_sublist.mpr (List.mem_range.mpr ij)).append ?_
    refine List.singleton_sublist.mpr (List.mem_map.mpr ⟨0, List.mem_range.mpr ?_, rfl⟩)
    exact Nat.succ_pos k
  have up : ∀ k < len, metric.bit k = true → [k].Sublist (ascent metric 0 len) := by
    intro k lt set
    rw [ascent, ← List.range_eq_range']
    exact List.singleton_sublist.mpr (List.mem_filter.mpr ⟨List.mem_range.mpr lt, set⟩)
  have down : ∀ k < len, metric.bit k = false → [k].Sublist (descent metric len) := by
    intro k lt unset
    refine List.singleton_sublist.mpr (List.mem_reverse.mpr ?_)
    exact List.mem_filter.mpr ⟨List.mem_range.mpr lt, by rw [unset]; rfl⟩
  cases ei : metric.bit i with
  | true =>
    cases ej : metric.bit j with
    | true =>
      have found := both.filter fun k => metric.bit k
      rw [List.filter_cons_of_pos ei, List.filter_cons_of_pos ej, List.filter_nil,
        List.range_eq_range'] at found
      exact found.trans (List.sublist_append_left _ _)
    | false => exact (up i (ij.trans lt) ei).append (down j lt ej)
  | false =>
    cases ej : metric.bit j with
    | true => exact (up j lt ej).append (down i (ij.trans lt) ei)
    | false =>
      have found := (both.filter fun k => !metric.bit k).reverse
      rw [List.filter_cons_of_pos (by simp [ei]), List.filter_cons_of_pos (by simp [ej]),
        List.filter_nil] at found
      exact found.trans (List.sublist_append_right _ _)

/-- The first bit where one of two ids differs from the own id says which one is closer. -/
lemma distance_lt (id : DhtId) {a b : DhtId} (ha : Place own len i a) (hb : Place own len j b) (ij : i < j)
    (lt : j < len) (small : i < 8 * DHT_ID_SIZE) :
    if (own.xor id).bit i then a.distance id < b.distance id else b.distance id < a.distance id := by
  have agree : Bytes.Agree i (a.xor id).data (b.xor id).data := by
    intro k ki
    have ea : a.bit k = own.bit k := ha.1 k ki
    have eb : b.bit k = own.bit k := hb.1 k (ki.trans ij)
    show (a.xor id).bit k = (b.xor id).bit k
    rw [DhtId.bit_xor, DhtId.bit_xor, ea, eb]
  have bit_a : (a.xor id).bit i = !(own.xor id).bit i := by
    rw [DhtId.bit_xor, DhtId.bit_xor, Bool.eq_not_of_ne (ha.2 (Nat.lt_of_le_of_lt ij lt)), Bool.not_xor]
  have bit_b : (b.xor id).bit i = (own.xor id).bit i := by
    rw [DhtId.bit_xor, DhtId.bit_xor, show b.bit i = own.bit i from hb.1 i ij]
  cases e : (own.xor id).bit i with
  | true =>
    rw [e] at bit_a bit_b
    exact agree.number_lt small bit_a bit_b
  | false =>
    rw [e] at bit_a bit_b
    exact agree.symm.number_lt small bit_b bit_a

/-- Of two ids in different buckets, the closer one is in the bucket that is visited first. -/
lemma route_lt {a b : DhtId} (ha : Place own len i a) (hb : Place own len j b) (ne : i ≠ j)
    (lti : i < len) (ltj : j < len) (le : len ≤ 8 * DHT_ID_SIZE)
    (closer : a.distance id < b.distance id) : [i, j].Sublist (route (own.xor id) len) := by
  rcases Nat.lt_or_gt_of_ne ne with ij | ji
  · have first := route_pair (own.xor id) ij ltj
    have far := distance_lt id ha hb ij ltj (by omega)
    cases e : (own.xor id).bit i with
    | true => rwa [e] at first
    | false =>
      rw [e] at far
      exact absurd closer far.not_gt
  · have first := route_pair (own.xor id) ji lti
    have far := distance_lt id hb ha ji lti (by omega)
    cases e : (own.xor id).bit j with
    | true =>
      rw [e] at far
      exact absurd closer far.not_gt
    | false => rwa [e] at first

/-- The bucket of the target is visited first. -/
lemma route_target (place : Place own len i id) (lt : i < len) :
    ∃ rest, route (own.xor id) len = i :: rest := by
  have before : ∀ k < i, (own.xor id).bit k = false := by
    intro k ki
    rw [DhtId.bit_xor, show id.bit k = own.bit k from place.1 k ki, Bool.xor_self]
  obtain ⟨k, rfl⟩ := Nat.exists_eq_add_of_lt lt
  have skip : (List.range' 0 i).filter (fun j => (own.xor id).bit j) = [] := by
    rw [List.filter_eq_nil_iff]
    intro j hj
    rw [before j (by simpa using hj)]
    exact Bool.false_ne_true
  have up : ascent (own.xor id) 0 (i + k + 1) = ascent (own.xor id) i (k + 1) := by
    rw [ascent, Nat.add_assoc, ← List.range'_append_1, List.filter_append, skip, Nat.zero_add]
    rfl
  rw [route, up, ascent_succ]
  cases e : (own.xor id).bit i with
  | true => exact ⟨_, rfl⟩
  | false =>
    have last : k = 0 := by
      by_contra more
      have differ := place.2 (by omega)
      rw [DhtId.bit_xor] at e
      exact differ (bne_eq_false_iff_eq.mp e).symm
    subst last
    rw [Nat.add_zero, descent_succ, e]
    exact ⟨_, rfl⟩

end Route

/-! ## What is found -/

/-- The eligible nodes of a list. -/
def eligible (now : Int) (l : List DhtNode) : List DhtNode := l.filter fun n => Eligible now n

/-- What is found in a bucket. -/
def found (now : Int) (l : List DhtNode) : List MsgNode := (eligible now l).map DhtNode.entry

section Found

variable {now : Int} {n : DhtNode} {l : List DhtNode}

lemma eligible_cons (here : Eligible now n) : eligible now (n :: l) = n :: eligible now l :=
  List.filter_cons_of_pos (decide_eq_true here)

lemma eligible_skip (gone : ¬ Eligible now n) : eligible now (n :: l) = eligible now l :=
  List.filter_cons_of_neg (by simpa using gone)

lemma mem_eligible : n ∈ eligible now l ↔ n ∈ l ∧ Eligible now n := by
  rw [eligible, List.mem_filter, decide_eq_true_eq]

lemma mem_found (hn : n ∈ l) (here : Eligible now n) : n.entry ∈ found now l :=
  List.mem_map_of_mem (mem_eligible.mpr ⟨hn, here⟩)

end Found

namespace Buckets

variable {own id metric : DhtId} {now : Int} {T : Buckets} {nbits : Nat}

/-- The loop over the nodes of a bucket deletes none that is eligible. -/
lemma visitList_eligible (now : Int) (numPeers : Nat) (nodes : List MsgNode) (l : List DhtNode) :
    eligible now (visitList now numPeers nodes l).1 = eligible now l := by
  induction l generalizing numPeers nodes with
  | nil => rfl
  | cons n l ih =>
    unfold visitList
    split
    · rename_i here
      dsimp only
      split
      · rfl
      · show eligible now (n :: (visitList now numPeers (nodes ++ [n.entry]) l).1) = _
        rw [eligible_cons here, eligible_cons here, ih]
    · rename_i gone
      rw [eligible_skip gone, ih]

/-- It writes the eligible ones, up to the sixteenth. -/
lemma visitList_entries (now : Int) (numPeers : Nat) {nodes : List MsgNode} (l : List DhtNode)
    (room : nodes.length < DHT_NODE_COUNT) :
    (visitList now numPeers nodes l).2.2 = ((nodes ++ found now l).take DHT_NODE_COUNT,
      decide (DHT_NODE_COUNT ≤ (nodes ++ found now l).length)) := by
  induction l generalizing numPeers nodes with
  | nil =>
    have all : nodes ++ found now [] = nodes := List.append_nil nodes
    rw [all, List.take_of_length_le room.le, decide_eq_false (Nat.not_le.mpr room)]
    rfl
  | cons n l ih =>
    unfold visitList
    split
    · rename_i here
      have more : nodes ++ found now (n :: l) = (nodes ++ [n.entry]) ++ found now l := by
        rw [found, eligible_cons here, List.append_assoc]
        rfl
      rw [more]
      dsimp only
      split
      · rename_i full
        have full : (nodes ++ [n.entry]).length = DHT_NODE_COUNT := full
        rw [List.take_append_of_le_length full.ge, List.take_of_length_le full.le, List.length_append,
          full, decide_eq_true (Nat.le_add_right _ _)]
        rfl
      · rename_i notFull
        refine ih numPeers ?_
        simp only [List.length_append, List.length_singleton] at notFull ⊢
        omega
    · rename_i gone
      rw [found, eligible_skip gone]
      exact ih _ room

/-- A visit changes no bucket as far as the eligible nodes go. -/
lemma eligible_visit (now : Int) (lt : nbits < T.lists.length) (nodes : List MsgNode) (i : Nat) :
    eligible now ((T.visit now nbits nodes).1.list i) = eligible now (T.list i) := by
  unfold Buckets.visit
  dsimp only
  rw [list_set lt]
  split
  · rename_i here
    rw [visitList_eligible, here]
  · rfl

/-- What the loop finds at the bucket where it is. -/
def here (metric : DhtId) (now : Int) (T : Buckets) (nbits : Nat) (dir : Bool) : List MsgNode :=
  (if metric.bit nbits = dir then [nbits] else []).flatMap fun i => found now (T.list i)

/-- A round of the loop. -/
lemma round_entries {nodes : List MsgNode} {dir : Bool} (lt : nbits < T.lists.length)
    (room : nodes.length < DHT_NODE_COUNT) {r : Buckets × List MsgNode × Bool}
    (er : r = if metric.bit nbits = dir then T.visit now nbits nodes else (T, nodes, false)) :
    r.2 = ((nodes ++ here metric now T nbits dir).take DHT_NODE_COUNT,
      decide (DHT_NODE_COUNT ≤ (nodes ++ here metric now T nbits dir).length)) ∧
    r.1.lists.length = T.lists.length ∧ ∀ i, found now (r.1.list i) = found now (T.list i) := by
  unfold here
  subst er
  split
  · rw [List.flatMap_singleton]
    refine ⟨visitList_entries now T.numPeers (T.list nbits) room, List.length_set, fun i => ?_⟩
    exact congrArg (List.map DhtNode.entry) (eligible_visit now lt nodes i)
  · rw [List.flatMap_nil, List.append_nil, List.take_of_length_le room.le,
      decide_eq_false (Nat.not_le.mpr room)]
    exact ⟨rfl, rfl, fun _ => rfl⟩

/-- The loop over the buckets takes what is found in the ones that are ahead. -/
lemma searchLoop_entries {fuel : Nat} {nodes : List MsgNode} {dir : Bool}
    (lt : nbits < T.lists.length) (room : nodes.length < DHT_NODE_COUNT)
    (rounds : roundsLeft T.lists.length nbits dir ≤ fuel) :
    (T.searchLoop metric now fuel nodes nbits dir).2 =
      (nodes ++ (ahead metric T.lists.length nbits dir).flatMap
        fun i => found now (T.list i)).take DHT_NODE_COUNT := by
  induction fuel generalizing T nodes nbits dir with
  | zero =>
    have pos : 0 < roundsLeft T.lists.length nbits dir := by
      unfold roundsLeft
      split <;> omega
    exact absurd rounds (Nat.not_le.mpr pos)
  | succ fuel ih =>
    obtain ⟨⟨T', nodes', full⟩, er⟩ : ∃ r, r = if metric.bit nbits = dir then
      T.visit now nbits nodes else (T, nodes, false) := ⟨_, rfl⟩
    obtain ⟨written, len, kept⟩ := round_entries lt room er
    obtain ⟨en, ef⟩ := Prod.mk.inj written
    rw [searchLoop_succ er, ahead_next metric dir lt, List.flatMap_append, ← here,
      ← List.append_assoc, ← funext kept, len]
    by_cases enough : DHT_NODE_COUNT ≤ (nodes ++ here metric now T nbits dir).length
    · rw [ef, decide_eq_true enough, List.take_append_of_le_length enough]
      exact en
    · have room' := Nat.not_le.mp enough
      rw [List.take_of_length_le room'.le] at en
      rw [ef, decide_eq_false enough, ← en, ← len]
      rw [← en] at room'
      cases e : DhtTable.nextBucket T'.lists.length nbits dir with
      | none =>
        show nodes' = (nodes' ++ []).take DHT_NODE_COUNT
        rw [List.append_nil, List.take_of_length_le room'.le]
      | some next =>
        have lt' : nbits < T'.lists.length := len ▸ lt
        have rounds' : roundsLeft T'.lists.length nbits dir ≤ fuel + 1 := len ▸ rounds
        have fewer := Nat.lt_of_lt_of_le (roundsLeft_next lt' e) rounds'
        exact ih (DhtTable.nextBucket_lt lt' e) room' (Nat.le_of_lt_succ fewer)

/-- All that is eligible, in the order of the search. -/
def entries (own : DhtId) (now : Int) (T : Buckets) (id : DhtId) : List MsgNode :=
  (route (own.xor id) T.lists.length).flatMap fun i => found now (T.list i)

/-- C `dht_client_search` finds the first sixteen. -/
lemma search_entries (pos : 0 < T.lists.length) (now : Int) (id : DhtId) :
    (T.search own now id).2 = (T.entries own now id).take DHT_NODE_COUNT :=
  searchLoop_entries pos (by decide) (Nat.le_refl _)

lemma entries_perm (own : DhtId) (now : Int) (T : Buckets) (id : DhtId) :
    (T.entries own now id).Perm (found now T.nodes) := by
  have lists : (List.range T.lists.length).map T.list = T.lists := by
    apply List.ext_getElem
    · simp
    · intro i _ lt
      simp [list, lt]
  have all : (List.range T.lists.length).flatMap (fun i => found now (T.list i)) =
      found now T.nodes := by
    rw [Buckets.nodes, found, eligible, List.filter_flatten, List.map_flatten, List.map_map,
      List.flatMap_def]
    nth_rewrite 2 [← lists]
    rw [List.map_map]
    rfl
  exact all ▸ (route_perm _ _).flatMap_right _

lemma entries_nodup (V : Valid own T) (now : Int) (id : DhtId) :
    ((T.entries own now id).map MsgNode.id).Nodup := by
  have ids : (found now T.nodes).map MsgNode.id = (eligible now T.nodes).map DhtNode.id :=
    List.map_map
  refine ((entries_perm own now T id).map _).nodup_iff.mpr ?_
  rw [ids]
  exact V.nodes_nodup.sublist (List.filter_sublist.map _)

/-- Of two eligible nodes in different buckets, the closer one comes first. -/
lemma entries_pair (V : Valid own T) (le : T.lists.length ≤ 8 * DHT_ID_SIZE) {i j : Nat} (ne : i ≠ j)
    (lti : i < T.lists.length) (ltj : j < T.lists.length) {a b : DhtNode} (ha : a ∈ T.list i)
    (hb : b ∈ T.list j) (ea : Eligible now a) (eb : Eligible now b)
    (closer : a.id.distance id < b.id.distance id) :
    [a.entry, b.entry].Sublist (T.entries own now id) := by
  have order := route_lt (V.place i lti a ha) (V.place j ltj b hb) ne lti ltj le closer
  have both : [a.entry, b.entry].Sublist ([i, j].flatMap fun i => found now (T.list i)) := by
    rw [List.flatMap_cons, List.flatMap_singleton]
    exact (List.singleton_sublist.mpr (mem_found ha ea)).append
      (List.singleton_sublist.mpr (mem_found hb eb))
  exact both.trans (order.flatMap _)

/-- The bucket of the target is not cut off. -/
lemma target_mem (V : Valid own T) {i : Nat} (lt : i < T.lists.length) {n : DhtNode}
    (hn : n ∈ T.list i) (en : Eligible now n) (eid : n.id = id) :
    n.entry ∈ (T.entries own now id).take DHT_NODE_COUNT := by
  obtain ⟨rest, er⟩ := route_target (eid ▸ V.place i lt n hn) lt
  have cap : (found now (T.list i)).length ≤ DHT_NODE_COUNT := by
    rw [found, List.length_map]
    exact (List.length_filter_le _ _).trans (V.cap i)
  rw [entries, er, List.flatMap_cons, List.take_append]
  refine List.mem_append_left _ ?_
  rw [List.take_of_length_le cap]
  exact mem_found hn en

/-- From `T` to `T'` only nodes that are not eligible are removed. -/
structure Pruned (now : Int) (T T' : Buckets) : Prop where
  length : T'.lists.length = T.lists.length
  numBuckets : T'.numBuckets = T.numBuckets
  sublist : ∀ i, (T'.list i).Sublist (T.list i)
  eligible : ∀ i, eligible now (T'.list i) = eligible now (T.list i)

/-- A search leaves of each bucket what it has not deleted. -/
lemma search_pruned (pos : 0 < T.lists.length) (now : Int) (id : DhtId) :
    Pruned now T (T.search own now id).1 := by
  refine searchLoop_keeps (P := Pruned now T) ?_ pos ⟨rfl, rfl, fun _ => .refl _, fun _ => rfl⟩
  intro T' nodes i lt pruned
  refine ⟨List.length_set.trans pruned.length, pruned.numBuckets, fun j => ?_,
    fun j => (eligible_visit now lt nodes j).trans (pruned.eligible j)⟩
  refine List.Sublist.trans ?_ (pruned.sublist j)
  unfold Buckets.visit
  dsimp only
  rw [list_set lt]
  split
  · rename_i here
    exact here ▸ Valid.visitList_sublist _ _ _ _
  · exact .refl _

end Buckets

/-! ## Searches of reachable tables -/

/-- What a search for `id` at time `now` finds in the table `t`, and the table `t'` that it leaves. -/
structure Nearest (own : DhtId) (now : Int) (id : DhtId) (t t' : DhtTable) (nodes : List MsgNode) :
    Prop where
  nodup : (nodes.map MsgNode.id).Nodup
  length : nodes.length = min DHT_NODE_COUNT (eligible now t.nodes).length
  known : ∀ e ∈ nodes, ∃ n ∈ t.nodes, Eligible now n ∧ n.entry = e
  closest : ∀ i j, i ≠ j → ∀ a ∈ t.bucket i, ∀ b ∈ t.bucket j, Eligible now a → Eligible now b →
    a.id.distance id < b.id.distance id → b.entry ∈ nodes → [a.entry, b.entry].Sublist nodes
  target : ∀ n ∈ t.nodes, Eligible now n → n.id = id → n.entry ∈ nodes
  buckets : t'.buckets.length = t.buckets.length ∧ t'.numBuckets = t.numBuckets
  removed : ∀ i, (t'.bucket i).Sublist (t.bucket i) ∧
    eligible now (t'.bucket i) = eligible now (t.bucket i)
  counted : t'.numPeers + t.nodes.length = t.numPeers + t'.nodes.length

/-- What comes before an entry that is not cut off is not cut off. -/
lemma pair_take {α : Type} {a b : α} {l : List α} {n : Nat} (nodup : l.Nodup)
    (pair : [a, b].Sublist l) (hb : b ∈ l.take n) : [a, b].Sublist (l.take n) := by
  rw [← List.take_append_drop n l] at pair nodup
  obtain ⟨l1, l2, e, s1, s2⟩ := List.sublist_append_iff.mp pair
  have cut : l2 = [] := by
    by_contra ne
    have last : b ∈ l2 := by
      have e1 := congrArg List.getLast? e
      rw [List.getLast?_append_of_ne_nil _ ne] at e1
      exact List.mem_of_getLast? e1.symm
    exact List.disjoint_of_nodup_append nodup hb (s2.subset last)
  rw [cut, List.append_nil] at e
  rwa [← e] at s1

namespace DhtTable

/-- A search of a reachable table finds eligible nodes, sixteen or all of them, the buckets in the
    order of their distance, and removes no eligible node. -/
theorem search_nearest (own : DhtId) (calls : List TableCall) (now : Int) (id : DhtId) :
    Nearest own now id (run own calls) ((run own calls).search own now id).1
      ((run own calls).search own now id).2 := by
  have V := Buckets.valid_run own calls
  have le := Buckets.run_length_le own calls
  have P : Buckets.Pruned now (Buckets.run own calls) ((Buckets.run own calls).search own now id).1 :=
    Buckets.search_pruned V.pos now id
  obtain ⟨k, L⟩ := ledger_run own calls
  have L' : Buckets.Ledger ((Buckets.run own calls).search own now id).1 k :=
    (L.searchLoop V (repr_run own calls) V.pos).1
  have R := repr_run own calls
  obtain ⟨R', written⟩ : Repr ((run own calls).search own now id).1
      ((Buckets.run own calls).search own now id).1 ∧ ((run own calls).search own now id).2 =
      ((Buckets.run own calls).search own now id).2 := R.search (R.length ▸ V.pos) id
  generalize Buckets.run own calls = T at *
  have nodup := Buckets.entries_nodup V now id
  have all := Buckets.entries_perm own now T id
  have bound : ∀ {i : Nat} {n : DhtNode}, n ∈ T.list i → i < T.lists.length := by
    intro i n hn
    by_contra ge
    rw [Buckets.list, List.getD_eq_default _ _ (Nat.not_lt.mp ge)] at hn
    cases hn
  rw [Buckets.search_entries V.pos] at written
  rw [written]
  refine ⟨?_, ?_, ?_, ?_, ?_, ?_, ?_, ?_⟩
  · rw [List.map_take]
    exact nodup.sublist (List.take_sublist _ _)
  · rw [List.length_take, all.length_eq, found, List.length_map, R.nodes]
  · intro e he
    obtain ⟨n, hn, en⟩ := List.mem_map.mp (all.mem_iff.mp (List.mem_of_mem_take he))
    obtain ⟨hn, here⟩ := mem_eligible.mp hn
    exact ⟨n, R.nodes ▸ hn, here, en⟩
  · intro i j ne a ha b hb ea eb closer hit
    rw [R.bucket] at ha hb
    have pair := Buckets.entries_pair V le ne (bound ha) (bound hb) ha hb ea eb closer
    exact pair_take nodup.of_map pair hit
  · intro n hn en eid
    obtain ⟨i, lt, hn⟩ := Buckets.mem_nodes.mp (R.nodes ▸ hn)
    exact Buckets.target_mem V lt hn en eid
  · rw [← R'.length, ← R.length, R'.numBuckets, R.numBuckets]
    exact ⟨P.length, P.numBuckets⟩
  · intro i
    rw [R'.bucket, R.bucket]
    exact ⟨P.sublist i, P.eligible i⟩
  · have count := L.count
    have count' := L'.count
    rw [R'.numPeers, R.numPeers, R.nodes, R'.nodes]
    omega

end DhtTable

end Nanotalk
