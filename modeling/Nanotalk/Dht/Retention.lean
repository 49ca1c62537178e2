import Nanotalk.Dht.Validity

/-!
# Nodes kept by an update

What `dht_client_update` should leave of the nodes of the table (`Retains`), and exactly when it
does: whenever it does not split a bucket with three or more nodes to move (`Overflows`). In that
case `g_list_concat(last, link)` makes `first` follow the moved nodes, and all but the last two of
them are no longer reachable from `bucket->data`.

* `Buckets.retains_update`, `Buckets.overflow_loses`: the two directions on the list model.
* `DhtTable.retains_iff`: the equivalence for every reachable table.
-/

namespace Nanotalk
open Glib

variable {own id : DhtId} {addr : DhtAddress} {now : Int} {T : Buckets}

/-- From `nodes` to `nodes'` no node is lost: an update of `id`, whose bucket is `bucket`, may change
    the node with this id, overwrite one dead node of a full bucket, or add the new node. -/
structure Retains (now : Int) (id : DhtId) (addr : DhtAddress) (isAlive : Bool)
    (bucket nodes nodes' : List DhtNode) : Prop where
  others : ∀ n ∈ nodes, n.id ≠ id → n ∈ nodes' ∨
    (n ∈ bucket ∧ n.isAlive = false ∧ bucket.length = DHT_NODE_COUNT ∧ isAlive = true ∧
      ⟨id, addr, now, true⟩ ∈ nodes')
  one : ∀ n ∈ nodes, ∀ m ∈ nodes, n.id ≠ id → m.id ≠ id → n ∉ nodes' → m ∉ nodes' → n = m
  refreshed : isAlive = true → ∀ n ∈ nodes, n.id = id →
    { n with addr := addr, timestamp := now, isAlive := true } ∈ nodes'
  suspected : isAlive = false → ∀ n ∈ nodes, n.id = id →
    (if n.addr = addr then { n with isAlive := false } else n) ∈ nodes'
  added : isAlive = true → id ∉ nodes.map DhtNode.id → bucket.length < DHT_NODE_COUNT →
    ∀ n, n ∈ nodes' ↔ n = ⟨id, addr, now, true⟩ ∨ n ∈ nodes

/-- A new id, reported alive, fills the last bucket `i` of `len`, and three or more of the ids then
    in it share bit `i` with the own id. -/
def Overflows (own id : DhtId) (isAlive : Bool) (len i : Nat) (bucket nodes : List DhtNode) : Prop :=
  isAlive = true ∧ id ∉ nodes.map DhtNode.id ∧ i + 1 = len ∧ bucket.length + 1 = DHT_NODE_COUNT ∧
    3 ≤ (id :: bucket.map DhtNode.id).countP fun x => x.bit i = own.bit i

/-- No node is lost where all are kept. -/
lemma Retains.of_kept {isAlive : Bool} {bucket nodes nodes' : List DhtNode}
    (others : ∀ n ∈ nodes, n.id ≠ id → n ∈ nodes')
    (refreshed : isAlive = true → ∀ n ∈ nodes, n.id = id →
      { n with addr := addr, timestamp := now, isAlive := true } ∈ nodes')
    (suspected : isAlive = false → ∀ n ∈ nodes, n.id = id →
      (if n.addr = addr then { n with isAlive := false } else n) ∈ nodes')
    (added : isAlive = true → id ∉ nodes.map DhtNode.id → bucket.length < DHT_NODE_COUNT →
      ∀ n, n ∈ nodes' ↔ n = ⟨id, addr, now, true⟩ ∨ n ∈ nodes) :
    Retains now id addr isAlive bucket nodes nodes' :=
  ⟨fun n hn ne => .inl (others n hn ne), fun n hn _ _ ne _ out _ => absurd (others n hn ne) out,
    refreshed, suspected, added⟩

/-! ## Updating the first match -/

section ModifyFirst

variable {p : DhtNode → Bool} {f : DhtNode → DhtNode} {l : List DhtNode} {n : DhtNode}

lemma mem_modifyFirst_of_not (hn : n ∈ l) (no : p n = false) : n ∈ modifyFirst p f l := by
  induction l with
  | nil => cases hn
  | cons m l ih =>
    unfold modifyFirst
    rcases List.mem_cons.mp hn with rfl | hn
    · rw [if_neg (by simp [no])]
      exact List.mem_cons_self
    · split
      · exact List.mem_cons_of_mem _ hn
      · exact List.mem_cons_of_mem _ (ih hn)

/-- The one entry that is meant is modified. -/
lemma mem_modifyFirst_of_only (hn : n ∈ l) (hit : p n = true)
    (only : ∀ m ∈ l, p m = true → m = n) : f n ∈ modifyFirst p f l := by
  induction l with
  | nil => cases hn
  | cons m l ih =>
    unfold modifyFirst
    split
    · rename_i hm
      rw [only m List.mem_cons_self hm]
      exact List.mem_cons_self
    · rename_i hm
      rcases List.mem_cons.mp hn with rfl | hn
      · exact absurd hit hm
      · exact List.mem_cons_of_mem _ (ih hn fun m' hm' => only m' (List.mem_cons_of_mem _ hm'))

end ModifyFirst

namespace Buckets

variable {i : Nat}

/-- The nodes of a table with a bucket replaced. -/
lemma mem_nodes_set_iff {l : List DhtNode} {n m : Nat} {x : DhtNode} (S : Sorted own T)
    (lt : i < T.lists.length) :
    x ∈ (Buckets.mk (T.lists.set i l) n m).nodes ↔ x ∈ l ∨ x ∈ T.nodes ∧ x ∉ T.list i := by
  rw [mem_nodes, mem_nodes]
  constructor
  · rintro ⟨j, ltj, hx⟩
    rw [list_set lt] at hx
    split at hx
    · exact .inl hx
    · rename_i ne
      have ltj : j < T.lists.length := by simpa using ltj
      exact .inr ⟨⟨j, ltj, hx⟩, fun hi => ne ((S.place j ltj x hx).unique (S.place i lt x hi) ltj lt)⟩
  · rintro (hx | ⟨⟨j, ltj, hx⟩, no⟩)
    · exact ⟨i, by simpa using lt, by rw [list_set lt, if_pos rfl]; exact hx⟩
    · have ne : j ≠ i := fun e => no (e ▸ hx)
      exact ⟨j, by simpa using ltj, by rw [list_set lt, if_neg ne]; exact hx⟩

/-- A split leaves a bucket alone that is not full or not the last one. -/
lemma split_idle {fuel count : Nat} (h : ¬ (count = DHT_NODE_COUNT ∧ ¬ i + 1 < T.lists.length)) :
    T.split own fuel i count = T := by
  cases fuel with
  | zero => rfl
  | succ fuel =>
    unfold split
    rw [if_neg h]

/-- The nodes left by the first round of a split. -/
lemma mem_round {x : DhtNode} {n m : Nat} (S : Sorted own T) (e : i + 1 = T.lists.length) :
    x ∈ (Buckets.mk (T.lists.set i (differ own i (T.list i)) ++
        [lastTwo (same own i (T.list i))]) n m).nodes ↔
      x ∈ differ own i (T.list i) ∨ x ∈ lastTwo (same own i (T.list i)) ∨
        x ∈ T.nodes ∧ x ∉ T.list i := by
  have lt : i < T.lists.length := e ▸ Nat.lt_succ_self i
  have h := mem_nodes_set_iff (l := differ own i (T.list i)) (n := 0) (m := 0) (x := x) S lt
  simp only [nodes] at h ⊢
  rw [List.flatten_append, List.flatten_singleton, List.mem_append, h]
  tauto

/-- A node of a bucket stays or moves. -/
lemma mem_differ_or_same (own : DhtId) (i : Nat) {x : DhtNode} : x ∈ T.list i ↔
    x ∈ differ own i (T.list i) ∨ x ∈ same own i (T.list i) := by
  simp only [differ, same, List.mem_filter]
  cases (x.id.xor own).bit i <;> simp

/-- Splitting a bucket with at most two nodes to move loses none. -/
lemma mem_split_iff {fuel count : Nat} {x : DhtNode} (S : Sorted own T) (e : i + 1 = T.lists.length)
    (two : (same own i (T.list i)).length ≤ 2) :
    x ∈ (T.split own fuel i count).nodes ↔ x ∈ T.nodes := by
  cases fuel with
  | zero => exact Iff.rfl
  | succ fuel =>
    unfold split
    split
    · rw [split_idle, mem_round S e, lastTwo_of_le two]
      · have mem := mem_differ_or_same own i (T := T) (x := x)
        have sub : x ∈ T.list i → x ∈ T.nodes := mem_nodes_of_list
        tauto
      · rintro ⟨h, _⟩
        exact absurd (h ▸ two) (by decide)
    · exact Iff.rfl

/-- Splitting a full bucket with three or more nodes to move loses one of them. -/
lemma split_loses (fuel : Nat) (S : Sorted own T) (e : i + 1 = T.lists.length)
    (three : 3 ≤ (same own i (T.list i)).length) :
    ∃ x ∈ T.nodes, x ∉ (T.split own (fuel + 1) i DHT_NODE_COUNT).nodes := by
  have lt : i < T.lists.length := e ▸ Nat.lt_succ_self i
  -- the first of the nodes that move
  obtain ⟨x, l, el⟩ := List.exists_cons_of_length_pos (show 0 < (same own i (T.list i)).length by omega)
  have hs : x ∈ same own i (T.list i) := el ▸ List.mem_cons_self
  have hx : x ∈ T.list i := List.mem_of_mem_filter hs
  refine ⟨x, mem_nodes_of_list hx, fun hm => ?_⟩
  unfold split at hm
  rw [if_pos ⟨rfl, by omega⟩] at hm
  rcases (mem_round S e).mp (mem_split hm) with hd | ht | ⟨_, no⟩
  · have b1 := (List.mem_filter.mp hd).2
    have b2 := (List.mem_filter.mp hs).2
    rw [b1] at b2
    cases b2
  · have nd : (same own i (T.list i)).Nodup :=
      List.Nodup.of_map _ ((S.nodup i).sublist (List.filter_sublist.map _))
    rw [el] at nd ht three
    rw [lastTwo, List.length_cons, show l.length + 1 - 2 = (l.length - 2) + 1 by
      simp only [List.length_cons] at three; omega, List.drop_succ_cons] at ht
    exact (List.nodup_cons.mp nd).1 (List.mem_of_mem_drop ht)
  · exact no hx

/-- The number of nodes to move, read off the ids. -/
lemma same_length (l : List DhtNode) : (same own i l).length =
    (l.map DhtNode.id).countP fun x => x.bit i = own.bit i := by
  rw [List.countP_map, same, ← List.countP_eq_length_filter]
  refine List.countP_congr fun n _ => ?_
  rw [DhtId.bit_xor]
  cases h1 : n.id.bit i <;> cases own.bit i <;> simp [h1]

/-- The table a new node was put in, before it is split. -/
abbrev inserted (own : DhtId) (now : Int) (T : Buckets) (id : DhtId) (addr : DhtAddress) : Buckets :=
  ⟨T.lists.set (T.index own id) (⟨id, addr, now, true⟩ :: T.list (T.index own id)), T.numBuckets,
    guintInc T.numPeers⟩

/-- An id of the table is in its bucket. -/
lemma any_iff (V : Valid own T) :
    (T.list (T.index own id)).any (·.id = id) = true ↔ id ∈ T.nodes.map DhtNode.id := by
  simp only [List.any_eq_true, decide_eq_true_eq, List.mem_map]
  constructor
  · rintro ⟨n, hn, e⟩
    exact ⟨n, mem_nodes_of_list hn, e⟩
  · rintro ⟨n, hn, rfl⟩
    obtain ⟨j, lt, hn⟩ := mem_nodes.mp hn
    exact ⟨n, V.index_eq lt hn ▸ hn, rfl⟩

/-- An update of a new id that finds room inserts and splits. -/
lemma update_insert (absent : id ∉ T.nodes.map DhtNode.id) (V : Valid own T)
    (room : (T.list (T.index own id)).length < DHT_NODE_COUNT) :
    T.update own now id addr true = (inserted own now T id addr).split own (8 * DHT_ID_SIZE)
      (T.index own id) ((T.list (T.index own id)).length + 1) := by
  unfold Buckets.update
  dsimp only
  rw [if_neg fun h => absent ((any_iff V).mp h), if_neg (by simp), if_neg (Nat.ne_of_lt room)]

/-- The new node joins its bucket. -/
lemma inserted_sorted (now : Int) (addr : DhtAddress) (V : Valid own T) (absent : id ∉ T.nodes.map DhtNode.id)
    (room : (T.list (T.index own id)).length < DHT_NODE_COUNT) :
    Sorted own (inserted own now T id addr) ∧
      (inserted own now T id addr).list (T.index own id) =
        ⟨id, addr, now, true⟩ :: T.list (T.index own id) ∧
      ∀ n, n ∈ (inserted own now T id addr).nodes ↔ n = ⟨id, addr, now, true⟩ ∨ n ∈ T.nodes := by
  obtain ⟨lt, pl⟩ := place_index own id V.pos
  refine ⟨V.toSorted.set lt ?_ ?_ ?_ _, by rw [list_set lt, if_pos rfl], fun n => ?_⟩
  · intro n hn
    rcases List.mem_cons.mp hn with rfl | hn
    · exact pl
    · exact V.place _ lt n hn
  · refine List.nodup_cons.mpr ⟨fun h => absent ?_, V.nodup _⟩
    obtain ⟨n, hn, e⟩ := List.mem_map.mp h
    exact List.mem_map.mpr ⟨n, mem_nodes_of_list hn, e⟩
  · exact room
  · rw [mem_nodes_set_iff V.toSorted lt, List.mem_cons]
    have sub : n ∈ T.list (T.index own id) → n ∈ T.nodes := mem_nodes_of_list
    tauto

/-- The update of a known node loses no node. -/
lemma retains_known (V : Valid own T) {isAlive : Bool} (present : id ∈ T.nodes.map DhtNode.id) :
    Retains now id addr isAlive (T.list (T.index own id)) T.nodes
      (T.update own now id addr isAlive).nodes := by
  obtain ⟨lt, _⟩ := place_index own id V.pos
  have hit := (any_iff V).mpr present
  have e : T.update own now id addr isAlive =
      { T with
        lists := T.lists.set (T.index own id)
          (modifyFirst (·.id = id) (touch now addr isAlive) (T.list (T.index own id))) } := by
    unfold Buckets.update
    dsimp only
    rw [if_pos hit]
  have touched : ∀ n ∈ T.nodes, n.id = id →
      touch now addr isAlive n ∈ (T.update own now id addr isAlive).nodes := by
    rintro n hn rfl
    obtain ⟨j, ltj, hn⟩ := mem_nodes.mp hn
    have hn : n ∈ T.list (T.index own n.id) := V.index_eq ltj hn ▸ hn
    rw [e, mem_nodes_set_iff V.toSorted lt]
    refine .inl (mem_modifyFirst_of_only hn (by simp) fun m hm hid => ?_)
    exact List.inj_on_of_nodup_map (V.nodup _) hm hn (by simpa using hid)
  refine .of_kept ?_ ?_ ?_ fun _ absent => absurd present absent
  · intro n hn ne
    rw [e, mem_nodes_set_iff V.toSorted lt]
    by_cases hi : n ∈ T.list (T.index own id)
    · exact .inl (mem_modifyFirst_of_not hi (by simpa using ne))
    · exact .inr ⟨hn, hi⟩
  · rintro rfl n hn hid
    exact touched n hn hid
  · rintro rfl n hn hid
    exact touched n hn hid

/-- A new node joins a bucket with room, and no node is lost if the bucket does not overflow. -/
lemma retains_joined (V : Valid own T) (absent : id ∉ T.nodes.map DhtNode.id)
    (room : (T.list (T.index own id)).length < DHT_NODE_COUNT)
    (calm : ¬ Overflows own id true T.lists.length (T.index own id) (T.list (T.index own id))
      T.nodes) :
    Retains now id addr true (T.list (T.index own id)) T.nodes
      (T.update own now id addr true).nodes := by
  have fresh : ∀ n ∈ T.nodes, n.id ≠ id := fun n hn e => absent (List.mem_map.mpr ⟨n, hn, e⟩)
  obtain ⟨S, el, mem⟩ := inserted_sorted now addr V absent room
  have all : ∀ n, n ∈ (T.update own now id addr true).nodes ↔
      n = ⟨id, addr, now, true⟩ ∨ n ∈ T.nodes := by
    intro n
    rw [update_insert absent V room, ← mem]
    by_cases idle : (T.list (T.index own id)).length + 1 = DHT_NODE_COUNT ∧
        ¬ T.index own id + 1 < (inserted own now T id addr).lists.length
    · obtain ⟨sixteen, at_end⟩ := idle
      rw [List.length_set] at at_end
      have lt := (place_index own id V.pos).1
      have e : T.index own id + 1 = T.lists.length := by omega
      refine mem_split_iff S (by simpa using e) ?_
      rw [el, same_length]
      by_contra three
      exact calm ⟨rfl, absent, e, sixteen, Nat.lt_of_not_ge three⟩
    · rw [split_idle idle]
  exact .of_kept (fun n hn _ => (all n).mpr (.inr hn))
    (fun _ n hn hid => absurd hid (fresh n hn)) nofun fun _ _ _ => all

/-- A new node takes the place of a dead one in a full bucket. -/
lemma retains_replaced (V : Valid own T) (absent : id ∉ T.nodes.map DhtNode.id)
    (full : (T.list (T.index own id)).length = DHT_NODE_COUNT) :
    Retains now id addr true (T.list (T.index own id)) T.nodes
      (T.update own now id addr true).nodes := by
  obtain ⟨lt, _⟩ := place_index own id V.pos
  have fresh : ∀ n ∈ T.nodes, n.id ≠ id := fun n hn e => absent (List.mem_map.mpr ⟨n, hn, e⟩)
  have miss : ¬ (T.list (T.index own id)).any (·.id = id) = true :=
    fun h => absent ((any_iff V).mp h)
  have e : T.update own now id addr true =
      { T with
        lists := T.lists.set (T.index own id)
          (replaceDead ⟨id, addr, now, true⟩ (T.list (T.index own id))) } := by
    unfold Buckets.update
    dsimp only
    rw [if_neg miss, if_neg (by simp), if_pos full]
  have mem : ∀ n, n ∈ (T.update own now id addr true).nodes ↔
      n ∈ replaceDead ⟨id, addr, now, true⟩ (T.list (T.index own id)) ∨
        n ∈ T.nodes ∧ n ∉ T.list (T.index own id) :=
    fun n => e ▸ mem_nodes_set_iff V.toSorted lt
  rcases replaceDead_cases ⟨id, addr, now, true⟩ (T.list (T.index own id)) with
    ⟨_, er⟩ | ⟨as, x, bs, el, dead, er⟩
  · refine .of_kept (fun n hn _ => (mem n).mpr ?_) (fun _ n hn hid => absurd hid (fresh n hn))
      nofun fun _ _ lt' => absurd full (Nat.ne_of_lt lt')
    rw [er]
    tauto
  · -- `x` is the only node that goes
    have gone : ∀ n ∈ T.nodes, n ∉ (T.update own now id addr true).nodes → n = x := by
      intro n hn out
      rw [mem, er, el] at out
      have here : n ∈ as ++ x :: bs := by
        by_contra no
        exact out (.inr ⟨hn, no⟩)
      simp only [List.mem_append, List.mem_cons] at here out
      tauto
    have new : (⟨id, addr, now, true⟩ : DhtNode) ∈ (T.update own now id addr true).nodes :=
      (mem _).mpr (.inl (er ▸ List.mem_append_right _ List.mem_cons_self))
    refine ⟨fun n hn _ => ?_, fun n hn m hm _ _ o1 o2 => (gone n hn o1).trans (gone m hm o2).symm,
      fun _ n hn hid => absurd hid (fresh n hn), nofun,
      fun _ _ lt' => absurd full (Nat.ne_of_lt lt')⟩
    by_cases h : n ∈ (T.update own now id addr true).nodes
    · exact .inl h
    · obtain rfl := gone n hn h
      exact .inr ⟨el ▸ List.mem_append_right _ List.mem_cons_self, dead, full, rfl, new⟩

/-- An update that does not overflow the last bucket loses no node. -/
lemma retains_update (V : Valid own T) {isAlive : Bool}
    (calm : ¬ Overflows own id isAlive T.lists.length (T.index own id) (T.list (T.index own id))
      T.nodes) :
    Retains now id addr isAlive (T.list (T.index own id)) T.nodes
      (T.update own now id addr isAlive).nodes := by
  by_cases present : id ∈ T.nodes.map DhtNode.id
  · exact retains_known V present
  · cases isAlive with
    | false =>
      -- nothing to mark dead
      have e : T.update own now id addr false = T := by
        unfold Buckets.update
        dsimp only
        rw [if_neg fun h => present ((any_iff V).mp h)]
        rfl
      rw [e]
      have fresh : ∀ n ∈ T.nodes, n.id ≠ id := fun n hn e => present (List.mem_map.mpr ⟨n, hn, e⟩)
      exact .of_kept (fun n hn _ => hn) nofun (fun _ n hn hid => absurd hid (fresh n hn)) nofun
    | true =>
      rcases Nat.lt_or_ge (T.list (T.index own id)).length DHT_NODE_COUNT with room | full
      · exact retains_joined V present room calm
      · exact retains_replaced V present (Nat.le_antisymm (V.cap _) full)

/-- An update that overflows the last bucket loses a node. -/
lemma overflow_loses (V : Valid own T) {isAlive : Bool}
    (ov : Overflows own id isAlive T.lists.length (T.index own id) (T.list (T.index own id)) T.nodes) :
    ¬ Retains now id addr isAlive (T.list (T.index own id)) T.nodes
      (T.update own now id addr isAlive).nodes := by
  obtain ⟨rfl, absent, e, sixteen, three⟩ := ov
  have room : (T.list (T.index own id)).length < DHT_NODE_COUNT := by omega
  obtain ⟨S, el, mem⟩ := inserted_sorted now addr V absent room
  obtain ⟨x, hx, out⟩ := split_loses (8 * DHT_ID_SIZE - 1) S
    (i := T.index own id) (by simpa using e) (by rw [el, same_length]; exact three)
  intro R
  have hx := (R.added rfl absent room x).mpr ((mem x).mp hx)
  rw [update_insert absent V room, sixteen] at hx
  exact out hx

end Buckets

namespace DhtTable

/-- In every reachable table an update loses no node exactly where it does not overflow the last
    bucket. -/
theorem retains_iff (own : DhtId) (calls : List TableCall) (now : Int) (id : DhtId)
    (addr : DhtAddress) (isAlive : Bool) :
    Retains now id addr isAlive
        ((run own calls).bucket (bucketIndex (own.xor id) 0 (run own calls).buckets))
        (run own calls).nodes ((run own calls).update own now id addr isAlive).nodes ↔
      ¬ Overflows own id isAlive (run own calls).buckets.length
        (bucketIndex (own.xor id) 0 (run own calls).buckets)
        ((run own calls).bucket (bucketIndex (own.xor id) 0 (run own calls).buckets))
        (run own calls).nodes := by
  have R := repr_run own calls
  have V := Buckets.valid_run own calls
  have R' := R.update (R.length ▸ V.pos) own now id addr isAlive
  rw [R.index, R.bucket, R.nodes, R'.nodes, ← R.length]
  exact ⟨fun ret ov => Buckets.overflow_loses V ov ret, Buckets.retains_update V⟩

/-- The sixteenth node of a table of one bucket, none of whose ids differs from the own id in the
    first bit: the third node reported is in the table before the update and not after it. -/
theorem sixteenth_report_loses :
    leadingId 16 ≠ leadingId 0 ∧
    ¬ Retains 0 (leadingId 16) ⟨fun _ => 0⟩ true
      ((run (leadingId 0) (reports 15)).bucket
        (bucketIndex ((leadingId 0).xor (leadingId 16)) 0 (run (leadingId 0) (reports 15)).buckets))
      (run (leadingId 0) (reports 15)).nodes
      ((run (leadingId 0) (reports 15)).update (leadingId 0) 0 (leadingId 16) ⟨fun _ => 0⟩ true).nodes := by
  refine ⟨by decide +kernel, fun R => ?_⟩
  have kept := (R.added rfl (by decide +kernel) (by decide +kernel)
    ⟨leadingId 3, ⟨fun _ => 0⟩, 0, true⟩).mpr (.inr (by decide +kernel))
  revert kept
  decide +kernel

end DhtTable
end Nanotalk
