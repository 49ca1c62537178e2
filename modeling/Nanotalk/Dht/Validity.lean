import Nanotalk.Dht.Refinement

/-!
# Validity of the routing table

The representation invariant of the routing table, for any sequence of updates and searches.
`Place own len i id` says where the table may hold `id`: bucket `i` of `len` takes the ids that share
exactly the first `i` bits with the own id, the last bucket those that share at least that many.
An id has one place (`Place.unique`) and `bucketIndex` finds it (`place_index`), so an id that no
bucket holds twice occurs once in the table.

* `Buckets.Valid`: the invariant on lists. It is preserved by `Buckets.update` (`Valid.update`) and
  `Buckets.search` (`Valid.search`), hence holds after every run (`valid_run`).
* `DhtTable.Invariant`: the invariant as a reader of the C structures sees it, transferred through
  `Repr` (`reachable_invariant`).
-/

namespace Nanotalk
open Glib

variable {own id : DhtId} {addr : DhtAddress} {now : Int} {T : Buckets}

/-- Bucket `i` of `len` is the place of `id`. -/
def Place (own : DhtId) (len i : Nat) (id : DhtId) : Prop :=
  Bytes.Agree i id.data own.data ∧ (i + 1 < len → id.bit i ≠ own.bit i)

namespace Place

variable {len i j : Nat}

/-- An id cannot agree with the own id past the bit its bucket stops at. -/
lemma not_lt (hi : Place own len i id) (hj : Place own len j id) (lt : j < len) : ¬ i < j :=
  fun ij => hi.2 (Nat.lt_of_le_of_lt ij lt) (hj.1 i ij)

/-- An id has one place. -/
lemma unique (hi : Place own len i id) (hj : Place own len j id) (lti : i < len) (ltj : j < len) :
    i = j :=
  Nat.le_antisymm (Nat.not_lt.mp (hj.not_lt hi lti)) (Nat.not_lt.mp (hi.not_lt hj ltj))

/-- The place does not change when a bucket is added after it. -/
lemma grow (h : Place own len i id) (lt : i + 1 < len) : Place own (len + 1) i id :=
  ⟨h.1, fun _ => h.2 lt⟩

end Place

/-- The walk over the buckets ends at the place of the id. -/
lemma place_bucketIndex (own id : DhtId) {β : Type} {nbits : Nat} {bs : List β} (ne : bs ≠ [])
    (ag : Bytes.Agree nbits id.data own.data) :
    Place own (nbits + bs.length) (bucketIndex (own.xor id) nbits bs) id := by
  induction bs generalizing nbits with
  | nil => exact absurd rfl ne
  | cons b bs ih =>
    cases bs with
    | nil => exact ⟨ag, fun lt => absurd lt (Nat.lt_irrefl _)⟩
    | cons b' bs =>
      unfold bucketIndex
      rw [DhtId.bit_xor]
      split
      · rename_i e
        exact ⟨ag, fun _ e' => by rw [e', Bool.xor_self] at e; cases e⟩
      · rename_i e
        have same : id.bit nbits = own.bit nbits := by
          cases ho : own.bit nbits <;> cases hi : id.bit nbits <;> simp [ho, hi] at e ⊢
        have p := ih (List.cons_ne_nil _ _) (ag.succ same)
        rwa [Nat.add_assoc, Nat.add_comm 1] at p

namespace Buckets

/-- Nodes that share all but the last bit of an id are at most two. -/
lemma agree_length_le_two {l : List DhtNode} {nbits : Nat} (nodup : (l.map DhtNode.id).Nodup)
    (agree : ∀ n ∈ l, Bytes.Agree nbits n.id.data own.data) (deep : 8 * DHT_ID_SIZE ≤ nbits + 1) :
    l.length ≤ 2 := by
  have nd : (l.map fun n => n.id.bit (8 * DHT_ID_SIZE - 1)).Nodup := by
    rw [List.nodup_map_iff_inj_on (List.Nodup.of_map _ nodup)]
    intro n hn m hm e
    have ids : n.id = m.id := by
      refine DhtId.ext (Bytes.ext_bit fun j ltj => ?_)
      rcases Nat.lt_or_ge j nbits with lti | gei
      · exact (agree n hn j lti).trans (agree m hm j lti).symm
      · have ej : j = 8 * DHT_ID_SIZE - 1 := by omega
        subst ej
        exact e
    exact List.inj_on_of_nodup_map nodup hn hm ids
  simpa using nd.length_le_card

/-- The walk stops at a bucket, the place of the id. -/
lemma place_index (own id : DhtId) (ne : 0 < T.lists.length) :
    T.index own id < T.lists.length ∧ Place own T.lists.length (T.index own id) id := by
  have ne := List.length_pos_iff.mp ne
  have lt := (bucketIndex_lt (own.xor id) 0 T.lists ne).2
  have p := place_bucketIndex own id ne Bytes.Agree.zero
  rw [Nat.zero_add] at lt p
  exact ⟨lt, p⟩

/-- The nodes of the table are those of its buckets. -/
lemma mem_nodes {n : DhtNode} : n ∈ T.nodes ↔ ∃ i < T.lists.length, n ∈ T.list i := by
  simp only [nodes, List.mem_flatten, list]
  constructor
  · rintro ⟨l, hl, hn⟩
    obtain ⟨i, lt, rfl⟩ := List.getElem_of_mem hl
    exact ⟨i, lt, by simpa [lt] using hn⟩
  · rintro ⟨i, lt, hn⟩
    exact ⟨T.lists[i], List.getElem_mem lt, by simpa [lt] using hn⟩

/-- Bucket `j` after bucket `i` was replaced. -/
lemma list_set {i j n m : Nat} {l : List DhtNode} (lt : i < T.lists.length) :
    (Buckets.mk (T.lists.set i l) n m).list j = if j = i then l else T.list j := by
  simp only [list, List.getD_eq_getElem?_getD, List.getElem?_set, lt, if_true]
  by_cases e : i = j
  · simp [e]
  · simp [e, Ne.symm e]

/-- Bucket `j` after the last bucket `i` was split. -/
lemma list_split {i j n m : Nat} {l1 l2 : List DhtNode} (e : i + 1 = T.lists.length) :
    (Buckets.mk (T.lists.set i l1 ++ [l2]) n m).list j =
      if j = i then l1 else if j = i + 1 then l2 else T.list j := by
  have lt : i < T.lists.length := e ▸ Nat.lt_succ_self i
  rcases Nat.lt_trichotomy j T.lists.length with h | h | h
  · have key := list_set (j := j) (n := n) (m := m) (l := l1) lt
    have h' : j < (T.lists.set i l1).length := by simpa using h
    simp only [list, List.getD_eq_getElem?_getD, List.getElem?_append_left h'] at key ⊢
    rw [key, if_neg (show j ≠ i + 1 by omega)]
  · subst h
    have h' : T.lists.length = (T.lists.set i l1).length := by simp
    rw [if_neg (show T.lists.length ≠ i by omega), if_pos e.symm]
    simp only [list, List.getD_eq_getElem?_getD]
    conv_lhs => rw [h', List.getElem?_concat_length]
    rfl
  · rw [if_neg (show j ≠ i by omega), if_neg (show j ≠ i + 1 by omega)]
    have ge : (T.lists.set i l1 ++ [l2]).length ≤ j := by
      rw [List.length_append, List.length_set, List.length_singleton]
      exact h
    rw [list, list, List.getD_eq_default _ _ ge, List.getD_eq_default _ _ (Nat.le_of_lt h)]

/-- The buckets hold what belongs in them, once, and no more than their capacity. -/
structure Sorted (own : DhtId) (T : Buckets) : Prop where
  numBuckets : T.numBuckets = T.lists.length
  pos : 0 < T.lists.length
  place : ∀ i < T.lists.length, ∀ n ∈ T.list i, Place own T.lists.length i n.id
  nodup : ∀ i, ((T.list i).map DhtNode.id).Nodup
  cap : ∀ i, (T.list i).length ≤ DHT_NODE_COUNT

/-- Between two calls the last bucket has room. -/
structure Valid (own : DhtId) (T : Buckets) : Prop extends Sorted own T where
  last : ∀ i, i + 1 = T.lists.length → (T.list i).length < DHT_NODE_COUNT

namespace Sorted

variable {i : Nat} {l : List DhtNode}

/-- A bucket is replaced by nodes that belong there. -/
lemma set (S : Sorted own T) (lt : i < T.lists.length)
    (place : ∀ n ∈ l, Place own T.lists.length i n.id) (nodup : (l.map DhtNode.id).Nodup)
    (cap : l.length ≤ DHT_NODE_COUNT) (m : Nat) :
    Sorted own ⟨T.lists.set i l, T.numBuckets, m⟩ := by
  refine ⟨by simpa using S.numBuckets, by simpa using S.pos, ?_, ?_, ?_⟩
  · intro j ltj n hn
    simp only [List.length_set] at ltj ⊢
    rw [list_set lt] at hn
    split at hn
    · rename_i e
      exact e ▸ place n hn
    · exact S.place j ltj n hn
  · intro j
    rw [list_set lt]
    split
    · exact nodup
    · exact S.nodup j
  · intro j
    rw [list_set lt]
    split
    · exact cap
    · exact S.cap j

/-- A bucket that is reached with all but the last bit has at most two nodes. -/
lemma length_le_two (S : Sorted own T) (lt : i < T.lists.length) (deep : 8 * DHT_ID_SIZE ≤ i + 1) :
    (T.list i).length ≤ 2 :=
  agree_length_le_two (S.nodup i) (fun n hn => (S.place i lt n hn).1) deep

/-- A full bucket is not among the deepest ones. -/
lemma full_shallow (S : Sorted own T) (lt : i < T.lists.length)
    (full : (T.list i).length = DHT_NODE_COUNT) : i + 1 < 8 * DHT_ID_SIZE := by
  by_contra ge
  have two := S.length_le_two lt (Nat.not_lt.mp ge)
  rw [full] at two
  exact absurd two (by decide)

/-- A bucket loses nodes. -/
lemma sublist (S : Sorted own T) (lt : i < T.lists.length) (sub : l.Sublist (T.list i)) (m : Nat) :
    Sorted own ⟨T.lists.set i l, T.numBuckets, m⟩ :=
  S.set lt (fun n hn => S.place i lt n (sub.subset hn)) ((S.nodup i).sublist (sub.map _))
    (sub.length_le.trans (S.cap i)) m

/-- One round of the loop `Split buckets`. -/
lemma split_round (S : Sorted own T) (e : i + 1 = T.lists.length) (small : i + 2 < 2 ^ 32)
    (m : Nat) :
    Sorted own ⟨T.lists.set i (differ own i (T.list i)) ++ [lastTwo (same own i (T.list i))],
      guintInc T.numBuckets, m⟩ := by
  have lt : i < T.lists.length := e ▸ Nat.lt_succ_self i
  have subD : (differ own i (T.list i)).Sublist (T.list i) := List.filter_sublist
  have subS : (lastTwo (same own i (T.list i))).Sublist (T.list i) :=
    (List.drop_sublist _ _).trans List.filter_sublist
  have len : (T.lists.set i (differ own i (T.list i)) ++
      [lastTwo (same own i (T.list i))]).length = T.lists.length + 1 := by simp
  refine ⟨?_, by simp, ?_, ?_, ?_⟩
  · rw [len, guintInc, S.numBuckets, Nat.mod_eq_of_lt (by omega)]
  · intro j ltj n hn
    rw [len] at ltj ⊢
    rw [list_split e] at hn
    split at hn
    · -- the nodes that stay differ in bit `i`
      rename_i ej
      subst ej
      refine ⟨(S.place j lt n (subD.subset hn)).1, fun _ eq => ?_⟩
      have hb := (List.mem_filter.mp hn).2
      rw [DhtId.bit_xor, eq, Bool.xor_self] at hb
      cases hb
    · split at hn
      · -- the nodes that move share it
        rename_i ej
        subst ej
        refine ⟨(S.place i lt n (subS.subset hn)).1.succ ?_, fun h => absurd h (by omega)⟩
        have hb := (List.mem_filter.mp (List.mem_of_mem_drop hn)).2
        rw [DhtId.bit_xor] at hb
        cases hn' : n.id.bit i <;> cases ho : own.bit i <;> simp_all
      · exact (S.place j (by omega) n hn).grow (by omega)
  · intro j
    rw [list_split e]
    split
    · exact (S.nodup i).sublist (subD.map _)
    · split
      · exact (S.nodup i).sublist (subS.map _)
      · exact S.nodup j
  · intro j
    rw [list_split e]
    split
    · exact subD.length_le.trans (S.cap i)
    · split
      · exact subS.length_le.trans (S.cap i)
      · exact S.cap j

/-- The loop ends at the latest after the round that follows the first: the bucket it goes on with
    has at most two nodes. -/
lemma split_small {fuel nbits count : Nat} (S : Sorted own T) (e : nbits + 1 = T.lists.length)
    (small : nbits + 2 < 2 ^ 32) (two : (T.list nbits).length ≤ 2) :
    Valid own (T.split own (fuel + 1) nbits count) := by
  unfold split
  split
  · have S' := S.split_round e small T.numPeers
    have le : (same own nbits (T.list nbits)).length ≤ 2 :=
      (List.filter_sublist.length_le).trans two
    have stop : ∀ fuel (V : Buckets), split own fuel V (nbits + 1)
        (same own nbits (T.list nbits)).length = V := by
      intro fuel V
      cases fuel with
      | zero => rfl
      | succ fuel =>
        unfold split
        rw [if_neg]
        rintro ⟨h, _⟩
        exact absurd (h ▸ le) (by decide)
    rw [stop]
    refine ⟨S', fun j ej => ?_⟩
    have ej : j = nbits + 1 := by simp at ej; omega
    rw [list_split e, if_neg (by omega), if_pos ej]
    exact Nat.lt_of_le_of_lt lastTwo_length_le (by decide)
  · refine ⟨S, fun j ej => ?_⟩
    obtain rfl : j = nbits := by omega
    exact Nat.lt_of_le_of_lt two (by decide)

/-- The loop `Split buckets` leaves room in the last bucket. -/
lemma split_valid {fuel nbits count : Nat} (S : Sorted own T) (lt : nbits < T.lists.length)
    (last : ∀ j, j ≠ nbits → j + 1 = T.lists.length → (T.list j).length < DHT_NODE_COUNT)
    (eq : (T.list nbits).length = count) : Valid own (T.split own (fuel + 2) nbits count) := by
  unfold split
  split
  · rename_i full
    have e : nbits + 1 = T.lists.length := by omega
    have deep : nbits + 1 < 160 := S.full_shallow lt (eq.trans full.1)
    apply split_small (S.split_round e (by omega) T.numPeers) (by simp [e]) (by omega)
    rw [list_split e, if_neg (by omega), if_pos rfl]
    exact lastTwo_length_le
  · rename_i room
    refine ⟨S, fun j ej => ?_⟩
    by_cases h : j = nbits
    · subst h
      have := S.cap j
      omega
    · exact last j h ej

end Sorted

/-- What visiting a bucket keeps, the loop over the buckets keeps. -/
lemma searchLoop_keeps {P : Buckets → Prop} {metric : DhtId} {fuel nbits : Nat}
    {nodes : List MsgNode} {dir : Bool}
    (visit : ∀ (T : Buckets) (nodes : List MsgNode) (i : Nat), i < T.lists.length → P T →
      P (T.visit now i nodes).1)
    (lt : nbits < T.lists.length) (h : P T) : P (T.searchLoop metric now fuel nodes nbits dir).1 := by
  induction fuel generalizing T nodes nbits dir with
  | zero => exact h
  | succ fuel ih =>
    -- the bucket, visited or passed over
    obtain ⟨⟨T', nodes', full⟩, eV⟩ : ∃ v, v = if metric.bit nbits = dir then
      T.visit now nbits nodes else (T, nodes, false) := ⟨_, rfl⟩
    have here : P T' ∧ T'.lists.length = T.lists.length := by
      split at eV
      · cases eV
        exact ⟨visit T nodes nbits lt h, List.length_set⟩
      · cases eV
        exact ⟨h, rfl⟩
    obtain ⟨h', len⟩ := here
    rw [Buckets.searchLoop_succ eV]
    cases en : if full then none else DhtTable.nextBucket T'.lists.length nbits dir with
    | none => exact h'
    | some next =>
      obtain ⟨-, en⟩ := Option.ite_none_left_eq_some.mp en
      exact ih (DhtTable.nextBucket_lt (len ▸ lt) en) h'

namespace Valid

/-- The initial table. -/
lemma init : Valid own Buckets.init := by
  have e : ∀ i, Buckets.init.list i = [] := by intro i; cases i <;> rfl
  have len : Buckets.init.lists.length = 1 := rfl
  exact ⟨⟨rfl, by decide, fun i _ n hn => by simp [e] at hn, fun i => by simp [e], fun i => by simp [e]⟩,
    fun i _ => by simp [e]⟩

/-- A bucket is replaced by nodes that belong there, no more than it held. -/
lemma set {i : Nat} {l : List DhtNode} (V : Valid own T) (lt : i < T.lists.length)
    (place : ∀ n ∈ l, Place own T.lists.length i n.id) (nodup : (l.map DhtNode.id).Nodup)
    (le : l.length ≤ (T.list i).length) (m : Nat) :
    Valid own ⟨T.lists.set i l, T.numBuckets, m⟩ := by
  refine ⟨V.toSorted.set lt place nodup (le.trans (V.cap i)) m, fun j ej => ?_⟩
  have room := V.last j (by simpa using ej)
  rw [list_set lt]
  split
  · rename_i e
    subst e
    exact Nat.lt_of_le_of_lt le room
  · exact room

/-- A new node is inserted into its bucket, which may become full. -/
lemma insert {i : Nat} (V : Valid own T) (ei : i = T.index own id)
    (absent : id ∉ (T.list i).map DhtNode.id) (room : (T.list i).length ≠ DHT_NODE_COUNT)
    (addr : DhtAddress) (now : Int) (m : Nat) :
    Sorted own ⟨T.lists.set i (⟨id, addr, now, true⟩ :: T.list i), T.numBuckets, m⟩ := by
  obtain ⟨lt, pl⟩ := place_index own id V.pos
  rw [← ei] at lt pl
  apply V.toSorted.set lt (l := ⟨id, addr, now, true⟩ :: T.list i)
  · intro n hn
    rcases List.mem_cons.mp hn with rfl | hn
    · exact pl
    · exact V.place i lt n hn
  · exact List.nodup_cons.mpr ⟨absent, V.nodup i⟩
  · have := V.cap i
    rw [List.length_cons]
    omega

/-- C `dht_client_update` keeps the table valid. -/
lemma update (V : Valid own T) (now : Int) (id : DhtId) (addr : DhtAddress) (isAlive : Bool) :
    Valid own (T.update own now id addr isAlive) := by
  obtain ⟨lt, pl⟩ := place_index own id V.pos
  unfold Buckets.update
  obtain ⟨i, ei⟩ : ∃ i, i = T.index own id := ⟨_, rfl⟩
  rw [← ei] at lt pl ⊢
  dsimp only
  split
  · -- an existing node
    have ids := modifyFirst_ids (p := (·.id = id)) (f := touch now addr isAlive) (by simp) (T.list i)
    refine V.set lt (fun n hn => ?_) (ids ▸ V.nodup i) ?_ _
    · have hid : n.id ∈ (T.list i).map DhtNode.id := ids ▸ List.mem_map_of_mem hn
      obtain ⟨m, hm, e⟩ := List.mem_map.mp hid
      exact e ▸ V.place i lt m hm
    · have len := congrArg List.length ids
      simp only [List.length_map] at len
      exact len.le
  · rename_i absent
    have nid : id ∉ (T.list i).map DhtNode.id := by simpa using absent
    split
    · exact V
    · split
      · -- a node replaced
        rcases replaceDead_cases ⟨id, addr, now, true⟩ (T.list i) with ⟨_, e⟩ | ⟨as, x, bs, el, _, e⟩
        · rw [e]
          exact V.set lt (V.place i lt) (V.nodup i) le_rfl _
        · have nd := V.nodup i
          rw [e]
          rw [el, List.map_append, List.map_cons] at nd nid
          refine V.set lt (fun n hn => ?_) ?_ (by simp [el]) _
          · rcases List.mem_append.mp hn with hn | hn
            · exact V.place i lt n (by simp [el, hn])
            · rcases List.mem_cons.mp hn with rfl | hn
              · exact pl
              · exact V.place i lt n (by simp [el, hn])
          · rw [List.map_append, List.map_cons]
            have rest := (List.nodup_cons.mp (List.perm_middle.nodup nd)).2
            have nrest : id ∉ as.map DhtNode.id ++ bs.map DhtNode.id := by
              simp only [List.mem_append, List.mem_cons, not_or] at nid ⊢
              exact ⟨nid.1, nid.2.2⟩
            exact List.perm_middle.nodup_iff.mpr (List.nodup_cons.mpr ⟨nrest, rest⟩)
      · -- a node inserted
        rename_i room
        have S := V.insert ei nid room addr now (guintInc T.numPeers)
        apply S.split_valid (by simpa using lt)
        · intro j ne ej
          rw [list_set lt, if_neg ne]
          exact V.last j (by simpa using ej)
        · rw [list_set lt, if_pos rfl, List.length_cons]

/-- The loop over the nodes of a bucket only deletes. -/
lemma visitList_sublist (now : Int) (numPeers : Nat) (nodes : List MsgNode) (l : List DhtNode) :
    (visitList now numPeers nodes l).1.Sublist l := by
  induction l generalizing numPeers nodes with
  | nil => exact .slnil
  | cons n l ih =>
    unfold visitList
    split
    · simp only
      split
      · exact .refl _
      · exact (ih _ _).cons_cons n
    · exact (ih _ _).cons n

/-- Visiting a bucket keeps the table valid. -/
lemma visit {i : Nat} (V : Valid own T) (now : Int) (lt : i < T.lists.length)
    (nodes : List MsgNode) : Valid own (T.visit now i nodes).1 := by
  have sub := visitList_sublist now T.numPeers nodes (T.list i)
  exact V.set lt (fun n hn => V.place i lt n (sub.subset hn)) ((V.nodup i).sublist (sub.map _))
    sub.length_le _

/-- The loop over the buckets. -/
lemma searchLoop {metric : DhtId} {fuel nbits : Nat} {nodes : List MsgNode} {dir : Bool}
    (V : Valid own T) (lt : nbits < T.lists.length) :
    Valid own (T.searchLoop metric now fuel nodes nbits dir).1 :=
  searchLoop_keeps (fun _ _ _ lt V => Valid.visit V now lt _) lt V

/-- C `dht_client_search` keeps the table valid. -/
lemma search (V : Valid own T) (now : Int) (id : DhtId) : Valid own (T.search own now id).1 :=
  V.searchLoop V.pos

end Valid

/-! ## The ids of the table -/

/-- The nodes of a bucket are nodes of the table. -/
lemma mem_nodes_of_list {i : Nat} {n : DhtNode} (hn : n ∈ T.list i) : n ∈ T.nodes := by
  rcases Nat.lt_or_ge i T.lists.length with lt | ge
  · exact mem_nodes.mpr ⟨i, lt, hn⟩
  · simp [list, ge] at hn

/-- A node of a table with a bucket replaced is in that bucket, or was there before. -/
lemma mem_nodes_set {i n m : Nat} {l : List DhtNode} {x : DhtNode}
    (hx : x ∈ (Buckets.mk (T.lists.set i l) n m).nodes) : x ∈ l ∨ x ∈ T.nodes := by
  obtain ⟨l', hl, hm⟩ := List.mem_flatten.mp hx
  rcases List.mem_or_eq_of_mem_set hl with hl | rfl
  · exact .inr (List.mem_flatten.mpr ⟨l', hl, hm⟩)
  · exact .inl hm

/-- Splitting adds no node. -/
lemma mem_split {fuel nbits count : Nat} {x : DhtNode}
    (hx : x ∈ (T.split own fuel nbits count).nodes) : x ∈ T.nodes := by
  induction fuel generalizing T nbits count with
  | zero => exact hx
  | succ fuel ih =>
    unfold split at hx
    split at hx
    · have hx := ih hx
      rw [nodes, List.flatten_append, List.flatten_singleton, List.mem_append] at hx
      rcases hx with hx | hx
      · rcases mem_nodes_set (n := 0) (m := 0) hx with hx | hx
        · exact mem_nodes_of_list (List.mem_of_mem_filter hx)
        · exact hx
      · exact mem_nodes_of_list (List.mem_of_mem_filter (List.mem_of_mem_drop hx))
    · exact hx

/-- An id in the table after an update was there before, or is the id reported alive. -/
lemma update_ids {isAlive : Bool} {x : DhtNode}
    (hx : x ∈ (T.update own now id addr isAlive).nodes) :
    x.id ∈ T.nodes.map DhtNode.id ∨ isAlive = true ∧ x.id = id := by
  have old : ∀ {y : DhtNode}, y ∈ T.nodes → y.id ∈ T.nodes.map DhtNode.id := List.mem_map_of_mem
  unfold Buckets.update at hx
  dsimp only at hx
  split at hx
  · refine .inl ?_
    rcases mem_nodes_set hx with hx | hx
    · have hid := List.mem_map_of_mem (f := DhtNode.id) hx
      rw [modifyFirst_ids (by simp)] at hid
      obtain ⟨m, hm, e⟩ := List.mem_map.mp hid
      exact e ▸ old (mem_nodes_of_list hm)
    · exact old hx
  · split at hx
    · exact .inl (old hx)
    · rename_i alive
      have alive : isAlive = true := by simpa using alive
      split at hx
      · rcases mem_nodes_set hx with hx | hx
        · rcases replaceDead_cases ⟨id, addr, now, true⟩ (T.list (T.index own id)) with
            ⟨_, e⟩ | ⟨as, y, bs, el, _, e⟩
          · exact .inl (old (mem_nodes_of_list (e ▸ hx)))
          · rw [e] at hx
            rcases List.mem_append.mp hx with hx | hx
            · exact .inl (old (mem_nodes_of_list (el ▸ List.mem_append_left _ hx)))
            · rcases List.mem_cons.mp hx with rfl | hx
              · exact .inr ⟨alive, rfl⟩
              · have hm : x ∈ T.list (T.index own id) := by simp [el, hx]
                exact .inl (old (mem_nodes_of_list hm))
        · exact .inl (old hx)
      · rcases mem_nodes_set (mem_split hx) with hx | hx
        · rcases List.mem_cons.mp hx with rfl | hx
          · exact .inr ⟨alive, rfl⟩
          · exact .inl (old (mem_nodes_of_list hx))
        · exact .inl (old hx)

/-- A search adds no node. -/
lemma mem_searchLoop {metric : DhtId} {fuel nbits : Nat} {entries : List MsgNode} {dir : Bool}
    (lt : nbits < T.lists.length) :
    ∀ x ∈ (T.searchLoop metric now fuel entries nbits dir).1.nodes, x ∈ T.nodes := by
  refine searchLoop_keeps (P := fun T' => ∀ x ∈ T'.nodes, x ∈ T.nodes) ?_ lt fun _ hx => hx
  intro T' entries i _ old x hx
  rcases mem_nodes_set hx with hx | hx
  · exact old x (mem_nodes_of_list ((Valid.visitList_sublist _ _ _ _).subset hx))
  · exact old x hx

/-- A call that does not report the own id as alive. -/
def Foreign (own : DhtId) : TableCall → Prop
  | .update _ id _ isAlive => isAlive = true → id ≠ own
  | .search _ _ => True

/-- The own id stays out of the table. -/
lemma step_own {call : TableCall} (pos : 0 < T.lists.length) (no : ∀ n ∈ T.nodes, n.id ≠ own) (fc : Foreign own call) :
    ∀ n ∈ (T.step own call).nodes, n.id ≠ own := by
  intro n hn
  cases call with
  | update now id addr isAlive =>
    rcases update_ids hn with hid | ⟨alive, rfl⟩
    · obtain ⟨m, hm, e⟩ := List.mem_map.mp hid
      exact e ▸ no m hm
    · exact fc alive
  | search now id => exact no n (mem_searchLoop pos n hn)

/-! ## Runs -/

/-- One call keeps the table valid. -/
lemma Valid.step (V : Valid own T) (call : TableCall) : Valid own (T.step own call) := by
  cases call with
  | update now id addr isAlive => exact V.update now id addr isAlive
  | search now id => exact V.search now id

/-- Every table a run arrives at is valid. -/
theorem valid_run (own : DhtId) (calls : List TableCall) : Valid own (run own calls) := by
  induction calls using List.reverseRecOn with
  | nil => exact Valid.init
  | append_singleton calls call ih =>
    rw [run, List.foldl_append]
    exact ih.step call

/-- The own id is in no table that a run without reports of it arrives at. -/
lemma run_own {calls : List TableCall} (fc : ∀ call ∈ calls, Foreign own call) :
    ∀ n ∈ (run own calls).nodes, n.id ≠ own := by
  induction calls using List.reverseRecOn with
  | nil => intro n hn; simp [run, nodes, Buckets.init] at hn
  | append_singleton calls call ih =>
    rw [run, List.foldl_append]
    exact step_own (valid_run own calls).pos (ih fun c hc => fc c (List.mem_append_left _ hc))
      (fc call (List.mem_append_right _ List.mem_cons_self))

/-- No id occurs twice in a valid table. -/
lemma Valid.nodes_nodup (V : Valid own T) : (T.nodes.map DhtNode.id).Nodup := by
  have apart : List.Pairwise (fun l1 l2 : List DhtNode => ∀ n ∈ l1, ∀ m ∈ l2, n.id ≠ m.id) T.lists := by
    rw [List.pairwise_iff_getElem]
    intro i j hi hj lt n hn m hm e
    have pi := V.place i hi n (by simpa [list, hi] using hn)
    have pj := V.place j hj m (by simpa [list, hj] using hm)
    exact (e ▸ pi).not_lt pj hj lt
  rw [nodes, List.map_flatten, List.nodup_flatten]
  refine ⟨?_, ?_⟩
  · intro l hl
    obtain ⟨l, hl', rfl⟩ := List.mem_map.mp hl
    obtain ⟨i, lt, rfl⟩ := List.getElem_of_mem hl'
    simpa [list, lt] using V.nodup i
  · rw [List.pairwise_map]
    refine apart.imp fun {l1 l2} h => ?_
    intro x h1 h2
    obtain ⟨n, hn, e1⟩ := List.mem_map.mp h1
    obtain ⟨m, hm, e2⟩ := List.mem_map.mp h2
    exact h n hn m hm (e1.trans e2.symm)

/-- Where a node is, the walk for its id ends. -/
lemma Valid.index_eq {i : Nat} (V : Valid own T) (lt : i < T.lists.length) {n : DhtNode}
    (hn : n ∈ T.list i) : T.index own n.id = i := by
  obtain ⟨lt', pl⟩ := place_index own n.id V.pos
  exact pl.unique (V.place i lt n hn) lt' lt

end Buckets

/-! ## The table of the client -/

namespace DhtTable

/-- The representation invariant of the routing table. -/
structure Invariant (own : DhtId) (t : DhtTable) : Prop where
  numBuckets : t.numBuckets = t.buckets.length
  pos : 0 < t.buckets.length
  exact : ∀ i, i + 1 < t.buckets.length → ∀ n ∈ t.bucket i,
    Bytes.Agree i n.id.data own.data ∧ n.id.bit i ≠ own.bit i
  least : ∀ n ∈ t.bucket (t.buckets.length - 1),
    Bytes.Agree (t.buckets.length - 1) n.id.data own.data
  unique : (t.nodes.map DhtNode.id).Nodup
  foreign : own ∉ t.nodes.map DhtNode.id
  cap : ∀ i < t.buckets.length, (t.bucket i).length ≤ DHT_NODE_COUNT
  room : (t.bucket (t.buckets.length - 1)).length < DHT_NODE_COUNT
  inspected : ∀ id, ∀ i < t.buckets.length, id ∈ (t.bucket i).map DhtNode.id →
    bucketIndex (own.xor id) 0 t.buckets = i

end DhtTable

/-- The cells have the invariant of the buckets that they represent. -/
lemma Repr.invariant {own : DhtId} {t : DhtTable} {T : Buckets} (R : Repr t T) (V : T.Valid own)
    (other : ∀ n ∈ T.nodes, n.id ≠ own) : t.Invariant own where
  numBuckets := by rw [R.numBuckets, V.numBuckets, R.length]
  pos := R.length ▸ V.pos
  exact i lt n hn := by
    rw [← R.length] at lt
    obtain ⟨agree, differ⟩ := V.place i (by omega) n (R.bucket ▸ hn)
    exact ⟨agree, differ lt⟩
  least n hn := by
    have pos := V.pos
    rw [R.bucket, ← R.length] at hn
    rw [← R.length]
    exact (V.place _ (by omega) n hn).1
  unique := R.nodes ▸ V.nodes_nodup
  foreign mem := by
    obtain ⟨n, hn, same⟩ := List.mem_map.mp mem
    exact other n (R.nodes ▸ hn) same
  cap i _ := R.bucket ▸ V.cap i
  room := by
    have pos := V.pos
    rw [R.bucket, ← R.length]
    exact V.last _ (by omega)
  inspected id i lt mem := by
    obtain ⟨n, hn, rfl⟩ := List.mem_map.mp (R.bucket ▸ mem)
    rw [R.index]
    exact V.index_eq (R.length ▸ lt) hn

namespace DhtTable

/-- The cells represent the list model after every run. -/
theorem repr_run (own : DhtId) (calls : List TableCall) : Repr (run own calls) (Buckets.run own calls) := by
  induction calls using List.reverseRecOn with
  | nil => exact Repr.init
  | append_singleton calls call ih =>
    have pos : 0 < (run own calls).buckets.length := ih.length ▸ (Buckets.valid_run own calls).pos
    rw [run, Buckets.run, List.foldl_append, List.foldl_append]
    cases call with
    | update now id addr isAlive => exact ih.update pos own now id addr isAlive
    | search now id => exact (ih.search pos id).1

/-- The invariant holds after every run that never reports the own id as alive. -/
theorem reachable_invariant (own : DhtId) (calls : List TableCall)
    (foreign : ∀ call ∈ calls, Buckets.Foreign own call) : Invariant own (run own calls) :=
  (repr_run own calls).invariant (Buckets.valid_run own calls) (Buckets.run_own foreign)

/-- An id with all bytes but the first one zero. -/
def leadingId (n : UInt8) : DhtId := ⟨fun j => if j = 0 then n else 0⟩

/-- Reports of `n` nodes whose ids start with `1`, `2` and so on. -/
def reports (n : Nat) : List TableCall :=
  (List.range n).map fun i => .update 0 (leadingId (UInt8.ofNat (i + 1))) ⟨fun _ => 0⟩ true

/-- The invariant after sixteen reports, which split the table. -/
theorem reachable_invariant_reports :
    (run (leadingId 0) (reports 16)).buckets.length = 3 ∧
      Invariant (leadingId 0) (run (leadingId 0) (reports 16)) := by
  refine ⟨by decide +kernel, reachable_invariant _ _ fun call hc => ?_⟩
  obtain ⟨i, hi, rfl⟩ := List.mem_map.mp hc
  have lt := List.mem_range.mp hi
  intro _ e
  have e0 := congrArg (fun a : DhtId => (a.data 0).toNat) e
  have : (i + 1) % 2 ^ 8 = 0 := by simpa [leadingId] using e0
  omega

end DhtTable
end Nanotalk
