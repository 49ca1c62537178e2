import Nanotalk.Dht.Buckets

/-!
# The table on the heap refines the table of lists

`Repr t T` says that the heap of `t` holds one chain for each bucket, disjoint from the others, with
the nodes that `T` lists. C `dht_client_update` and `dht_client_search` preserve the relation and
do to the lists what `Buckets.update` and `Buckets.search` say (`Repr.update`, `Repr.search`), so
every fact about runs of the list model is one about the cells of the C program.
-/

namespace Nanotalk
open Glib Glib.Heap

/-- The data of a list of cells. -/
abbrev contents (k : List (Nat × DhtNode)) : List DhtNode := k.map Prod.snd

/-- The contents of a chain, cell by cell. -/
lemma contents_cons (a : Nat) (x : DhtNode) (k : List (Nat × DhtNode)) :
    contents ((a, x) :: k) = x :: contents k := rfl

lemma contents_append (k1 k2 : List (Nat × DhtNode)) :
    contents (k1 ++ k2) = contents k1 ++ contents k2 := List.map_append

/-- `T` is the table that a reader of `t` sees. -/
structure Repr (t : DhtTable) (T : Buckets) : Prop where
  cells : ∃ cs, Forest t.heap t.buckets cs ∧ T.lists = cs.map contents
  numBuckets : t.numBuckets = T.numBuckets
  numPeers : t.numPeers = T.numPeers

/-- The initial table. -/
lemma Repr.init : Repr DhtTable.init Buckets.init := ⟨⟨[[]], Forest.empty, rfl⟩, rfl, rfl⟩

variable {own id : DhtId} {addr : DhtAddress} {now : Int} {t : DhtTable} {T : Buckets}

/-- The walk over the buckets depends on their number only. -/
lemma bucketIndex_congr {β γ : Type} {metric : DhtId} {bs : List β} {cs : List γ}
    (len : bs.length = cs.length) (nbits : Nat) :
    bucketIndex metric nbits bs = bucketIndex metric nbits cs := by
  induction bs generalizing cs nbits with
  | nil =>
    obtain rfl : cs = [] := List.length_eq_zero_iff.mp len.symm
    rfl
  | cons b bs ih =>
    obtain ⟨c, cs, rfl⟩ := List.exists_cons_of_length_eq_add_one len.symm
    have len := Nat.succ.inj len
    cases bs with
    | nil =>
      obtain rfl : cs = [] := List.length_eq_zero_iff.mp len.symm
      rfl
    | cons b' bs =>
      obtain ⟨c', cs, rfl⟩ := List.exists_cons_of_length_eq_add_one len.symm
      unfold bucketIndex
      rw [ih len]

/-- The walk stops at a bucket. -/
lemma bucketIndex_lt {β : Type} (metric : DhtId) (nbits : Nat) (bs : List β) (ne : bs ≠ []) :
    nbits ≤ bucketIndex metric nbits bs ∧ bucketIndex metric nbits bs < nbits + bs.length := by
  induction bs generalizing nbits with
  | nil => exact absurd rfl ne
  | cons b bs ih =>
    cases bs with
    | nil => simp [bucketIndex]
    | cons b' bs =>
      unfold bucketIndex
      split
      · simp
      · obtain ⟨le, lt⟩ := ih (nbits + 1) (by simp)
        simp only [List.length_cons] at lt ⊢
        omega

/-! ## Lists cut at an index -/

section Cut

variable {β : Type} {P Q : List β} {p q : β}

lemma getD_middle (d : β) : (P ++ [p] ++ Q).getD P.length d = p := by
  simp

lemma set_middle : (P ++ [p] ++ Q).set P.length q = P ++ [q] ++ Q := by
  simp

/-- The entry in the middle is the first one to be modified. -/
lemma modifyFirst_append {f : β → β} {c : β → Bool} (no : ∀ a ∈ P, c a = false) (hit : c p = true) :
    modifyFirst c f (P ++ p :: Q) = P ++ f p :: Q := by
  induction P with
  | nil => simp [modifyFirst, hit]
  | cons a P ih =>
    have na : c a = false := no a List.mem_cons_self
    simp [modifyFirst, na, ih fun b hb => no b (List.mem_cons_of_mem _ hb)]

/-- A short list is its last two entries. -/
lemma lastTwo_of_le (le : P.length ≤ 2) : lastTwo P = P := by
  simp [lastTwo, Nat.sub_eq_zero_of_le le]

lemma lastTwo_length_le : (lastTwo P).length ≤ 2 := by
  simp only [lastTwo, List.length_drop]
  omega

/-- Only the last two elements of a prefix matter. -/
lemma lastTwo_append : lastTwo (lastTwo P ++ Q) = lastTwo (P ++ Q) := by
  simp only [lastTwo, List.length_append, List.length_drop, List.drop_append]
  rw [List.drop_drop]
  congr 2 <;> omega

end Cut

/-- The two tables cut at bucket `i`: before it the lists at `P` with the cells `A`, after it those
    at `Q` with the cells `B`. -/
structure Cut (t : DhtTable) (T : Buckets) (i : Nat) (P : List (Option Nat)) (p : Option Nat)
    (Q : List (Option Nat)) (A : List (List (Nat × DhtNode))) (k : List (Nat × DhtNode))
    (B : List (List (Nat × DhtNode))) : Prop where
  lenP : P.length = i
  lenA : A.length = i
  buckets : t.buckets = P ++ [p] ++ Q
  lists : T.lists = A.map contents ++ [contents k] ++ B.map contents
  forest : Forest t.heap (P ++ [p] ++ Q) (A ++ [k] ++ B)
  numBuckets : t.numBuckets = T.numBuckets
  numPeers : t.numPeers = T.numPeers

/-- Every bucket can be cut out. -/
lemma Repr.cut {i : Nat} (R : Repr t T) (lt : i < t.buckets.length) :
    ∃ P p Q A k B, Cut t T i P p Q A k B := by
  obtain ⟨cs, fo, e⟩ := R.cells
  obtain ⟨P, p, Q, A, k, B, e1, e2, len, allP, _, _⟩ := forall₂_cut fo.chains lt
  refine ⟨P, p, Q, A, k, B, len, by rw [← allP.length_eq, len], by simp [e1], by simp [e, e2], ?_,
    R.numBuckets, R.numPeers⟩
  simpa [← e1, ← e2] using fo

namespace Cut

variable {i : Nat} {P Q : List (Option Nat)} {p : Option Nat} {A B : List (List (Nat × DhtNode))}
  {k : List (Nat × DhtNode)}

/-- The pointers and the lists before the bucket are as many. -/
lemma len (C : Cut t T i P p Q A k B) : P.length = A.length := C.lenP.trans C.lenA.symm

/-- A table that is cut represents the same. -/
lemma repr (C : Cut t T i P p Q A k B) : Repr t T :=
  ⟨⟨A ++ [k] ++ B, C.buckets ▸ C.forest, by simp [C.lists]⟩, C.numBuckets, C.numPeers⟩

lemma data (C : Cut t T i P p Q A k B) : t.data i = p := by
  rw [DhtTable.data, C.buckets, ← C.lenP, getD_middle]

lemma list (C : Cut t T i P p Q A k B) : T.list i = contents k := by
  rw [Buckets.list, C.lists, ← C.lenA, ← List.length_map (f := contents), getD_middle]

lemma set_buckets (C : Cut t T i P p Q A k B) (q : Option Nat) :
    t.buckets.set i q = P ++ [q] ++ Q := by
  rw [C.buckets, ← C.lenP, set_middle]

lemma set_lists (C : Cut t T i P p Q A k B) (l : List DhtNode) :
    T.lists.set i l = A.map contents ++ [l] ++ B.map contents := by
  rw [C.lists, ← C.lenA, ← List.length_map (f := contents), set_middle]

lemma set_same (C : Cut t T i P p Q A k B) : T.lists.set i (contents k) = T.lists := by
  rw [C.set_lists, C.lists]

/-- The bucket is a segment that starts at `bucket->data`. -/
lemma seg (C : Cut t T i P p Q A k B) : p = Heap.first k none ∧ ∃ pr, Seg t.heap pr k none := by
  obtain ⟨⟨e, pr, sg, _⟩, _⟩ := C.forest.focus C.len
  exact ⟨e, pr, sg⟩

/-- A bucket has no more cells than the heap has allocated. -/
lemma length_le (C : Cut t T i P p Q A k B) : k.length ≤ t.heap.fresh := by
  obtain ⟨_, nd, sub⟩ := C.forest.focus C.len
  simpa using length_le_of_nodup nd fun a ha => C.forest.lt a (sub ha)

/-- The bucket gets another list. -/
lemma write {h : Heap DhtNode} {q : Option Nat} {l : List (Nat × DhtNode)} {n : Nat}
    (C : Cut t T i P p Q A k B) (fo : Forest h (P ++ [q] ++ Q) (A ++ [l] ++ B)) :
    Cut ⟨h, t.buckets.set i q, t.numBuckets, n⟩ ⟨T.lists.set i (contents l), T.numBuckets, n⟩ i
      P q Q A l B :=
  ⟨C.lenP, C.lenA, C.set_buckets q, C.set_lists (contents l), fo, C.numBuckets, rfl⟩

/-- The bucket gets another list that starts at the same cell. -/
lemma write_heap {h : Heap DhtNode} {l : List (Nat × DhtNode)} (C : Cut t T i P p Q A k B)
    (fo : Forest h (P ++ [p] ++ Q) (A ++ [l] ++ B)) :
    Cut { t with heap := h } { T with lists := T.lists.set i (contents l) } i P p Q A l B :=
  ⟨C.lenP, C.lenA, C.buckets, C.set_lists (contents l), fo, C.numBuckets, C.numPeers⟩

end Cut

/-- The number of buckets. -/
lemma Repr.length (R : Repr t T) : T.lists.length = t.buckets.length := by
  obtain ⟨cs, fo, e⟩ := R.cells
  rw [e, List.length_map, fo.chains.length_eq]

/-- The walk over the buckets stops at the same index. -/
lemma Repr.index (R : Repr t T) : bucketIndex (own.xor id) 0 t.buckets = T.index own id :=
  bucketIndex_congr R.length.symm 0

/-- What a reader of bucket `i` visits. -/
lemma Repr.bucket {i : Nat} (R : Repr t T) : t.bucket i = T.list i := by
  rcases Nat.lt_or_ge i t.buckets.length with lt | ge
  · obtain ⟨P, p, Q, A, k, B, C⟩ := R.cut lt
    obtain ⟨ep, pr, sg⟩ := C.seg
    rw [DhtTable.bucket, C.data, Heap.toList, ep, walk_spec sg C.length_le, C.list]
  · have geT : T.lists.length ≤ i := R.length ▸ ge
    have e0 : t.heap.toList none = [] := by
      unfold Heap.toList
      cases t.heap.fresh <;> rfl
    simp [DhtTable.bucket, DhtTable.data, Buckets.list, ge, geT, e0]

/-- What a reader of the table visits. -/
lemma Repr.nodes (R : Repr t T) : t.nodes = T.nodes := by
  have e : t.buckets.map t.heap.toList = T.lists := by
    apply List.ext_getElem (by simp [R.length])
    intro i h1 h2
    have eb := R.bucket (i := i)
    simp only [List.length_map] at h1
    simpa [DhtTable.bucket, DhtTable.data, Buckets.list, h1, h2] using eb
  rw [DhtTable.nodes, List.flatMap_def, e, Buckets.nodes]

/-! ## The loop over a bucket -/

/-- The link marked for replacement after a walk over `k`. -/
def lastDead (replaceable : Option Nat) (k : List (Nat × DhtNode)) : Option Nat :=
  k.foldl (fun r c => if c.2.isAlive then r else some c.1) replaceable

/-- The loop finds the first node with the given id, or counts the nodes and marks the last dead
    one. -/
lemma scan_spec (id : DhtId) (repl : Option Nat) (count : Nat) {h : Heap DhtNode}
    {pr : Option Nat} {k : List (Nat × DhtNode)} {fuel : Nat} (sg : Seg h pr k none) (le : k.length ≤ fuel) :
    DhtTable.scan h id fuel count repl (first k none) =
      match k.find? (·.2.id = id) with
      | some (a, x) => .found a x
      | none => .missing (count + k.length) (lastDead repl k) := by
  induction k generalizing pr repl fuel count with
  | nil => cases fuel <;> rfl
  | cons c k ih =>
    obtain ⟨a, x⟩ := c
    obtain ⟨hc, sg⟩ := sg
    cases fuel with
    | zero => cases le
    | succ fuel =>
      simp only [first_cons, DhtTable.scan, hc, List.find?_cons]
      by_cases e : x.id = id
      · simp [e]
      · simp only [e, if_false, decide_false]
        rw [ih _ _ sg (Nat.le_of_succ_le_succ le), List.length_cons, lastDead, lastDead,
          List.foldl_cons]
        simp [Nat.add_assoc, Nat.add_comm 1]

/-- Where no node is dead, none is replaced. -/
lemma replaceDead_none (new : DhtNode) {k : List (Nat × DhtNode)} {repl : Option Nat}
    (e : lastDead repl k = none) : repl = none ∧ Buckets.replaceDead new (contents k) = contents k ∧
      (contents k).all DhtNode.isAlive = true := by
  induction k generalizing repl with
  | nil => exact ⟨e, rfl, rfl⟩
  | cons c k ih =>
    obtain ⟨a, x⟩ := c
    obtain ⟨er, ek, al⟩ := ih (show lastDead (if x.isAlive then repl else some a) k = none from e)
    cases ex : x.isAlive with
    | false => simp [ex] at er
    | true =>
      refine ⟨by simpa [ex] using er, by simp [Buckets.replaceDead, ek, ex], ?_⟩
      rw [contents_cons, List.all_cons, al, ex]
      rfl

/-- The last dead node is the one that is replaced. -/
lemma replaceDead_some (new : DhtNode) {k : List (Nat × DhtNode)} {repl : Option Nat} {a : Nat}
    (e : lastDead repl k = some a) :
    (repl = some a ∧ (contents k).all DhtNode.isAlive = true) ∨
    ∃ as x bs, k = as ++ (a, x) :: bs ∧ (contents k).all DhtNode.isAlive = false ∧
      Buckets.replaceDead new (contents k) = contents (as ++ (a, new) :: bs) := by
  induction k generalizing repl with
  | nil => exact .inl ⟨e, rfl⟩
  | cons c k ih =>
    obtain ⟨b, x⟩ := c
    rcases ih (show lastDead (if x.isAlive then repl else some b) k = some a from e) with ⟨er, al⟩ | ⟨as, y, bs, ek, al, er⟩
    · cases ex : x.isAlive with
      | false =>
        simp only [ex, Bool.false_eq_true, if_false, Option.some.injEq] at er
        subst er
        refine .inr ⟨[], x, k, rfl, by simp [ex], ?_⟩
        have here : (contents k).all DhtNode.isAlive = true ∧ ¬ x.isAlive = true := ⟨al, by simp [ex]⟩
        rw [contents_cons, Buckets.replaceDead, if_pos here]
        rfl
      | true =>
        refine .inl ⟨by simpa [ex] using er, ?_⟩
        rw [contents_cons, List.all_cons, al, ex]
        rfl
    · refine .inr ⟨(b, x) :: as, y, bs, by simp [ek], ?_, ?_⟩
      · rw [contents_cons, List.all_cons, al, Bool.and_false]
      · rw [contents_cons, Buckets.replaceDead, if_neg (by simp [al]), er]
        rfl

/-! ## Splitting a bucket -/

/-- A heap with one more empty chain. -/
lemma forest_nil {h : Heap DhtNode} {P : List (Option Nat)} {A : List (List (Nat × DhtNode))}
    (fo : Forest h P A) : Forest h (P ++ [none]) (A ++ [[]]) := by
  obtain ⟨chains, nd, lt⟩ := fo
  have eF : (A ++ [[]]).flatten = A.flatten := by simp
  refine ⟨?_, by rwa [eF], by rwa [eF]⟩
  rw [eF]
  exact (forall₂_append chains.length_eq).mpr ⟨chains, .cons .nil .nil⟩

/-- One round of the loop `Redistribute nodes`: a link leaves the old bucket, and the new one is
    left with the last link moved before and this one. -/
lemma move_link {h : Heap DhtNode} {P : List (Option Nat)} {A : List (List (Nat × DhtNode))}
    {data first : Option Nat} {as bs l : List (Nat × DhtNode)} {a : Nat} {x : DhtNode}
    (fo : Forest h (P ++ [data] ++ [first]) (A ++ [as ++ (a, x) :: bs] ++ [l]))
    (len : P.length = A.length) (two : l.length ≤ 2) :
    ∃ l', contents l' = lastTwo (contents l ++ [x]) ∧ final none l' = some a ∧
      Forest ((h.removeLink data a).2.concat (final none l) (some a)).2
        (P ++ [(h.removeLink data a).1] ++
          [((h.removeLink data a).2.concat (final none l) (some a)).1])
        (A ++ [as ++ bs] ++ [l']) := by
  -- the chain that `last` is the head of
  obtain ⟨m, em, el, fo⟩ : ∃ m, lastTwo (contents l ++ [x]) = contents m ++ [x] ∧
      final none m = final none l ∧
      Forest h (P ++ [data] ++ [final none l]) (A ++ [as ++ (a, x) :: bs] ++ [m]) := by
    have lenP : (P ++ [data]).length = (A ++ [as ++ (a, x) :: bs]).length := by simp [len]
    match l, two with
    | [], _ =>
      obtain ⟨ch, _⟩ := Forest.focus (Q := []) (B := []) (by simpa using fo) lenP
      exact ⟨[], rfl, rfl, by rw [ch.1] at fo; exact fo⟩
    | [c], _ =>
      obtain ⟨ch, _⟩ := Forest.focus (Q := []) (B := []) (by simpa using fo) lenP
      exact ⟨[c], rfl, rfl, by rw [ch.1] at fo; exact fo⟩
    | [c, d], _ =>
      have fo := Forest.tail (Q := []) (B := []) (by simpa using fo) lenP
      exact ⟨[d], rfl, rfl, by simpa using fo⟩
  have fo := fo.removeLink len
  have fo : Forest (h.removeLink data a).2
      ((P ++ [(h.removeLink data a).1]) ++ [final none l, some a] ++ [])
      ((A ++ [as ++ bs]) ++ [m, [(a, x)]] ++ []) := by simpa using fo
  refine ⟨m ++ [(a, x)], by simp [em], by simp, ?_⟩
  have fo := fo.concat (by simp [len])
  simpa using fo

/-- The loop `Redistribute nodes`: the nodes that differ from the own id in bit `nbits` stay, and of
    the others the last two remain reachable in the new bucket. -/
lemma redistribute_spec (own : DhtId) (nbits count : Nat) (as l : List (Nat × DhtNode)) {fuel : Nat} {P : List (Option Nat)}
    {A : List (List (Nat × DhtNode))} {h : Heap DhtNode} {data first : Option Nat}
    {bs : List (Nat × DhtNode)}
    (fo : Forest h (P ++ [data] ++ [first]) (A ++ [as ++ bs] ++ [l]))
    (len : P.length = A.length) (two : l.length ≤ 2) (le : bs.length ≤ fuel)
    {r : Heap DhtNode × Option Nat × Option Nat × Nat}
    (er : r = DhtTable.redistribute own nbits fuel h data first (final none l) count
      (Heap.first bs none)) :
    ∃ d l', Forest r.1 (P ++ [r.2.1] ++ [r.2.2.1]) (A ++ [d] ++ [l']) ∧
      contents d = contents as ++ Buckets.differ own nbits (contents bs) ∧
      contents l' = lastTwo (contents l ++ Buckets.same own nbits (contents bs)) ∧
      r.2.2.2 = count + (Buckets.same own nbits (contents bs)).length := by
  induction bs generalizing fuel count h data first as l with
  | nil =>
    subst er
    have e : DhtTable.redistribute own nbits fuel h data first (final none l) count none =
        (h, data, first, count) := by cases fuel <;> rfl
    rw [first_nil, e]
    refine ⟨as, l, by simpa using fo, by simp [Buckets.differ], ?_, rfl⟩
    simp [Buckets.same, lastTwo_of_le, two]
  | cons c bs ih =>
    obtain ⟨a, x⟩ := c
    cases fuel with
    | zero => cases le
    | succ fuel =>
      have le := Nat.le_of_succ_le_succ le
      obtain ⟨ch, _⟩ := Forest.focus (by simpa using fo) len
      obtain ⟨pr, hc⟩ := ch.cell
      simp only [first_cons, DhtTable.redistribute, hc] at er
      cases eb : (x.id.xor own).bit nbits with
      | false =>
        simp only [eb, Bool.not_false, if_true] at er
        obtain ⟨l1, e1, f1, fo⟩ := move_link fo len two
        have er : r = DhtTable.redistribute own nbits fuel
            ((h.removeLink data a).2.concat (final none l) (some a)).2 (h.removeLink data a).1
            ((h.removeLink data a).2.concat (final none l) (some a)).1 (final none l1) (count + 1)
            (Heap.first bs none) := by rw [f1]; exact er
        have two1 : l1.length ≤ 2 := by
          have := lastTwo_length_le (P := contents l ++ [x])
          rwa [← e1, contents, List.length_map] at this
        obtain ⟨d, l', fo, ed, el, en⟩ := ih _ _ _ fo two1 le er
        refine ⟨d, l', fo, ?_, ?_, ?_⟩
        · rw [ed, contents_cons, Buckets.differ_cons_same eb]
        · rw [el, e1, lastTwo_append, contents_cons, Buckets.same_cons_same eb, List.append_assoc,
            List.singleton_append]
        · rw [en, contents_cons, Buckets.same_cons_same eb, List.length_cons]
          omega
      | true =>
        simp only [eb, Bool.not_true, Bool.false_eq_true, if_false] at er
        have fo : Forest h (P ++ [data] ++ [first]) (A ++ [(as ++ [(a, x)]) ++ bs] ++ [l]) := by
          simpa using fo
        obtain ⟨d, l', fo, ed, el, en⟩ := ih _ _ _ fo two le er
        refine ⟨d, l', fo, ?_, ?_, ?_⟩
        · rw [ed, contents_append, contents_cons, contents_cons, Buckets.differ_cons_differ eb,
            List.append_assoc]
          rfl
        · rw [el, contents_cons, Buckets.same_cons_differ eb]
        · rw [en, contents_cons, Buckets.same_cons_differ eb]

/-- One round of the loop `Split buckets`, on the last bucket. -/
lemma Repr.split_round (R : Repr t T) (own : DhtId) {nbits : Nat} (e : nbits + 1 = t.buckets.length)
    {h : Heap DhtNode} {data first : Option Nat} {count : Nat}
    (er : (h, data, first, count) = DhtTable.redistribute own nbits t.heap.fresh t.heap (t.data nbits)
      none none 0 (t.data nbits)) :
    Repr ⟨h, t.buckets.set nbits data ++ [first], guintInc t.numBuckets, t.numPeers⟩
      ⟨T.lists.set nbits (Buckets.differ own nbits (T.list nbits)) ++
        [lastTwo (Buckets.same own nbits (T.list nbits))], guintInc T.numBuckets, T.numPeers⟩ ∧
    count = (Buckets.same own nbits (T.list nbits)).length := by
  obtain ⟨P, p, Q, A, k, B, C⟩ := R.cut (i := nbits) (by omega)
  obtain ⟨ep, _⟩ := C.seg
  -- nothing comes after the bucket
  have sz := congrArg List.length C.buckets
  have szT := congrArg List.length C.lists
  have lenP := C.lenP
  have lenA := C.lenA
  have len := R.length
  simp only [List.length_append, List.length_singleton, List.length_map] at sz szT
  obtain rfl : Q = [] := List.length_eq_zero_iff.mp (by omega)
  obtain rfl : B = [] := List.length_eq_zero_iff.mp (by omega)
  obtain ⟨d, l, fo, ed, el, en⟩ := redistribute_spec own nbits 0 [] []
    (by simpa using forest_nil C.forest) C.len (by simp) C.length_le
    (show (h, data, first, count) = _ by rw [er, C.data, ep, final_nil])
  rw [Nat.zero_add] at en
  rw [C.list, C.set_buckets, C.set_lists]
  refine ⟨⟨⟨A ++ [d] ++ [l], ?_, ?_⟩, congrArg guintInc C.numBuckets, C.numPeers⟩, en⟩
  · rw [List.append_nil]
    exact fo
  · rw [List.map_append, List.map_append, List.map_singleton, List.map_singleton, ed, el]
    simp

/-- The loop `Split buckets`. -/
lemma Repr.split (R : Repr t T) (own : DhtId) (fuel count : Nat) {nbits : Nat} (lt : nbits < t.buckets.length) :
    Repr (t.split own fuel nbits count) (T.split own fuel nbits count) := by
  induction fuel generalizing t T nbits count with
  | zero => exact R
  | succ fuel ih =>
    unfold DhtTable.split Buckets.split
    rw [R.length]
    split
    · rename_i full
      obtain ⟨⟨h, data, first, c⟩, er⟩ : ∃ r, r = DhtTable.redistribute own nbits t.heap.fresh
        t.heap (t.data nbits) none none 0 (t.data nbits) := ⟨_, rfl⟩
      obtain ⟨R', ec⟩ := R.split_round own (by omega) er
      dsimp only
      rw [← er, ← ec]
      apply ih
      · exact R'
      · simpa using lt
    · exact R

/-! ## `dht_client_update` -/

/-- The node with the given id is found at its link. -/
lemma find_some {k : List (Nat × DhtNode)} {a : Nat} {x : DhtNode}
    (e : k.find? (·.2.id = id) = some (a, x)) :
    ∃ as bs, k = as ++ (a, x) :: bs ∧ (contents k).any (·.id = id) = true ∧
      ∀ f, modifyFirst (·.id = id) f (contents k) = contents (as ++ (a, f x) :: bs) := by
  obtain ⟨ex, as, bs, rfl, no⟩ := List.find?_eq_some_iff_append.mp e
  refine ⟨as, bs, rfl, ?_, fun f => ?_⟩
  · simp_all
  · rw [contents_append, contents_cons, modifyFirst_append _ (by simpa using ex), contents_append,
      contents_cons]
    intro n hn
    obtain ⟨c, hc, rfl⟩ := List.mem_map.mp hn
    simpa using no c hc

/-- No node has the given id. -/
lemma find_none {k : List (Nat × DhtNode)} (e : k.find? (·.2.id = id) = none) :
    (contents k).any (·.id = id) = false := by
  simpa [List.find?_eq_none] using e

/-- Overwriting the node of a link. -/
lemma Cut.setData {i a : Nat} {x y : DhtNode} {as bs : List (Nat × DhtNode)}
    {P Q : List (Option Nat)} {p : Option Nat} {A B : List (List (Nat × DhtNode))}
    (C : Cut t T i P p Q A (as ++ (a, x) :: bs) B) :
    Repr { t with heap := t.heap.setData a y }
      { T with lists := T.lists.set i (contents (as ++ (a, y) :: bs)) } :=
  (C.write_heap (C.forest.setData C.len y)).repr

/-- A node is inserted into a bucket. -/
lemma Repr.insert {i : Nat} (R : Repr t T) (lt : i < t.buckets.length) (x : DhtNode)
    (numPeers : Nat) :
    Repr ⟨(t.heap.prepend (t.data i) x).2, t.buckets.set i (t.heap.prepend (t.data i) x).1,
        t.numBuckets, numPeers⟩
      ⟨T.lists.set i (x :: T.list i), T.numBuckets, numPeers⟩ := by
  obtain ⟨P, p, Q, A, k, B, C⟩ := R.cut lt
  have C' := C.write (n := numPeers) (C.forest.prepend C.len x)
  rw [C.data, C.list]
  exact C'.repr

/-- Where the loop over a bucket finds no node with the id, it counts the nodes. -/
lemma Repr.scan_missing {i count : Nat} {replaceable : Option Nat} (R : Repr t T)
    (lt : i < t.buckets.length)
    (es : DhtTable.scan t.heap id t.heap.fresh 0 none (t.data i) = .missing count replaceable) :
    count = (T.list i).length ∧ id ∉ (T.list i).map DhtNode.id := by
  obtain ⟨P, p, Q, A, k, B, C⟩ := R.cut lt
  obtain ⟨ep, pr, sg⟩ := C.seg
  rw [C.data, ep, scan_spec id none 0 sg C.length_le] at es
  rw [C.list]
  cases ef : k.find? (·.2.id = id) with
  | some c =>
    rw [ef] at es
    cases es
  | none =>
    rw [ef] at es
    cases es
    refine ⟨by simp, ?_⟩
    simpa using find_none ef

/-- C `dht_client_update` does to the lists what `Buckets.update` says. -/
theorem Repr.update (R : Repr t T) (ne : 0 < t.buckets.length) (own : DhtId) (now : Int)
    (id : DhtId) (addr : DhtAddress) (isAlive : Bool) :
    Repr (t.update own now id addr isAlive) (T.update own now id addr isAlive) := by
  have lt : T.index own id < t.buckets.length := by
    have := (bucketIndex_lt (own.xor id) 0 t.buckets (List.length_pos_iff.mp ne)).2
    rw [R.index] at this
    omega
  obtain ⟨P, p, Q, A, k, B, C⟩ := R.cut lt
  obtain ⟨ep, pr, sg⟩ := C.seg
  have es := scan_spec id none 0 sg C.length_le
  unfold DhtTable.update Buckets.update
  rw [← ep] at es
  simp only [R.index, C.data, C.list, es]
  cases ef : k.find? (·.2.id = id) with
  | some c =>
    obtain ⟨a, x⟩ := c
    obtain ⟨as, bs, rfl, hit, em⟩ := find_some ef
    simp only [hit, if_true, em]
    cases isAlive with
    | true => exact C.setData
    | false =>
      simp only [Bool.false_eq_true, if_false, Buckets.touch]
      split
      · exact C.setData
      · rw [C.set_same]
        exact R
  | none =>
    simp only [find_none ef, Bool.false_eq_true, if_false, Nat.zero_add, contents, List.length_map]
    cases isAlive with
    | false => exact R
    | true =>
      simp only [Bool.not_true, Bool.false_eq_true, if_false]
      split
      · -- the bucket is full
        cases ed : lastDead none k with
        | none =>
          obtain ⟨_, er, _⟩ := replaceDead_none ⟨id, addr, now, true⟩ ed
          rw [er, C.set_same]
          exact R
        | some a =>
          rcases replaceDead_some ⟨id, addr, now, true⟩ ed with ⟨e, _⟩ | ⟨as, x, bs, ek, _, er⟩
          · cases e
          · subst ek
            rw [er]
            exact C.setData
      · -- insertion
        have ins := R.insert lt ⟨id, addr, now, true⟩ (guintInc t.numPeers)
        rw [C.data, C.list] at ins
        have R' := ins.split own (8 * DHT_ID_SIZE) (k.length + 1) (by simpa using lt)
        rw [C.numPeers] at R' ⊢
        exact R'

/-! ## `dht_client_search` -/

/-- The loop over the nodes of a bucket: what precedes `bs` in the bucket has been copied. -/
lemma Cut.visit (now : Int) (as : List (Nat × DhtNode)) (nodes : List MsgNode) {i fuel : Nat}
    {P Q : List (Option Nat)} {p : Option Nat} {A B : List (List (Nat × DhtNode))}
    {bs : List (Nat × DhtNode)}
    (C : Cut t T i P p Q A (as ++ bs) B) (le : bs.length ≤ fuel)
    {r : DhtTable × List MsgNode × Bool}
    (er : r = DhtTable.visit now i fuel t nodes (Heap.first bs none))
    {v : List DhtNode × Nat × List MsgNode × Bool}
    (ev : v = Buckets.visitList now T.numPeers nodes (contents bs)) :
    Repr r.1 { T with lists := T.lists.set i (contents as ++ v.1), numPeers := v.2.1 } ∧
      r.2 = v.2.2 ∧ r.1.buckets.length = t.buckets.length := by
  induction bs generalizing t T fuel nodes as p v with
  | nil =>
    have e : DhtTable.visit now i fuel t nodes none = (t, nodes, false) := by cases fuel <;> rfl
    rw [first_nil, e] at er
    subst er ev
    refine ⟨?_, rfl, rfl⟩
    have es := C.set_same
    rw [contents_append] at es
    rw [show (Buckets.visitList now T.numPeers nodes (contents [])).1 = contents [] from rfl, es]
    exact C.repr
  | cons c bs ih =>
    obtain ⟨a, x⟩ := c
    cases fuel with
    | zero => cases le
    | succ fuel =>
      have le := Nat.le_of_succ_le_succ le
      obtain ⟨ch, _⟩ := C.forest.focus C.len
      obtain ⟨pr, hc⟩ := ch.cell
      simp only [first_cons, DhtTable.visit, hc] at er
      simp only [contents_cons, Buckets.visitList] at ev
      by_cases el : DhtTable.Eligible now x
      · simp only [el, if_true] at er ev
        by_cases full : (nodes ++ [MsgNode.mk x.id x.addr]).length = DHT_NODE_COUNT
        · simp only [full, if_true] at er ev
          subst er ev
          refine ⟨?_, rfl, rfl⟩
          have es := C.set_same
          rw [contents_append, contents_cons] at es
          rw [es]
          exact C.repr
        · simp only [full, if_false] at er ev
          have C' : Cut t T i P p Q A ((as ++ [(a, x)]) ++ bs) B := by simpa using C
          obtain ⟨R, e, len⟩ := ih _ _ C' le er
            (v := Buckets.visitList now T.numPeers (nodes ++ [⟨x.id, x.addr⟩]) (contents bs)) rfl
          subst ev
          refine ⟨?_, e, len⟩
          rw [contents_append, List.append_assoc] at R
          exact R
      · simp only [el, if_false] at er ev
        have C' := C.write (n := guintDec t.numPeers) (C.forest.deleteLink C.len)
        rw [C.data] at er
        obtain ⟨R, e, len⟩ := ih _ _ (v := v) C' le er (by simp only [C.numPeers, ev])
        refine ⟨?_, e, by simpa using len⟩
        rw [List.set_set] at R
        exact R

/-- The loop over the nodes of a bucket, from its first node on. -/
lemma Repr.visit {i : Nat} (R : Repr t T) (lt : i < t.buckets.length) (now : Int)
    (nodes : List MsgNode) :
    Repr (t.visit now i t.heap.fresh nodes (t.data i)).1 (T.visit now i nodes).1 ∧
      (t.visit now i t.heap.fresh nodes (t.data i)).2 = (T.visit now i nodes).2 ∧
      (t.visit now i t.heap.fresh nodes (t.data i)).1.buckets.length = t.buckets.length := by
  obtain ⟨P, p, Q, A, k, B, C⟩ := R.cut lt
  obtain ⟨ep, _⟩ := C.seg
  unfold Buckets.visit
  rw [C.list]
  exact Cut.visit now [] nodes C C.length_le (by rw [← ep, ← C.data]) rfl

/-- The loop over the buckets. -/
lemma Repr.searchLoop {metric : DhtId} {fuel nbits : Nat} {nodes : List MsgNode} {dir : Bool}
    (R : Repr t T) (lt : nbits < t.buckets.length) :
    Repr (t.searchLoop metric now fuel nodes nbits dir).1
      (T.searchLoop metric now fuel nodes nbits dir).1 ∧
    (t.searchLoop metric now fuel nodes nbits dir).2 =
      (T.searchLoop metric now fuel nodes nbits dir).2 := by
  induction fuel generalizing t T nodes nbits dir with
  | zero => exact ⟨R, rfl⟩
  | succ fuel ih =>
    -- the bucket, visited or passed over
    obtain ⟨⟨t', nodes', full⟩, er⟩ : ∃ r, r = if metric.bit nbits = dir then
      t.visit now nbits t.heap.fresh nodes (t.data nbits) else (t, nodes, false) := ⟨_, rfl⟩
    obtain ⟨⟨T', v⟩, eV⟩ : ∃ V, V = if metric.bit nbits = dir then
      T.visit now nbits nodes else (T, nodes, false) := ⟨_, rfl⟩
    have here : Repr t' T' ∧ (nodes', full) = v ∧ t'.buckets.length = t.buckets.length := by
      split at er
      · rename_i on
        rw [if_pos on] at eV
        obtain ⟨R', e, len⟩ := R.visit lt now nodes
        rw [← er, ← eV] at R' e
        rw [← er] at len
        exact ⟨R', e, len⟩
      · rename_i off
        rw [if_neg off] at eV
        cases er
        cases eV
        exact ⟨R, rfl, rfl⟩
    obtain ⟨R', rfl, len⟩ := here
    rw [DhtTable.searchLoop_succ er, Buckets.searchLoop_succ eV, R'.length]
    cases en : if full then none else DhtTable.nextBucket t'.buckets.length nbits dir with
    | none => exact ⟨R', rfl⟩
    | some next =>
      obtain ⟨-, en⟩ := Option.ite_none_left_eq_some.mp en
      exact ih R' (DhtTable.nextBucket_lt (len ▸ lt) en)

/-- C `dht_client_search` does to the lists what `Buckets.search` says, and finds the same nodes. -/
theorem Repr.search (R : Repr t T) (ne : 0 < t.buckets.length) (id : DhtId) :
    Repr (t.search own now id).1 (T.search own now id).1 ∧
      (t.search own now id).2 = (T.search own now id).2 := by
  unfold DhtTable.search Buckets.search
  rw [R.length]
  exact R.searchLoop ne

end Nanotalk
