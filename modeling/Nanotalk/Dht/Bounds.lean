import Nanotalk.Dht.Validity

/-!
# Bounds of the routing table

C `dht_client_update` and `dht_client_search` read bit `nbits` of ids with no check of `nbits`, and
split the last bucket as long as it is full. `Checked` has the same functions as a C program that is
undefined (`none`) where an id is read out of its bounds, where a link is followed that is not in the
heap, and where a loop goes on beyond the number of rounds that it is given.

* `Crowded`: the nodes that a round of the loop `Split buckets` counts are different ids that share
  `nbits` bits, and so there are at most two of them where only one bit is left.
* `table_bounded`: whatever arrives, nothing is undefined, and there are no more buckets than bits.
-/

namespace Nanotalk
open Glib

/-- What reaches the routing table: datagrams with any source ids, timeouts of queries, and
    searches. -/
inductive TableEvent where
  | lookupReq (updateTime searchTime : Int) (addr : DhtAddress) (srcid dstid : DhtId)
  | lookupRes (updateTime : Int) (addr : DhtAddress) (srcid : DhtId)
  | queryTimeout (updateTime : Int) (addr : DhtAddress) (id : DhtId)
  | search (searchTime : Int) (id : DhtId)

/-- The calls that are made. C `dht_client_receive_cb` ignores the own source id. -/
def TableEvent.calls (own : DhtId) : TableEvent → List TableCall
  | lookupReq updateTime searchTime addr srcid dstid =>
    if srcid = own then [] else [.update updateTime srcid addr true, .search searchTime dstid]
  | lookupRes updateTime addr srcid => if srcid = own then [] else [.update updateTime srcid addr true]
  | queryTimeout updateTime addr id => [.update updateTime id addr false]
  | search searchTime id => [.search searchTime id]

/-! ## The program with its checks -/

namespace Checked

/-- C `data[n / 8] & (0x80 >> n % 8)`. -/
def bit (a : DhtId) (n : Nat) : Option Bool :=
  if n < 8 * DHT_ID_SIZE then some (a.bit n) else none

/-- `bucketIndex` with its checks. -/
def bucketIndex {β : Type} (metric : DhtId) (nbits : Nat) : List β → Option Nat
  | _ :: b :: bs => do
    if ← bit metric nbits then some nbits else bucketIndex metric (nbits + 1) (b :: bs)
  | _ => some nbits

/-- `DhtTable.redistribute` with its checks. -/
def redistribute (own : DhtId) (nbits : Nat) :
    Nat → Heap DhtNode → Option Nat → Option Nat → Option Nat → Nat → Option Nat →
      Option (Heap DhtNode × Option Nat × Option Nat × Nat)
  | _, h, data, first, _, count, none => some (h, data, first, count)
  | 0, _, _, _, _, _, some _ => none
  | fuel + 1, h, data, first, last, count, some link => do
    let c ← h.cell link
    if !(← bit (c.data.id.xor own) nbits) then
      let (data, h) := h.removeLink data link
      let (first, h) := h.concat last (some link)
      redistribute own nbits fuel h data first (some link) (count + 1) c.next
    else redistribute own nbits fuel h data first last count c.next

/-- `DhtTable.split` with its checks. -/
def split (own : DhtId) : Nat → DhtTable → Nat → Nat → Option DhtTable
  | fuel, t, nbits, count =>
    if count = DHT_NODE_COUNT ∧ ¬ nbits + 1 < t.buckets.length then
      match fuel with
      | 0 => none
      | fuel + 1 => do
        let data := t.data nbits
        let (h, data, first, count) ←
          redistribute own nbits t.heap.fresh t.heap data none none 0 data
        split own fuel
          { t with
            heap := h
            buckets := t.buckets.set nbits data ++ [first]
            numBuckets := guintInc t.numBuckets }
          (nbits + 1) count
    else some t

/-- C `dht_client_update` with its checks. On the ways through it that insert no node, no id is read
    after the walk over the buckets. -/
def update (own : DhtId) (now : Int) (t : DhtTable) (id : DhtId) (addr : DhtAddress)
    (isAlive : Bool) : Option DhtTable := do
  let metric := own.xor id
  let nbits ← bucketIndex metric 0 t.buckets
  match DhtTable.scan t.heap id t.heap.fresh 0 none (t.data nbits) with
  | .missing count _ =>
    if isAlive ∧ count ≠ DHT_NODE_COUNT then
      -- Insert new node
      let (data, h) := t.heap.prepend (t.data nbits) ⟨id, addr, now, true⟩
      split own (8 * DHT_ID_SIZE)
        { t with
          heap := h
          buckets := t.buckets.set nbits data
          numPeers := guintInc t.numPeers }
        nbits (count + 1)
    else some (t.update own now id addr isAlive)
  | .found .. => some (t.update own now id addr isAlive)

/-- `DhtTable.searchLoop` with its checks, the bucket and `nbits` apart. -/
def searchLoop (metric : DhtId) (now : Int) :
    Nat → DhtTable → List MsgNode → Option Nat → Nat → Bool → Option (DhtTable × List MsgNode)
  | _, t, nodes, none, _, _ => some (t, nodes)
  | 0, _, _, some _, _, _ => none
  | fuel + 1, t, nodes, some bucket, nbits, dir => do
    let (t, nodes, full) :=
      if (← bit metric nbits) = dir then t.visit now bucket t.heap.fresh nodes (t.data bucket)
      else (t, nodes, false)
    if full then some (t, nodes)
    else if dir then
      if bucket + 1 < t.buckets.length then
        searchLoop metric now fuel t nodes (some (bucket + 1)) (guintInc nbits) true
      else searchLoop metric now fuel t nodes (some bucket) nbits false
    else
      let prev := match bucket with
        | 0 => none
        | n + 1 => some n
      searchLoop metric now fuel t nodes prev (guintDec nbits) false

/-- C `dht_client_search` with its checks. -/
def search (own : DhtId) (now : Int) (t : DhtTable) (id : DhtId) :
    Option (DhtTable × List MsgNode) :=
  searchLoop (own.xor id) now (2 * t.buckets.length) t [] (some 0) 0 true

/-- The table after a call. -/
def step (own : DhtId) (t : DhtTable) : TableCall → Option DhtTable
  | .update now id addr isAlive => update own now t id addr isAlive
  | .search now id => (search own now t id).map Prod.fst

/-- The table after a sequence of calls on the initial table. -/
def run (own : DhtId) (calls : List TableCall) : Option DhtTable :=
  calls.foldlM (step own) DhtTable.init

/-! ## The walk over the buckets -/

section Defined

variable {own metric id : DhtId} {addr : DhtAddress} {now : Int} {t : DhtTable} {T : Buckets}
  {nbits : Nat}

lemma bit_eq (a : DhtId) (lt : nbits < 8 * DHT_ID_SIZE) : bit a nbits = some (a.bit nbits) :=
  if_pos lt

/-- A bit is read only where another bucket follows. -/
lemma bucketIndex_eq {β : Type} (nbits : Nat) {bs : List β}
    (small : nbits + bs.length ≤ 8 * DHT_ID_SIZE) :
    bucketIndex metric nbits bs = some (Nanotalk.bucketIndex metric nbits bs) := by
  induction bs generalizing nbits with
  | nil => rfl
  | cons b bs ih =>
    cases bs with
    | nil => rfl
    | cons b' bs =>
      rw [List.length_cons] at small
      have rest := ih (nbits + 1) (by omega)
      rw [bucketIndex, Nanotalk.bucketIndex, bit_eq _ (by omega), Option.bind_eq_bind, Option.bind_some,
        rest]
      split <;> rfl

/-! ## Splitting a bucket -/

/-- The loop `Redistribute nodes` goes over the links of the bucket. -/
lemma redistribute_eq (own : DhtId) (count : Nat) (as l : List (Nat × DhtNode)) {fuel : Nat}
    {P : List (Option Nat)} {A : List (List (Nat × DhtNode))} {h : Heap DhtNode}
    {data first : Option Nat} {bs : List (Nat × DhtNode)}
    (fo : Heap.Forest h (P ++ [data] ++ [first]) (A ++ [as ++ bs] ++ [l])) (len : P.length = A.length)
    (two : l.length ≤ 2) (le : bs.length ≤ fuel) (lt : nbits < 8 * DHT_ID_SIZE) :
    redistribute own nbits fuel h data first (Heap.final none l) count (Heap.first bs none) =
      some (DhtTable.redistribute own nbits fuel h data first (Heap.final none l) count
        (Heap.first bs none)) := by
  induction bs generalizing fuel h data first count as l with
  | nil =>
    unfold redistribute DhtTable.redistribute
    cases fuel <;> rfl
  | cons b bs ih =>
    obtain ⟨a, x⟩ := b
    cases fuel with
    | zero => cases le
    | succ fuel =>
      have le := Nat.le_of_succ_le_succ le
      obtain ⟨ch, _⟩ := Heap.Forest.focus (by simpa using fo) len
      obtain ⟨pr, hc⟩ := ch.cell
      simp only [Heap.first_cons, redistribute, DhtTable.redistribute, hc, bit_eq _ lt,
        Option.bind_eq_bind, Option.bind_some]
      cases eb : (x.id.xor own).bit nbits with
      | false =>
        obtain ⟨l1, e1, f1, fo⟩ := move_link fo len two
        have two1 : l1.length ≤ 2 := by
          have le := lastTwo_length_le (P := contents l ++ [x])
          rwa [← e1, contents, List.length_map] at le
        have rest := ih (count + 1) _ _ fo two1 le
        rw [f1] at rest
        exact rest
      | true =>
        have fo : Heap.Forest h (P ++ [data] ++ [first]) (A ++ [(as ++ [(a, x)]) ++ bs] ++ [l]) := by
          simpa using fo
        exact ih count _ _ fo two le

/-- The loop `Redistribute nodes`, on the last bucket. -/
lemma redistribute_round (own : DhtId) (nbits : Nat) (R : Repr t T) (last : nbits + 1 = t.buckets.length)
    (lt : nbits < 8 * DHT_ID_SIZE) :
    redistribute own nbits t.heap.fresh t.heap (t.data nbits) none none 0 (t.data nbits) =
      some (DhtTable.redistribute own nbits t.heap.fresh t.heap (t.data nbits) none none 0
        (t.data nbits)) := by
  obtain ⟨P, p, Q, A, k, B, C⟩ := R.cut (i := nbits) (by omega)
  obtain ⟨ep, _⟩ := C.seg
  have sz := congrArg List.length C.buckets
  have lenP := C.lenP
  simp only [List.length_append, List.length_singleton] at sz
  obtain rfl : Q = [] := List.length_eq_zero_iff.mp (by omega)
  have szB := C.forest.chains.length_eq
  simp only [List.length_append, List.length_singleton, List.length_nil, C.len] at szB
  obtain rfl : B = [] := List.length_eq_zero_iff.mp (by omega)
  have round := redistribute_eq own 0 [] [] (by simpa using forest_nil C.forest) C.len
    (by simp) C.length_le lt
  rw [Heap.final_nil, ← ep] at round
  rw [C.data]
  exact round

/-- `count` nodes with different ids that share `nbits` bits with the own id. -/
def Crowded (own : DhtId) (nbits count : Nat) : Prop :=
  ∃ l : List DhtNode, (l.map DhtNode.id).Nodup ∧
    (∀ n ∈ l, Bytes.Agree nbits n.id.data own.data) ∧ l.length = count

/-- A bucket that is to be split is not among the deepest ones. -/
lemma Crowded.shallow (crowd : Crowded own nbits DHT_NODE_COUNT) : nbits + 1 < 8 * DHT_ID_SIZE := by
  obtain ⟨l, nodup, agree, count⟩ := crowd
  by_contra deep
  have two := Buckets.agree_length_le_two nodup agree (Nat.not_lt.mp deep)
  rw [count] at two
  exact absurd two (by decide)

/-- The nodes that are counted in a round share one bit more. -/
lemma Crowded.same (S : Buckets.Sorted own T) (lt : nbits < T.lists.length) :
    Crowded own (nbits + 1) (Buckets.same own nbits (T.list nbits)).length := by
  refine ⟨_, (S.nodup nbits).sublist (List.filter_sublist.map _), fun n hn => ?_, rfl⟩
  obtain ⟨hn, same⟩ := List.mem_filter.mp hn
  refine (S.place nbits lt n hn).1.succ ?_
  rw [DhtId.bit_xor] at same
  show n.id.bit nbits = own.bit nbits
  cases hb : n.id.bit nbits <;> cases ho : own.bit nbits <;> simp [hb, ho] at same ⊢

/-- There is a bit for every bucket that a split adds. -/
lemma split_length_le (S : Buckets.Sorted own T) {fuel count : Nat}
    (crowd : Crowded own nbits count) (lt : nbits < T.lists.length)
    (le : T.lists.length ≤ 8 * DHT_ID_SIZE) :
    (T.split own fuel nbits count).lists.length ≤ 8 * DHT_ID_SIZE := by
  have bits : 8 * DHT_ID_SIZE = 160 := rfl
  induction fuel generalizing T nbits count with
  | zero => exact le
  | succ fuel ih =>
    unfold Buckets.split
    split
    · rename_i full
      have more := (full.1 ▸ crowd).shallow
      have S' := S.split_round (i := nbits) (by omega) (by omega) T.numPeers
      exact ih S' (Crowded.same S lt) (by simp; omega) (by simp; omega)
    · exact le

/-- The loop `Split buckets` ends before the bits do. -/
lemma split_eq (R : Repr t T) (S : Buckets.Sorted own T) {fuel count : Nat}
    (crowd : Crowded own nbits count) (lt : nbits < T.lists.length)
    (le : T.lists.length ≤ 8 * DHT_ID_SIZE) (rounds : 8 * DHT_ID_SIZE ≤ nbits + fuel) :
    split own fuel t nbits count = some (t.split own fuel nbits count) := by
  have bits : 8 * DHT_ID_SIZE = 160 := rfl
  induction fuel generalizing t T nbits count with
  | zero => omega
  | succ fuel ih =>
    unfold split DhtTable.split
    by_cases full : count = DHT_NODE_COUNT ∧ ¬ nbits + 1 < t.buckets.length
    · have len := R.length
      have more := (full.1 ▸ crowd).shallow
      have S' := S.split_round (i := nbits) (by omega) (by omega) T.numPeers
      have round := redistribute_round own nbits R (by omega) (by omega)
      obtain ⟨⟨h, data, first, c⟩, er⟩ : ∃ r, r = DhtTable.redistribute own nbits t.heap.fresh
        t.heap (t.data nbits) none none 0 (t.data nbits) := ⟨_, rfl⟩
      obtain ⟨R', ec⟩ := R.split_round own (by omega) er
      rw [if_pos full, if_pos full]
      dsimp only
      rw [round, ← er]
      exact ih R' S' (ec ▸ Crowded.same S lt) (by simp; omega) (by simp; omega) (by omega)
    · rw [if_neg full, if_neg full]

/-! ## The calls -/

/-- A new node makes its bucket crowded. -/
lemma Crowded.insert {i m : Nat} {x : DhtNode}
    (S : Buckets.Sorted own ⟨T.lists.set i (x :: T.list i), T.numBuckets, m⟩)
    (lt : i < T.lists.length) : Crowded own i ((T.list i).length + 1) := by
  have list : (Buckets.mk (T.lists.set i (x :: T.list i)) T.numBuckets m).list i = x :: T.list i := by
    rw [Buckets.list_set lt, if_pos rfl]
  refine ⟨x :: T.list i, list ▸ S.nodup i, fun n hn => ?_, rfl⟩
  exact (S.place i (by simpa using lt) n (by rw [list]; exact hn)).1

/-- C `dht_client_update` does nothing undefined. -/
lemma update_eq (R : Repr t T) (V : Buckets.Valid own T) (le : T.lists.length ≤ 8 * DHT_ID_SIZE)
    (now : Int) (id : DhtId) (addr : DhtAddress) (isAlive : Bool) :
    update own now t id addr isAlive = some (t.update own now id addr isAlive) := by
  obtain ⟨lt, -⟩ := Buckets.place_index own id V.pos
  have walk : bucketIndex (own.xor id) 0 t.buckets = some (T.index own id) := by
    rw [bucketIndex_eq 0 (by rw [Nat.zero_add, ← R.length]; exact le), R.index]
  unfold update
  dsimp only
  rw [walk, Option.bind_eq_bind, Option.bind_some]
  cases es : DhtTable.scan t.heap id t.heap.fresh 0 none (t.data (T.index own id)) with
  | found => rfl
  | missing count replaceable =>
    obtain ⟨rfl, absent⟩ := R.scan_missing (R.length ▸ lt) es
    dsimp only
    split
    · rename_i ins
      obtain ⟨alive, room⟩ := ins
      have S := V.insert rfl absent room addr now (guintInc t.numPeers)
      have R' := R.insert (R.length ▸ lt) ⟨id, addr, now, true⟩ (guintInc t.numPeers)
      have inserted : t.update own now id addr isAlive = DhtTable.split own (8 * DHT_ID_SIZE)
          ⟨(t.heap.prepend (t.data (T.index own id)) ⟨id, addr, now, true⟩).2,
            t.buckets.set (T.index own id)
              (t.heap.prepend (t.data (T.index own id)) ⟨id, addr, now, true⟩).1,
            t.numBuckets, guintInc t.numPeers⟩
          (T.index own id) ((T.list (T.index own id)).length + 1) := by
        unfold DhtTable.update
        dsimp only
        rw [R.index, es]
        dsimp only
        rw [if_neg (by simp [alive]), if_neg room]
      rw [inserted]
      exact split_eq R' S (Crowded.insert S lt) (by simpa using lt) (by simpa using le)
        (Nat.le_add_left _ _)
    · rfl

/-- Nor does it lead to more buckets than bits. -/
lemma update_length_le (V : Buckets.Valid own T) (le : T.lists.length ≤ 8 * DHT_ID_SIZE)
    (now : Int) (id : DhtId) (addr : DhtAddress) (isAlive : Bool) :
    (T.update own now id addr isAlive).lists.length ≤ 8 * DHT_ID_SIZE := by
  obtain ⟨lt, -⟩ := Buckets.place_index own id V.pos
  unfold Buckets.update
  dsimp only
  split
  · simpa using le
  · rename_i absent
    split
    · exact le
    · split
      · simpa using le
      · rename_i room
        have S := V.insert rfl (by simpa using absent) room addr now (guintInc T.numPeers)
        exact split_length_le S (Crowded.insert S lt) (by simpa using lt) (by simpa using le)

/-- Visiting a bucket changes no other one. -/
lemma visit_length (t : DhtTable) (now : Int) (i fuel : Nat) (nodes : List MsgNode) (link : Option Nat) :
    (t.visit now i fuel nodes link).1.buckets.length = t.buckets.length := by
  induction fuel generalizing t nodes link with
  | zero => rfl
  | succ fuel ih =>
    cases link with
    | none => rfl
    | some link =>
      unfold DhtTable.visit
      cases t.heap.cell link with
      | none => rfl
      | some c =>
        dsimp only
        split
        · split
          · rfl
          · exact ih _ _ _
        · exact (ih _ _ _).trans (List.length_set ..)

/-- The loop over the buckets ends with the first one, and `nbits` is the index of the bucket as long
    as there is one. -/
lemma searchLoop_eq {fuel : Nat} {nodes : List MsgNode} {dir : Bool} (lt : nbits < t.buckets.length)
    (le : t.buckets.length ≤ 8 * DHT_ID_SIZE)
    (rounds : nbits + 1 ≤ fuel ∧ (dir = true → 2 * t.buckets.length ≤ nbits + fuel)) :
    searchLoop metric now fuel t nodes (some nbits) nbits dir =
      some (t.searchLoop metric now fuel nodes nbits dir) := by
  have bits : 8 * DHT_ID_SIZE = 160 := rfl
  induction fuel generalizing t nodes nbits dir with
  | zero => omega
  | succ fuel ih =>
    unfold searchLoop DhtTable.searchLoop
    rw [bit_eq _ (by omega), Option.bind_eq_bind, Option.bind_some]
    obtain ⟨⟨t', nodes', full⟩, er⟩ : ∃ r, r = if metric.bit nbits = dir then
      t.visit now nbits t.heap.fresh nodes (t.data nbits) else (t, nodes, false) := ⟨_, rfl⟩
    have len : t'.buckets.length = t.buckets.length := by
      split at er
      · have len := visit_length t now nbits t.heap.fresh nodes (t.data nbits)
        rwa [← er] at len
      · cases er
        rfl
    rw [← er]
    cases full with
    | true => rfl
    | false =>
      cases dir with
      | true =>
        simp only [Bool.false_eq_true, if_false, if_true]
        split
        · have far := rounds.2 rfl
          have next : guintInc nbits = nbits + 1 := Nat.mod_eq_of_lt (by omega)
          rw [next]
          exact ih (by assumption) (by omega) ⟨by omega, fun _ => by omega⟩
        · have far := rounds.2 rfl
          exact ih (by omega) (by omega) ⟨by omega, nofun⟩
      | false =>
        simp only [Bool.false_eq_true, if_false]
        cases nbits with
        | zero => cases fuel <;> rfl
        | succ n =>
          have prev : guintDec (n + 1) = n := by
            unfold guintDec
            omega
          rw [prev]
          exact ih (by omega) (by omega) ⟨by omega, nofun⟩

/-- C `dht_client_search` does nothing undefined. -/
lemma search_eq (pos : 0 < t.buckets.length) (le : t.buckets.length ≤ 8 * DHT_ID_SIZE) (now : Int)
    (id : DhtId) : search own now t id = some (t.search own now id) :=
  searchLoop_eq pos le ⟨by omega, fun _ => by omega⟩

/-- A search leaves the number of buckets. -/
lemma search_length (pos : 0 < T.lists.length) (now : Int) (id : DhtId) :
    (T.search own now id).1.lists.length = T.lists.length :=
  Buckets.searchLoop_keeps (P := fun T' => T'.lists.length = T.lists.length)
    (fun _ _ _ _ len => List.length_set.trans len) pos rfl

end Defined

end Checked

/-! ## Runs -/

/-- There are no more buckets than bits after any run. -/
lemma Buckets.run_length_le (own : DhtId) (calls : List TableCall) :
    (Buckets.run own calls).lists.length ≤ 8 * DHT_ID_SIZE := by
  induction calls using List.reverseRecOn with
  | nil => exact Nat.le_of_ble_eq_true rfl
  | append_singleton calls call ih =>
    have V := Buckets.valid_run own calls
    rw [Buckets.run, List.foldl_append]
    cases call with
    | update now id addr isAlive => exact Checked.update_length_le V ih now id addr isAlive
    | search now id => exact (Checked.search_length V.pos now id).trans_le ih

namespace DhtTable

lemma run_length_le (own : DhtId) (calls : List TableCall) :
    (run own calls).buckets.length ≤ 8 * DHT_ID_SIZE :=
  (repr_run own calls).length ▸ Buckets.run_length_le own calls

/-- The program with its checks does what the one without them does. -/
lemma checked_run (own : DhtId) (calls : List TableCall) :
    Checked.run own calls = some (run own calls) := by
  induction calls using List.reverseRecOn with
  | nil => rfl
  | append_singleton calls call ih =>
    have R := repr_run own calls
    have V := Buckets.valid_run own calls
    have le := Buckets.run_length_le own calls
    have next : run own (calls ++ [call]) = step own (run own calls) call := by
      rw [run, List.foldl_append]
      rfl
    rw [Checked.run] at ih ⊢
    rw [List.foldlM_append, ih, Option.bind_eq_bind, Option.bind_some, List.foldlM_cons, next]
    cases call with
    | update now id addr isAlive =>
      rw [Checked.step, Checked.update_eq R V le]
      rfl
    | search now id =>
      rw [Checked.step, Checked.search_eq (R.length ▸ V.pos) (R.length ▸ le)]
      rfl

/-- Whatever reaches the routing table, its functions end and read no id out of bounds, and there are
    never more buckets than bits. -/
theorem table_bounded (own : DhtId) (events : List TableEvent) :
    let calls := events.flatMap (TableEvent.calls own)
    Checked.run own calls = some (run own calls) ∧
    ∀ earlier, earlier <+: calls → (run own earlier).buckets.length ≤ 8 * DHT_ID_SIZE :=
  ⟨checked_run own _, fun earlier _ => run_length_le own earlier⟩

end DhtTable

end Nanotalk
