import Nanotalk.Dht.Table

/-!
# The routing table as lists of nodes

The table of `Table.lean` without its heap: a bucket is the list of nodes a reader of
`bucket->data` visits, in this order. The functions are the list transformations that the relinking
of `dht_client_update` and `dht_client_search` amounts to; `Refinement.lean` proves that they are
exactly that. In particular `Buckets.split` moves to the new bucket only the last two of the nodes
that leave the old one (`lastTwo`): `g_list_concat(last, link)` returns `last`, so `first` follows
the nodes being moved instead of staying at the first of them.
-/

namespace Nanotalk
open Glib

/-- The last two elements of a list. -/
def lastTwo {α : Type} (l : List α) : List α := l.drop (l.length - 2)

/-- Change the first element that satisfies `p`. -/
def modifyFirst {α : Type} (p : α → Bool) (f : α → α) : List α → List α
  | [] => []
  | a :: l => if p a then f a :: l else a :: modifyFirst p f l

/-- A routing table as a list of buckets. -/
structure Buckets where
  lists : List (List DhtNode)
  numBuckets : Nat
  numPeers : Nat

namespace Buckets

/-- One empty bucket. -/
def init : Buckets := ⟨[[]], 1, 0⟩

/-- The nodes of bucket `i`. -/
def list (T : Buckets) (i : Nat) : List DhtNode := T.lists.getD i []

/-- The nodes of the table. -/
def nodes (T : Buckets) : List DhtNode := T.lists.flatten

/-- The bucket that `id` belongs to. -/
def index (own : DhtId) (T : Buckets) (id : DhtId) : Nat := bucketIndex (own.xor id) 0 T.lists

/-- Overwrite the last dead node, if there is one. -/
def replaceDead (new : DhtNode) : List DhtNode → List DhtNode
  | [] => []
  | n :: l =>
    if l.all DhtNode.isAlive ∧ ¬ n.isAlive then new :: l else n :: replaceDead new l

/-- The nodes of a bucket that share bit `nbits` with the own id. -/
def same (own : DhtId) (nbits : Nat) (l : List DhtNode) : List DhtNode :=
  l.filter fun n => !(n.id.xor own).bit nbits

/-- The nodes of a bucket that differ from the own id in bit `nbits`. -/
def differ (own : DhtId) (nbits : Nat) (l : List DhtNode) : List DhtNode :=
  l.filter fun n => (n.id.xor own).bit nbits

/-- Only the last dead node is overwritten. -/
lemma replaceDead_cases (new : DhtNode) (l : List DhtNode) :
    l.all DhtNode.isAlive = true ∧ replaceDead new l = l ∨
    ∃ as x bs, l = as ++ x :: bs ∧ x.isAlive = false ∧ replaceDead new l = as ++ new :: bs := by
  induction l with
  | nil => exact .inl ⟨rfl, rfl⟩
  | cons n l ih =>
    rcases ih with ⟨al, e⟩ | ⟨as, x, bs, rfl, dead, e⟩
    · cases en : n.isAlive with
      | true => exact .inl ⟨by simp [al, en], by simp [replaceDead, e, en]⟩
      | false => exact .inr ⟨[], n, l, rfl, en, by simp only [replaceDead, al, en]; rfl⟩
    · refine .inr ⟨n :: as, x, bs, rfl, dead, ?_⟩
      simp [replaceDead, e, dead]

/-- Updating a node leaves the ids of a bucket alone. -/
lemma modifyFirst_ids {p : DhtNode → Bool} {f : DhtNode → DhtNode} (hf : ∀ n, (f n).id = n.id)
    (l : List DhtNode) : (modifyFirst p f l).map DhtNode.id = l.map DhtNode.id := by
  induction l with
  | nil => rfl
  | cons n l ih =>
    unfold modifyFirst
    split
    · simp [hf]
    · simp [ih]

section Split

variable {own : DhtId} {nbits : Nat} {n : DhtNode} {l : List DhtNode}

/-- A node with the same bit is kept. -/
lemma same_cons_same (e : (n.id.xor own).bit nbits = false) :
    same own nbits (n :: l) = n :: same own nbits l :=
  List.filter_cons_of_pos (by rw [e]; rfl)

lemma same_cons_differ (e : (n.id.xor own).bit nbits = true) :
    same own nbits (n :: l) = same own nbits l :=
  List.filter_cons_of_neg (by rw [e]; simp)

/-- A node with the same bit is not moved. -/
lemma differ_cons_same (e : (n.id.xor own).bit nbits = false) :
    differ own nbits (n :: l) = differ own nbits l :=
  List.filter_cons_of_neg (by rw [e]; simp)

lemma differ_cons_differ (e : (n.id.xor own).bit nbits = true) :
    differ own nbits (n :: l) = n :: differ own nbits l :=
  List.filter_cons_of_pos e

end Split

/-- The loop `Split buckets`. -/
def split (own : DhtId) : Nat → Buckets → Nat → Nat → Buckets
  | 0, T, _, _ => T
  | fuel + 1, T, nbits, count =>
    if count = DHT_NODE_COUNT ∧ ¬ nbits + 1 < T.lists.length then
      split own fuel
        { T with
          lists := T.lists.set nbits (differ own nbits (T.list nbits)) ++
            [lastTwo (same own nbits (T.list nbits))]
          numBuckets := guintInc T.numBuckets }
        (nbits + 1) (same own nbits (T.list nbits)).length
    else T

/-- What an update does to the node it finds under its id. -/
def touch (now : Int) (addr : DhtAddress) (isAlive : Bool) (node : DhtNode) : DhtNode :=
  if isAlive then { node with timestamp := now, isAlive := true, addr := addr }
  else if node.addr = addr then { node with isAlive := false }
  else node

@[simp] lemma touch_id (now : Int) (addr : DhtAddress) (isAlive : Bool) (n : DhtNode) :
    (touch now addr isAlive n).id = n.id := by
  unfold touch
  split
  · rfl
  · split <;> rfl

/-- C `dht_client_update`. -/
def update (own : DhtId) (now : Int) (T : Buckets) (id : DhtId) (addr : DhtAddress)
    (isAlive : Bool) : Buckets :=
  let nbits := T.index own id
  let l := T.list nbits
  if l.any (·.id = id) then
    let l := modifyFirst (·.id = id) (touch now addr isAlive) l
    { T with lists := T.lists.set nbits l }
  else if !isAlive then T
  else if l.length = DHT_NODE_COUNT then
    { T with lists := T.lists.set nbits (replaceDead ⟨id, addr, now, true⟩ l) }
  else
    split own (8 * DHT_ID_SIZE)
      { T with
        lists := T.lists.set nbits (⟨id, addr, now, true⟩ :: l)
        numPeers := guintInc T.numPeers }
      nbits (l.length + 1)

/-- The loop over the nodes of a bucket in `dht_client_search`: the nodes left in it, the peers
    counter, the entries written, and whether the function returned. -/
def visitList (now : Int) :
    Nat → List MsgNode → List DhtNode → List DhtNode × Nat × List MsgNode × Bool
  | numPeers, nodes, [] => ([], numPeers, nodes, false)
  | numPeers, nodes, n :: l =>
    if DhtTable.Eligible now n then
      let nodes := nodes ++ [⟨n.id, n.addr⟩]
      if nodes.length = DHT_NODE_COUNT then (n :: l, numPeers, nodes, true)
      else
        let (l, numPeers, nodes, full) := visitList now numPeers nodes l
        (n :: l, numPeers, nodes, full)
    else visitList now (guintDec numPeers) nodes l

/-- `visitList` on bucket `nbits` of the table. -/
def visit (now : Int) (nbits : Nat) (T : Buckets) (nodes : List MsgNode) :
    Buckets × List MsgNode × Bool :=
  let (l, numPeers, nodes, full) := visitList now T.numPeers nodes (T.list nbits)
  ({ T with lists := T.lists.set nbits l, numPeers := numPeers }, nodes, full)

/-- The loop over the buckets in `dht_client_search`. -/
def searchLoop (metric : DhtId) (now : Int) :
    Nat → Buckets → List MsgNode → Nat → Bool → Buckets × List MsgNode
  | 0, T, nodes, _, _ => (T, nodes)
  | fuel + 1, T, nodes, nbits, dir =>
    let (T, nodes, full) :=
      if metric.bit nbits = dir then visit now nbits T nodes else (T, nodes, false)
    if full then (T, nodes)
    else if dir then
      if nbits + 1 < T.lists.length then searchLoop metric now fuel T nodes (nbits + 1) true
      else searchLoop metric now fuel T nodes nbits false
    else
      match nbits with
      | 0 => (T, nodes)
      | n + 1 => searchLoop metric now fuel T nodes n false

/-- A round of the loop. -/
lemma searchLoop_succ {metric : DhtId} {now : Int} {fuel nbits : Nat} {T : Buckets}
    {nodes : List MsgNode} {dir : Bool} {r : Buckets × List MsgNode × Bool}
    (er : r = if metric.bit nbits = dir then visit now nbits T nodes else (T, nodes, false)) :
    searchLoop metric now (fuel + 1) T nodes nbits dir =
      match if r.2.2 then none else DhtTable.nextBucket r.1.lists.length nbits dir with
      | none => (r.1, r.2.1)
      | some next => searchLoop metric now fuel r.1 r.2.1 next.1 next.2 := by
  rw [searchLoop, ← er]
  unfold DhtTable.nextBucket
  obtain ⟨T', nodes', full⟩ := r
  cases full with
  | true => rfl
  | false =>
    cases dir with
    | true =>
      simp only [Bool.false_eq_true, if_false, if_true]
      split <;> rfl
    | false => cases nbits <;> rfl

/-- C `dht_client_search`. -/
def search (own : DhtId) (now : Int) (T : Buckets) (id : DhtId) : Buckets × List MsgNode :=
  searchLoop (own.xor id) now (2 * T.lists.length) T [] 0 true

/-- The table after a call. -/
def step (own : DhtId) (T : Buckets) : TableCall → Buckets
  | .update now id addr isAlive => T.update own now id addr isAlive
  | .search now id => (T.search own now id).1

/-- The table after a sequence of calls on the initial table. -/
def run (own : DhtId) (calls : List TableCall) : Buckets := calls.foldl (step own) init

end Buckets

end Nanotalk
