import Nanotalk.Lib.GList
import Nanotalk.Dht.Common

/-!
# The routing table

Model of `dht_client_update` and `dht_client_search` of `src/dht-client.c`, with the part of the
client's private data they work on. A bucket's node list is a `GList` on an explicit heap, so that
every relinking of the sources is made on cells; each link owns its `DhtNode`, which is kept in the
cell. The list of buckets itself is only ever appended to and is a plain list of the `data`
pointers.

The loops of the sources are the recursive functions `scan`, `redistribute`, `split`, `visit` and
`searchLoop`. They carry the loop's variables, and a bound on the number of rounds where the loop
follows pointers; `Refinement.lean` shows that the bound is never what stops them.
-/

namespace Nanotalk
open Glib

/-- C `DHT_NODE_COUNT`: number of nodes per bucket. -/
abbrev DHT_NODE_COUNT : Nat := 16

/-- C `DHT_LINGER_US`: dead node linger. -/
abbrev DHT_LINGER_US : Int := 3600000000

/-- C `struct _dht_node`. -/
structure DhtNode where
  id : DhtId
  addr : DhtAddress
  timestamp : Int
  isAlive : Bool
  deriving DecidableEq

/-- C `struct _msg_node`. -/
structure MsgNode where
  id : DhtId
  addr : DhtAddress
  deriving DecidableEq

/-- Increment of a C `guint`. -/
def guintInc (n : Nat) : Nat := (n + 1) % 2 ^ 32

/-- Decrement of a C `guint`. -/
def guintDec (n : Nat) : Nat := (n + (2 ^ 32 - 1)) % 2 ^ 32

/-- The routing table in C `struct _dht_client_private`. -/
structure DhtTable where
  heap : Heap DhtNode
  buckets : List (Option Nat)
  numBuckets : Nat
  numPeers : Nat

/-- Index of the bucket for a metric, with `nbits` buckets already passed: the walk stops at the
    first set bit, or at the last bucket. -/
def bucketIndex {β : Type} (metric : DhtId) (nbits : Nat) : List β → Nat
  | _ :: b :: bs => if metric.bit nbits then nbits else bucketIndex metric (nbits + 1) (b :: bs)
  | _ => nbits

namespace DhtTable

/-- The table made by C `dht_client_init`: one empty bucket. -/
def init : DhtTable := ⟨Heap.empty, [none], 1, 0⟩

/-- C `bucket->data`. -/
def data (t : DhtTable) (i : Nat) : Option Nat := t.buckets.getD i none

/-- The content of a bucket: the nodes visited by following `next` from `bucket->data`. -/
def bucket (t : DhtTable) (i : Nat) : List DhtNode := t.heap.toList (t.data i)

/-- The nodes of the table. -/
def nodes (t : DhtTable) : List DhtNode := t.buckets.flatMap t.heap.toList

/-! ## `dht_client_update` -/

/-- Outcome of the loop over the nodes of a bucket: the link of the node with the given id, or the
    number of nodes and the link marked for replacement. -/
inductive Scan where
  | found (link : Nat) (node : DhtNode)
  | missing (count : Nat) (replaceable : Option Nat)

/-- The loop `Iterate nodes`. -/
def scan (h : Heap DhtNode) (id : DhtId) : Nat → Nat → Option Nat → Option Nat → Scan
  | fuel + 1, count, replaceable, some link =>
    match h.cell link with
    | some c =>
      if c.data.id = id then .found link c.data
      else scan h id fuel (count + 1) (if c.data.isAlive then replaceable else some link) c.next
    | none => .missing count replaceable
  | _, count, replaceable, _ => .missing count replaceable

/-- The loop `Redistribute nodes`: nodes that share bit `nbits` with the own id leave the list at
    `data`. Yields the heap, `bucket->data`, `first` and `count`. -/
def redistribute (own : DhtId) (nbits : Nat) :
    Nat → Heap DhtNode → Option Nat → Option Nat → Option Nat → Nat → Option Nat →
      Heap DhtNode × Option Nat × Option Nat × Nat
  | fuel + 1, h, data, first, last, count, some link =>
    match h.cell link with
    | some c =>
      if !(c.data.id.xor own).bit nbits then
        let (data, h) := h.removeLink data link
        let (first, h) := h.concat last (some link)
        redistribute own nbits fuel h data first (some link) (count + 1) c.next
      else redistribute own nbits fuel h data first last count c.next
    | none => (h, data, first, count)
  | _, h, data, first, _, count, _ => (h, data, first, count)

/-- The loop `Split buckets`, with `nbits` the index of the current bucket. -/
def split (own : DhtId) : Nat → DhtTable → Nat → Nat → DhtTable
  | 0, t, _, _ => t
  | fuel + 1, t, nbits, count =>
    if count = DHT_NODE_COUNT ∧ ¬ nbits + 1 < t.buckets.length then
      let data := t.data nbits
      let (h, data, first, count) :=
        redistribute own nbits t.heap.fresh t.heap data none none 0 data
      split own fuel
        { t with
          heap := h
          buckets := t.buckets.set nbits data ++ [first]
          numBuckets := guintInc t.numBuckets }
        (nbits + 1) count
    else t

/-- C `dht_client_update`, at monotonic time `now`. -/
def update (own : DhtId) (now : Int) (t : DhtTable) (id : DhtId) (addr : DhtAddress)
    (isAlive : Bool) : DhtTable :=
  let metric := own.xor id
  let nbits := bucketIndex metric 0 t.buckets
  match scan t.heap id t.heap.fresh 0 none (t.data nbits) with
  | .found link node =>
    if isAlive then
      -- Update existing node
      let node := { node with timestamp := now, isAlive := true, addr := addr }
      { t with heap := t.heap.setData link node }
    else if node.addr = addr then
      { t with heap := t.heap.setData link { node with isAlive := false } }
    else t
  | .missing count replaceable =>
    if !isAlive then t
    else if count = DHT_NODE_COUNT then
      match replaceable with
      | some link =>
        -- Replace existing node
        { t with heap := t.heap.setData link ⟨id, addr, now, true⟩ }
      | none => t
    else
      -- Insert new node
      let (data, h) := t.heap.prepend (t.data nbits) ⟨id, addr, now, true⟩
      split own (8 * DHT_ID_SIZE)
        { t with
          heap := h
          buckets := t.buckets.set nbits data
          numPeers := guintInc t.numPeers }
        nbits (count + 1)

/-! ## `dht_client_search` -/

/-- A node that a search at time `now` reports: alive, or last seen less than `DHT_LINGER_US` ago. -/
def Eligible (now : Int) (node : DhtNode) : Prop :=
  node.isAlive = true ∨ now - node.timestamp < DHT_LINGER_US

instance (now : Int) (node : DhtNode) : Decidable (Eligible now node) :=
  inferInstanceAs (Decidable (_ ∨ _))

/-- The loop over the nodes of bucket `nbits`, `nodes` being the entries already written. The flag
    says that the function returned. -/
def visit (now : Int) (nbits : Nat) :
    Nat → DhtTable → List MsgNode → Option Nat → DhtTable × List MsgNode × Bool
  | fuel + 1, t, nodes, some link =>
    match t.heap.cell link with
    | some c =>
      if Eligible now c.data then
        -- Copy alive node
        let nodes := nodes ++ [⟨c.data.id, c.data.addr⟩]
        if nodes.length = DHT_NODE_COUNT then (t, nodes, true)
        else visit now nbits fuel t nodes c.next
      else
        -- Delete dead node
        let (data, h) := t.heap.deleteLink (t.data nbits) link
        visit now nbits fuel
          { t with
            heap := h
            buckets := t.buckets.set nbits data
            numPeers := guintDec t.numPeers }
          nodes c.next
    | none => (t, nodes, false)
  | _, t, nodes, _ => (t, nodes, false)

/-- The loop over the buckets: up to the last one (`dir`), then back down to the first one. -/
def searchLoop (metric : DhtId) (now : Int) :
    Nat → DhtTable → List MsgNode → Nat → Bool → DhtTable × List MsgNode
  | 0, t, nodes, _, _ => (t, nodes)
  | fuel + 1, t, nodes, nbits, dir =>
    let (t, nodes, full) :=
      if metric.bit nbits = dir then visit now nbits t.heap.fresh t nodes (t.data nbits)
      else (t, nodes, false)
    if full then (t, nodes)
    else if dir then
      if nbits + 1 < t.buckets.length then searchLoop metric now fuel t nodes (nbits + 1) true
      else searchLoop metric now fuel t nodes nbits false
    else
      match nbits with
      | 0 => (t, nodes)
      | n + 1 => searchLoop metric now fuel t nodes n false

/-- Where the loop goes from bucket `nbits` of `len`, unless it ends there. -/
def nextBucket (len nbits : Nat) (dir : Bool) : Option (Nat × Bool) :=
  if dir then if nbits + 1 < len then some (nbits + 1, true) else some (nbits, false)
  else
    match nbits with
    | 0 => none
    | n + 1 => some (n, false)

lemma nextBucket_lt {len nbits : Nat} {dir : Bool} {next : Nat × Bool} (lt : nbits < len)
    (e : nextBucket len nbits dir = some next) : next.1 < len := by
  unfold nextBucket at e
  split at e
  · split at e
    · cases e
      assumption
    · cases e
      exact lt
  · split at e
    · cases e
    · cases e
      exact Nat.lt_of_succ_lt lt

/-- A round of the loop: `r` is what it leaves of the table and the entries, and whether it returns. -/
lemma searchLoop_succ {metric : DhtId} {now : Int} {fuel nbits : Nat} {t : DhtTable}
    {nodes : List MsgNode} {dir : Bool} {r : DhtTable × List MsgNode × Bool}
    (er : r = if metric.bit nbits = dir then visit now nbits t.heap.fresh t nodes (t.data nbits)
      else (t, nodes, false)) :
    searchLoop metric now (fuel + 1) t nodes nbits dir =
      match if r.2.2 then none else nextBucket r.1.buckets.length nbits dir with
      | none => (r.1, r.2.1)
      | some next => searchLoop metric now fuel r.1 r.2.1 next.1 next.2 := by
  rw [searchLoop, ← er]
  unfold nextBucket
  obtain ⟨t', nodes', full⟩ := r
  cases full with
  | true => rfl
  | false =>
    cases dir with
    | true =>
      simp only [Bool.false_eq_true, if_false, if_true]
      split <;> rfl
    | false => cases nbits <;> rfl

/-- C `dht_client_search`, at monotonic time `now`: the table left behind and the entries written
    to `nodes`. -/
def search (own : DhtId) (now : Int) (t : DhtTable) (id : DhtId) : DhtTable × List MsgNode :=
  searchLoop (own.xor id) now (2 * t.buckets.length) t [] 0 true

end DhtTable

/-- A call that works on the routing table, at monotonic time `now`. -/
inductive TableCall where
  | update (now : Int) (id : DhtId) (addr : DhtAddress) (isAlive : Bool)
  | search (now : Int) (id : DhtId)

namespace DhtTable

/-- The table after a call. -/
def step (own : DhtId) (t : DhtTable) : TableCall → DhtTable
  | .update now id addr isAlive => t.update own now id addr isAlive
  | .search now id => (t.search own now id).1

/-- The table after a sequence of calls on the initial table. -/
def run (own : DhtId) (calls : List TableCall) : DhtTable := calls.foldl (step own) init

end DhtTable

end Nanotalk
