import Nanotalk.Dht.Nearest
import Nanotalk.Dht.Routing

/-!
# What a routing table remembers

A `directory` without bounds keeps for every id the node as it was last heard of, and takes nothing
out. The routing table splits its buckets, overwrites and deletes nodes, but what it has, it has as
in the directory (`table_in_directory`). So a node of a table tells when and from where it was last
heard, and whether a query to it timed out since (`table_remembers`).

The directory of a client knows only those that sent it a lookup message (`DhtClient.hears`); the
nodes in the responses to its lookups do not enter it (`client_remembers`).
-/

namespace Nanotalk
open Glib

/-! ## The directory -/

/-- What a call says of the node with an id. -/
def note (id : DhtId) (known : Option DhtNode) : TableCall → Option DhtNode
  | .update now id' addr isAlive =>
    if id' ≠ id then known
    else if isAlive then some ⟨id, addr, now, true⟩
    else known.map (Buckets.touch now addr false)
  | .search .. => known

/-- The node with an id as it was last heard of. -/
def directory (calls : List TableCall) (id : DhtId) : Option DhtNode := calls.foldl (note id) none

/-- The node that a call reports alive, and when. -/
def TableCall.report : TableCall → Option (Int × DhtId × DhtAddress)
  | .update now id addr true => some (now, id, addr)
  | _ => none

/-- The calls tell of a node when it was last reported alive, and whether it timed out since. -/
def Remembered (calls : List TableCall) (node : DhtNode) : Prop :=
  ∃ before after, calls = before ++ .update node.timestamp node.id node.addr true :: after ∧
    (∀ now addr, .update now node.id addr true ∉ after) ∧
    (node.isAlive = false ↔ ∃ now, .update now node.id node.addr false ∈ after)

/-- The last report of the id of a node gives its address and timestamp. -/
def Latest (reports : List (Int × DhtId × DhtAddress)) (node : DhtNode) : Prop :=
  ∃ before after, reports = before ++ (node.timestamp, node.id, node.addr) :: after ∧
    ∀ report ∈ after, report.2.1 ≠ node.id

section Directory

variable {calls : List TableCall} {call : TableCall} {node : DhtNode}

lemma directory_concat (calls : List TableCall) (call : TableCall) (id : DhtId) :
    directory (calls ++ [call]) id = note id (directory calls id) call := by
  rw [directory, List.foldl_append]
  rfl

/-- A call that is not about a node. -/
lemma Remembered.other (R : Remembered calls node)
    (alive : ∀ now addr, call ≠ .update now node.id addr true)
    (dead : ∀ now, call ≠ .update now node.id node.addr false) :
    Remembered (calls ++ [call]) node := by
  obtain ⟨before, after, e, last, since⟩ := R
  refine ⟨before, after ++ [call], ?_, ?_, ?_⟩
  · rw [e, List.append_assoc, List.cons_append]
  · intro now addr mem
    rcases List.mem_append.mp mem with mem | mem
    · exact last now addr mem
    · exact alive now addr (List.mem_singleton.mp mem).symm
  · refine since.trans (exists_congr fun now => ?_)
    rw [List.mem_append, List.mem_singleton, or_iff_left (dead now).symm]

/-- The query to a node times out. -/
lemma Remembered.timeOut (R : Remembered calls node) (now : Int) :
    Remembered (calls ++ [.update now node.id node.addr false]) { node with isAlive := false } := by
  obtain ⟨before, after, e, last, -⟩ := R
  refine ⟨before, after ++ [.update now node.id node.addr false], ?_, ?_, ?_⟩
  · rw [e, List.append_assoc, List.cons_append]
  · intro now addr mem
    rcases List.mem_append.mp mem with mem | mem
    · exact last now addr mem
    · exact absurd (List.mem_singleton.mp mem) (by simp)
  · exact iff_of_true rfl ⟨now, List.mem_append_right _ (List.mem_singleton_self _)⟩

lemma Remembered.latest (R : Remembered calls node) :
    Latest (calls.filterMap TableCall.report) node := by
  obtain ⟨before, after, rfl, last, -⟩ := R
  refine ⟨before.filterMap TableCall.report, after.filterMap TableCall.report, ?_, ?_⟩
  · rw [List.filterMap_append, List.filterMap_cons]
    rfl
  · intro report mem same
    obtain ⟨call, here, told⟩ := List.mem_filterMap.mp mem
    unfold TableCall.report at told
    split at told
    · cases told
      subst same
      exact last _ _ here
    · cases told

/-- The directory has what the calls tell. -/
lemma directory_remembered {id : DhtId} (here : directory calls id = some node) :
    node.id = id ∧ Remembered calls node := by
  induction calls using List.reverseRecOn generalizing node with
  | nil => cases here
  | append_singleton calls call ih =>
    rw [directory_concat] at here
    cases call with
    | search now target =>
      obtain ⟨same, R⟩ := ih here
      exact ⟨same, R.other nofun nofun⟩
    | update now id' addr isAlive =>
      unfold note at here
      dsimp only at here
      split at here
      · rename_i other
        obtain ⟨rfl, R⟩ := ih here
        refine ⟨rfl, R.other ?_ ?_⟩
        · intro _ _ e
          cases e
          exact other rfl
        · intro _ e
          cases e
          exact other rfl
      · rename_i about
        obtain rfl := not_not.mp about
        split at here
        · rename_i alive
          cases here
          exact ⟨rfl, calls, [], by rw [alive], fun _ _ => List.not_mem_nil,
            iff_of_false nofun fun ⟨_, mem⟩ => List.not_mem_nil mem⟩
        · rename_i dead
          rw [Bool.not_eq_true] at dead
          subst dead
          obtain ⟨known, e, touched⟩ := Option.map_eq_some_iff.mp here
          obtain ⟨rfl, R⟩ := ih e
          unfold Buckets.touch at touched
          rw [if_neg Bool.false_ne_true] at touched
          split at touched
          · rename_i same
            subst same touched
            exact ⟨rfl, R.timeOut now⟩
          · rename_i moved
            subst touched
            refine ⟨rfl, R.other nofun ?_⟩
            intro _ e
            cases e
            exact moved rfl

end Directory

/-! ## The table -/

namespace Buckets

variable {own id : DhtId} {addr : DhtAddress} {now : Int} {T : Buckets} {x : DhtNode}

/-- The first match is updated, and it is the only one. -/
lemma mem_modifyFirst {f : DhtNode → DhtNode} {l : List DhtNode} (nodup : (l.map DhtNode.id).Nodup)
    (hx : x ∈ modifyFirst (·.id = id) f l) :
    x ∈ l ∧ x.id ≠ id ∨ ∃ n ∈ l, n.id = id ∧ f n = x := by
  induction l with
  | nil => cases hx
  | cons m l ih =>
    rw [List.map_cons, List.nodup_cons] at nodup
    unfold modifyFirst at hx
    split at hx
    · rename_i hit
      have hit : m.id = id := by simpa using hit
      rcases List.mem_cons.mp hx with rfl | hx
      · exact .inr ⟨m, List.mem_cons_self, hit, rfl⟩
      · refine .inl ⟨List.mem_cons_of_mem _ hx, fun e => nodup.1 ?_⟩
        rw [hit, ← e]
        exact List.mem_map_of_mem hx
    · rename_i miss
      have miss : m.id ≠ id := by simpa using miss
      rcases List.mem_cons.mp hx with rfl | hx
      · exact .inl ⟨List.mem_cons_self, miss⟩
      · rcases ih nodup.2 hx with ⟨old, ne⟩ | ⟨n, hn, hit⟩
        · exact .inl ⟨List.mem_cons_of_mem _ old, ne⟩
        · exact .inr ⟨n, List.mem_cons_of_mem _ hn, hit⟩

/-- A bucket in which a dead node is replaced. -/
lemma mem_replaceDead {new : DhtNode} {l : List DhtNode} (hx : x ∈ replaceDead new l) :
    x = new ∨ x ∈ l := by
  rcases replaceDead_cases new l with ⟨-, e⟩ | ⟨as, y, bs, rfl, -, e⟩
  · exact .inr (e ▸ hx)
  · rw [e, List.mem_append, List.mem_cons] at hx
    rw [List.mem_append, List.mem_cons]
    tauto

/-- The nodes after an update were there before, but for the one with the id. -/
lemma mem_update (V : Valid own T) {isAlive : Bool}
    (hx : x ∈ (T.update own now id addr isAlive).nodes) :
    x ∈ T.nodes ∧ x.id ≠ id ∨ isAlive = true ∧ x = ⟨id, addr, now, true⟩ ∨
      ∃ n ∈ T.nodes, n.id = id ∧ touch now addr isAlive n = x := by
  obtain ⟨lt, -⟩ := place_index own id V.pos
  by_cases present : id ∈ T.nodes.map DhtNode.id
  · have hit := (any_iff V).mpr present
    unfold Buckets.update at hx
    dsimp only at hx
    rw [if_pos hit, mem_nodes_set_iff V.toSorted lt] at hx
    rcases hx with hx | ⟨old, elsewhere⟩
    · rcases mem_modifyFirst (V.nodup _) hx with ⟨old, ne⟩ | ⟨n, hn, e, touched⟩
      · exact .inl ⟨mem_nodes_of_list old, ne⟩
      · exact .inr (.inr ⟨n, mem_nodes_of_list hn, e, touched⟩)
    · refine .inl ⟨old, fun e => elsewhere ?_⟩
      obtain ⟨j, ltj, hj⟩ := mem_nodes.mp old
      have place := V.index_eq ltj hj
      rw [e] at place
      rwa [place]
  · have fresh : ∀ {n}, n ∈ T.nodes → n.id ≠ id :=
      fun hn e => present (e ▸ List.mem_map_of_mem hn)
    unfold Buckets.update at hx
    dsimp only at hx
    rw [if_neg fun hit => present ((any_iff V).mp hit)] at hx
    split at hx
    · exact .inl ⟨hx, fresh hx⟩
    · rename_i alive
      have alive : isAlive = true := by simpa using alive
      have joined : x = ⟨id, addr, now, true⟩ ∨ x ∈ T.nodes := by
        split at hx
        · rcases mem_nodes_set hx with hx | hx
          · exact (mem_replaceDead hx).imp_right mem_nodes_of_list
          · exact .inr hx
        · rcases mem_nodes_set (mem_split hx) with hx | hx
          · exact (List.mem_cons.mp hx).imp_right mem_nodes_of_list
          · exact .inr hx
      rcases joined with new | old
      · exact .inr (.inl ⟨alive, new⟩)
      · exact .inl ⟨old, fresh old⟩

/-- What one call keeps. -/
lemma step_in_directory {calls : List TableCall} (V : Valid own T)
    (old : ∀ n ∈ T.nodes, directory calls n.id = some n) (call : TableCall) :
    ∀ n ∈ (T.step own call).nodes, directory (calls ++ [call]) n.id = some n := by
  intro x hx
  rw [directory_concat]
  cases call with
  | search now target => exact old x (mem_searchLoop V.pos x hx)
  | update now id addr isAlive =>
    unfold note
    dsimp only
    rcases mem_update V hx with ⟨hx, ne⟩ | ⟨alive, rfl⟩ | ⟨n, hn, rfl, rfl⟩
    · rw [if_pos ne.symm]
      exact old x hx
    · rw [if_neg (not_not.mpr rfl), if_pos alive]
    · rw [touch_id, if_neg (not_not.mpr rfl), old n hn]
      cases isAlive <;> rfl

end Buckets

namespace DhtTable

/-- A node of the table is the one of the directory. -/
lemma table_in_directory (own : DhtId) (calls : List TableCall) :
    ∀ node ∈ (run own calls).nodes, directory calls node.id = some node := by
  rw [(repr_run own calls).nodes]
  induction calls using List.reverseRecOn with
  | nil => exact fun n hn => absurd hn List.not_mem_nil
  | append_singleton calls call ih =>
    have step : Buckets.run own (calls ++ [call]) = (Buckets.run own calls).step own call := by
      rw [Buckets.run, List.foldl_append]
      rfl
    rw [step]
    exact Buckets.step_in_directory (Buckets.valid_run own calls) ih call

/-- A node of the table was last reported alive at its timestamp and with its address, and it is dead
    exactly if a query to this address timed out since. -/
theorem table_remembers (own : DhtId) (calls : List TableCall) :
    ∀ node ∈ (run own calls).nodes, Remembered calls node :=
  fun node hn => (directory_remembered (table_in_directory own calls node hn)).2

/-- Two nodes, of which the first one times out. -/
def timedOutCalls : List TableCall :=
  [.update 1 ⟨fun _ => 1⟩ ⟨fun _ => 7⟩ true, .update 2 ⟨fun _ => 2⟩ ⟨fun _ => 8⟩ true,
    .update 3 ⟨fun _ => 1⟩ ⟨fun _ => 7⟩ false]

/-- The dead node of a table. -/
theorem table_remembers_dead : ∃ node, node.isAlive = false ∧ Remembered timedOutCalls node := by
  have found : ((run ⟨fun _ => 0⟩ timedOutCalls).nodes.find? fun n => !n.isAlive).isSome := by
    decide +kernel
  obtain ⟨node, here⟩ := Option.isSome_iff_exists.mp found
  have dead := List.find?_some here
  exact ⟨node, by simpa using dead, table_remembers _ _ node (List.mem_of_find?_eq_some here)⟩

/-- A search finds up to sixteen nodes, each id once, as they were last reported. -/
lemma search_latest (own : DhtId) (calls : List TableCall) (now : Int) (id : DhtId) :
    ((run own calls).search own now id).2.length ≤ DHT_NODE_COUNT ∧
    (((run own calls).search own now id).2.map MsgNode.id).Nodup ∧
    ∀ entry ∈ ((run own calls).search own now id).2, ∃ node : DhtNode, node.entry = entry ∧
      Latest (calls.filterMap TableCall.report) node := by
  have V := Buckets.valid_run own calls
  have R := repr_run own calls
  have pos : 0 < (run own calls).buckets.length := R.length ▸ V.pos
  rw [(R.search pos id).2, Buckets.search_entries V.pos]
  refine ⟨List.length_take_le _ _, ?_, fun entry mem => ?_⟩
  · exact (Buckets.entries_nodup V now id).sublist ((List.take_sublist _ _).map _)
  · have found := (Buckets.entries_perm own now _ id).mem_iff.mp (List.mem_of_mem_take mem)
    obtain ⟨n, hn, e⟩ := List.mem_map.mp found
    have known := table_in_directory own calls n (R.nodes ▸ List.mem_of_mem_filter hn)
    exact ⟨n, e, (directory_remembered known).2.latest⟩

end DhtTable

/-! ## The table of a client -/

namespace DhtClient

/-- The sender of a lookup message, other than the own id, and when it was heard. -/
def hears (w : WordSize) (own : DhtId) (e : Env × Event) : Option (Int × DhtId × DhtAddress) :=
  match e.2 with
  | .receive memory len sockaddr =>
    match Msg.read w memory len with
    | some (.lookupReq srcid _) | some (.lookupRes srcid _ _) =>
      if srcid = own then none else some (e.1.updateTime, srcid, DhtAddress.serialize sockaddr)
    | _ => none
  | _ => none

/-- A client reports those alive that it hears. -/
lemma tableEvents_report (w : WordSize) (c : DhtClient) (e : Env × Event) :
    ((c.tableEvents w e.1 e.2).flatMap (TableEvent.calls c.id)).filterMap TableCall.report =
      (hears w c.id e).toList := by
  obtain ⟨env, event⟩ := e
  cases event with
  | lookupAsync id =>
    dsimp only [tableEvents]
    split <;> rfl
  | bootstrap address => rfl
  | setListen listen => rfl
  | refresh nbits drawn => rfl
  | receive memory len sockaddr =>
    dsimp only [tableEvents, hears]
    cases Msg.read w memory len with
    | none => rfl
    | some msg =>
      cases msg with
      | lookupReq srcid dstid =>
        simp only [msgEvents, List.flatMap_singleton, TableEvent.calls]
        split <;> rfl
      | lookupRes srcid dstid nodes =>
        simp only [msgEvents, List.flatMap_singleton, TableEvent.calls]
        split <;> rfl
      | _ => rfl
  | timeout source =>
    dsimp only [tableEvents, hears]
    split
    · unfold timeoutEvents
      split
      · rfl
      · split <;> rfl
    · rfl

variable (S : Sodium) (w : WordSize) (random : Nat → DhtKey)

/-- What a run reports to the table is what the client hears. -/
lemma runEvents_report (c : DhtClient) (events : List (Env × Event)) :
    ((runEvents S w random c events).flatMap (TableEvent.calls c.id)).filterMap TableCall.report =
      events.filterMap (hears w c.id) := by
  induction events generalizing c with
  | nil => rfl
  | cons e events ih =>
    have same : (c.step S w random e.1 e.2).id = c.id := (step_routed S w random c e.1 e.2).id
    have ih := ih (c.step S w random e.1 e.2)
    rw [same] at ih
    rw [runEvents, List.flatMap_append, List.filterMap_append, tableEvents_report, ih,
      List.filterMap_cons]
    cases hears w c.id e <;> rfl

/-- A node in the table of a client has the address from which it sent its last lookup message. -/
theorem client_remembers (key : DhtKey) (events : List (Env × Event)) :
    ∀ node ∈ (run S w random key events).table.nodes,
      Latest (events.filterMap (hears w (new S key).id)) node := by
  intro node mem
  rw [routed_run] at mem
  rw [← runEvents_report S w random (new S key) events]
  exact (directory_remembered (DhtTable.table_in_directory _ _ node mem)).2.latest

/-- A lookup request arrives at a new client. -/
def greeted : List (Env × Event) :=
  [(⟨0, 0, false⟩, .message (.lookupReq ⟨fun i => if i.val = 0 then 2 else 0⟩ ⟨fun _ => 0⟩)
    ⟨.ipv4 fun _ => 7, 5004⟩)]

/-- The node that sent it. -/
theorem client_remembers_greeted : ∃ node, Latest (greeted.filterMap
    (hears .w64 (new Sodium.transparent ⟨fun i => if i.val = 0 then 1 else 0⟩).id)) node := by
  have found : (run Sodium.transparent .w64 (fun _ => ⟨fun _ => 0⟩)
      ⟨fun i => if i.val = 0 then 1 else 0⟩ greeted).table.nodes.head?.isSome := by decide +kernel
  obtain ⟨node, here⟩ := Option.isSome_iff_exists.mp found
  exact ⟨node, client_remembers _ _ _ _ _ node (List.mem_of_head? here)⟩

end DhtClient

end Nanotalk
