import Nanotalk.Dht.Search
import Nanotalk.Dht.Ownership
import Nanotalk.Dht.Requests

/-!
# Answers from the target

A lookup finds its target in the node list of a response; the source id of the response is not
compared with the target. `target_answer_iff` says when the callbacks of a lookup whose target
answers are safe from failure: exactly where the node list names the target at the address the
response comes from.
-/

namespace Nanotalk
open Glib
open DhtClient (Env)

/-- A connection request to an address. -/
def Action.asks (dest : GSocketAddress) : Action → Bool
  | sendTo _ sockaddr (.connectionReq ..) => sockaddr = some dest
  | _ => false

namespace DhtClient

/-- The number of connection requests sent to an address. -/
def asked (c : DhtClient) (dest : GSocketAddress) : Nat := c.log.countP (·.asks dest)

variable {c c' : DhtClient} {l : DhtLookup} {dest : GSocketAddress}

/-- What was asked of an address is among the requests. -/
lemma asked_eq : c.asked dest = c.requests.countP (·.asks dest) := by
  rw [asked, requests, List.countP_filter]
  congr 1
  funext action
  cases action with
  | sendTo socket sockaddr msg => cases msg <;> simp [Action.asks, Action.requesting]
  | _ => rfl

lemma asked_of_requests (same : c'.requests = c.requests) : c'.asked dest = c.asked dest := by
  rw [asked_eq, asked_eq, same]

section Random

variable (random : Nat → DhtKey)

/-- One request is sent for each callback. -/
lemma asked_requestConnections (id : DhtId) (addr : DhtAddress) (results : List Nat) :
    (results.foldl (fun c r => c.requestConnection random id addr r) c).asked dest =
      c.asked dest + if addr.deserialize = dest then results.length else 0 := by
  have one : ∀ (c : DhtClient) r, (c.requestConnection random id addr r).asked dest =
      c.asked dest + if addr.deserialize = dest then 1 else 0 := by
    intro c r
    rw [asked_eq, requests_requestConnection, List.countP_cons, List.countP_cons, ← asked_eq]
    simp [Action.asks]
  induction results generalizing c with
  | nil => simp
  | cons r rs ih =>
    rw [List.foldl_cons, ih, one, List.length_cons]
    split <;> omega

/-- The first node that is the target counts. -/
lemma asked_updateLoop (nodes : List MsgNode) (foreign : l.id ≠ c.id) :
    (c.updateLoop random l nodes).asked dest = c.asked dest +
      (nodes.find? (·.id = l.id)).elim 0 fun node =>
        if node.addr.deserialize = dest then l.results.length else 0 := by
  induction nodes generalizing c l with
  | nil => exact asked_of_requests lookupDispatch_seeks.requests
  | cons node nodes ih =>
    unfold updateLoop
    split
    · rename_i own
      have other : node.id ≠ l.id := fun e => foreign (e.symm.trans own)
      rw [ih foreign, List.find?_cons_of_neg (by simpa using other)]
    · split
      · rename_i target
        rw [asked_of_requests (lookupRemove_seeks _).requests, List.find?_cons_of_pos (by simpa using target)]
        exact asked_requestConnections random _ _ _
      · rename_i other
        have foreign' : (l.insertQuery node).id ≠ c.id := by simpa using foreign
        rw [ih (c := c.putLookup (l.insertQuery node)) foreign',
          List.find?_cons_of_neg (by simpa using other)]
        simp only [DhtLookup.id_insertQuery, DhtLookup.results_insertQuery]
        rfl

end Random

/-- All of them go to an address exactly where the first node that is the target has it. -/
lemma elim_find_iff {nodes : List MsgNode} {id : DhtId} {addr : DhtAddress} {n : Nat} (pos : n ≠ 0) :
    ((nodes.find? (·.id = id)).elim 0 fun node =>
        if node.addr.deserialize = addr.deserialize then n else 0) = n ↔
      (nodes.find? (·.id = id)).map (·.addr) = some addr := by
  cases nodes.find? (·.id = id) with
  | none => exact iff_of_false pos.symm nofun
  | some node =>
    rw [Option.elim_some, Option.map_some, Option.some_inj]
    split
    · rename_i same
      exact iff_of_true rfl (DhtAddress.deserialize_injective same)
    · rename_i other
      exact iff_of_false pos.symm fun e => other (congrArg _ e)

end DhtClient

/-! ## Callbacks that will not fail -/

/-- A callback that waits for no lookup and has not failed. -/
structure Lookups.Gone (L : Lookups) (result : Nat) : Prop where
  old : result < L.calls
  absent : ∀ id l, L.table id = some l → result ∉ l.results
  unfailed : ∀ error, .completeInIdle result error ∉ L.log

namespace Lookups

variable {L L' : Lookups} {result : Nat}

/-- Something happens to a lookup that gets no new callbacks but later ones. -/
lemma Gone.put (G : L.Gone result) (l : DhtLookup) (new : List Action) (own : L.calls ≤ L'.calls)
    (table : L'.table = Function.update L.table l.id (some l)) (log : L'.log = new ++ L.log)
    (absent : result ∉ l.results) (quiet : ∀ error, .completeInIdle result error ∉ new) :
    L'.Gone result where
  old := Nat.lt_of_lt_of_le G.old own
  absent id l' here := by
    rw [table] at here
    by_cases same : id = l.id
    · subst same
      cases (Function.update_self ..).symm.trans here
      exact absent
    · rw [Function.update_of_ne same] at here
      exact G.absent id l' here
  unfailed error mem := by
    rw [log] at mem
    exact (List.mem_append.mp mem).elim (quiet error) (G.unfailed error)

lemma Gone.remove {id : DhtId} (G : L.Gone result) (new : List Action) (own : L'.calls = L.calls)
    (table : L'.table = Function.update L.table id none) (log : L'.log = new ++ L.log)
    (quiet : ∀ error, .completeInIdle result error ∉ new) : L'.Gone result where
  old := own ▸ G.old
  absent id' l' here := by
    rw [table] at here
    by_cases same : id' = id
    · subst same
      exact absurd ((Function.update_self ..).symm.trans here) (Option.some_ne_none _).symm
    · rw [Function.update_of_ne same] at here
      exact G.absent id' l' here
  unfailed error mem := by
    rw [log] at mem
    exact (List.mem_append.mp mem).elim (quiet error) (G.unfailed error)

/-- A callback that is gone stays so. -/
lemma Step.gone (step : Step L L') (G : L.Gone result) : L'.Gone result := by
  cases step with
  | refuse => exact ⟨Nat.lt_succ_of_lt G.old, G.absent, G.unfailed⟩
  | create quiet id =>
    exact G.put (.new id []) [_] (Nat.le_refl _) rfl rfl List.not_mem_nil (by simp)
  | @join l quiet here foreign =>
    refine G.put { l with results := L.calls :: l.results } [] (Nat.le_succ _) rfl
      rfl ?_ (by simp)
    -- the callback is an older one
    intro mem
    rcases List.mem_cons.mp mem with e | mem
    · exact Nat.ne_of_lt G.old e
    · exact G.absent _ _ here mem
  | @offer l nodes source here sound absent =>
    refine G.put (l.learn L.own nodes) [_] (Nat.le_refl _) rfl rfl ?_ (by simp)
    rw [DhtLookup.results_learn]
    exact G.absent _ _ here
  | @found l nodes source here present =>
    exact G.remove [_] rfl rfl rfl (by simp)
  | @request l q source quiet here sound next more armed =>
    have absent := G.absent _ _ here
    exact G.put (l.request q source) [_, _] (Nat.le_refl _) rfl rfl absent (by simp)
  | @answer l q srcid nodes quiet here sound mem foreign =>
    refine G.put (l.answer q srcid) [_] (Nat.le_refl _) rfl rfl ?_ (by simp)
    rw [(sound.answer srcid mem).results]
    exact G.absent _ _ here
  | @timeOut l q quiet here sound mem armed =>
    have absent := G.absent _ _ here
    exact G.put (l.timeOut q) [_] (Nat.le_refl _) rfl rfl absent (by simp)
  | @fail l quiet here sound exhausted =>
    refine G.remove _ rfl rfl rfl fun error mem => ?_
    have mem : result ∈ l.results := by
      simp only [List.mem_append, List.mem_map, List.mem_reverse, List.mem_singleton] at mem
      obtain ⟨r, mem, e⟩ | e := mem
      · cases e
        exact mem
      · cases e
    exact G.absent _ _ here mem

lemma Steps.gone (steps : L.Steps L') (G : L.Gone result) : L'.Gone result := by
  induction steps with
  | refl => exact G
  | tail _ step ih => exact step.gone ih

end Lookups

namespace DhtClient

variable {c : DhtClient} {l : DhtLookup}

/-- A callback that waits for a lookup waits for no other one, and it was not completed. It is gone
    with the lookup. -/
lemma gone_of_waiting {L : Lookups} {result : Nat}
    (one : c.places result = if result < c.calls then 1 else 0)
    (here : c.lookupTable l.id = some l) (mem : result ∈ l.results) (calls : L.calls = c.calls)
    (free : L.table l.id = none) (table : ∀ id, id ≠ l.id → L.table id = c.lookupTable id)
    (log : ∀ error, .completeInIdle result error ∈ L.log → .completeInIdle result error ∈ c.log) :
    L.Gone result := by
  have pos := List.count_pos_iff.mpr mem
  have le : l.results.count result ≤ tally c.lookupTable fun l => l.results.count result :=
    le_tally (fun l : DhtLookup => l.results.count result) here
  unfold places at one
  have old : result < c.calls := by
    by_contra new
    rw [if_neg new] at one
    omega
  rw [if_pos old] at one
  have single : tally c.lookupTable (fun l => l.results.count result) ≤ 1 := by omega
  refine ⟨calls ▸ old, ?_, ?_⟩
  · intro id l' here' mem'
    by_cases same : id = l.id
    · subst same
      exact absurd (free.symm.trans here') (Option.some_ne_none _).symm
    · rw [table id same] at here'
      exact same (eq_of_tally single here' here (List.count_pos_iff.mpr mem') pos)
  · intro error failed
    have completed : result ∈ c.completions :=
      List.mem_flatMap.mpr ⟨_, log error failed, List.mem_singleton.mpr rfl⟩
    have pos := List.count_pos_iff.mpr completed
    omega

/-- An answer to a query: the client before it looks at the nodes. -/
lemma lookupRes_updates (random : Nat → DhtKey) (env : Env) {sockaddr : GSocketAddress}
    {srcid : DhtId} {q : DhtQuery} (nodes : List MsgNode) (foreign : srcid ≠ c.id) (sound : l.Sound)
    (here : c.lookupTable l.id = some l) (known : l.query (.serialize sockaddr) = some q) :
    ∃ (b : DhtClient) (l' : DhtLookup),
      c.lookupRes random env sockaddr srcid l.id nodes = b.updateLoop random l' nodes ∧
      l'.id = l.id ∧ l'.results = l.results ∧ (∀ dest, b.asked dest = c.asked dest) ∧
      b.lookups =
        (c.lookups.note [.offered l.id nodes, .answered l.id q srcid nodes]).put l' := by
  have change := sound.answer srcid (sound.query_mem known).1
  refine ⟨_, l.answer q srcid, lookupRes_eq random env sockaddr nodes foreign here known, change.id,
    change.results, fun dest => ?_, ?_⟩
  · apply asked_of_requests
    rw [requests_act _ rfl]
    exact (queryDestroy_seeks _).requests.trans (requests_act _ rfl)
  · rw [lookups_act_searching _ rfl, lookups_putLookup, (queryDestroy_serves q).lookups,
      lookups_act_searching _ rfl, change.id]
    rfl

/-- The callbacks of a lookup are gone with it when an answer to it lists the target. -/
lemma lookupRes_gone (random : Nat → DhtKey) (env : Env) {sockaddr : GSocketAddress}
    {srcid : DhtId} {q : DhtQuery} {nodes : List MsgNode} {result : Nat} (foreign : srcid ≠ c.id)
    (target : l.id ≠ c.id) (sound : l.Sound) (here : c.lookupTable l.id = some l)
    (known : l.query (.serialize sockaddr) = some q) (listed : ∃ node ∈ nodes, node.id = l.id)
    (one : c.places result = if result < c.calls then 1 else 0) (mem : result ∈ l.results) :
    (c.lookupRes random env sockaddr srcid l.id nodes).lookups.Gone result := by
  obtain ⟨b, l', eq, id, _, _, lookups⟩ :=
    lookupRes_updates random env nodes foreign sound here known
  have own : b.id = c.id := congrArg Lookups.own lookups
  have present : ∃ node ∈ others b.id nodes, node.id = l'.id := by
    obtain ⟨node, listed, same⟩ := listed
    refine ⟨node, List.mem_filter.mpr ⟨listed, ?_⟩, same.trans id.symm⟩
    simpa [same, own] using target
  rw [eq, updateLoop_found random nodes present, lookups, id]
  refine gone_of_waiting one here mem rfl (Function.update_self ..) ?_ ?_
  · intro id' ne
    show Function.update (Function.update _ _ _) _ _ _ = _
    rw [Function.update_of_ne ne, Function.update_of_ne (id ▸ ne)]
    rfl
  · intro error mem
    have mem : .completeInIdle result error ∈ c.lookups.log := by
      simpa [Lookups.remove, Lookups.put, Lookups.note] using mem
    exact List.mem_of_mem_filter mem

variable (S : Sodium) (w : WordSize) (random : Nat → DhtKey) (key : DhtKey)
  (events : List (Env × Event)) (env : Env)

/-- The target of a lookup with waiting callbacks answers, from an address that the lookup knows.
    Then a connection request is sent to that address for each callback, and none of them fails
    later, exactly where the first node listed as the target has that address. -/
theorem target_answer_iff {memory : Nat → UInt8} {len : Nat} {sockaddr : GSocketAddress}
    {id : DhtId} {nodes : List MsgNode} {l : DhtLookup} {q : DhtQuery}
    (read : Msg.read w memory len = some (.lookupRes id id nodes))
    (here : (run S w random key events).lookupTable id = some l) (waiting : l.results ≠ [])
    (known : l.query (.serialize sockaddr) = some q) :
    let e : Env × Event := (env, .receive memory len sockaddr)
    let dest := (DhtAddress.serialize sockaddr).deserialize
    ((run S w random key (events ++ [e])).asked dest =
        (run S w random key events).asked dest + l.results.length ∧
      ∀ later, ∀ result ∈ l.results, ∀ error, error.code = .hostNotFound →
        .completeInIdle result error ∉ (run S w random key (events ++ [e] ++ later)).log) ↔
    (nodes.find? (·.id = id)).map (·.addr) = some (.serialize sockaddr) := by
  intro e dest
  have I := run_searched S w random key events
  have places := (places_run S w random key events).2
  have step : run S w random key (events ++ [e]) = (run S w random key events).lookupRes random env
      sockaddr id id nodes := by
    rw [run_concat]
    show receive S random env w _ memory len sockaddr = _
    rw [receive, read]
    rfl
  generalize run S w random key events = c at here I places step
  obtain ⟨rfl, D⟩ := I.table id l here
  have foreign : l.id ≠ c.id := fun own => waiting (D.results own)
  have count : (run S w random key (events ++ [e])).asked dest = c.asked dest +
      (nodes.find? (·.id = l.id)).elim 0 fun node =>
        if node.addr.deserialize = dest then l.results.length else 0 := by
    obtain ⟨b, l', eq, id, results, asked, lookups⟩ :=
      lookupRes_updates random env nodes foreign D.sound here known
    have own : b.id = c.id := congrArg Lookups.own lookups
    rw [step, eq, asked_updateLoop random nodes (id.trans_ne (own ▸ foreign)), asked, id, results]
  have some : l.results.length ≠ 0 := fun e => waiting (List.eq_nil_of_length_eq_zero e)
  rw [count, Nat.add_left_cancel_iff, elim_find_iff some, and_iff_left_iff_imp]
  intro listed later result mem error failure failed
  obtain ⟨node, found, -⟩ := Option.map_eq_some_iff.mp listed
  have target : node.id = l.id := by simpa using List.find?_some found
  have gone := lookupRes_gone random env foreign foreign D.sound here known
    ⟨node, List.mem_of_find?_eq_some found, target⟩ (places result) mem
  rw [← step] at gone
  have gone := (append_searches S w random key (events ++ [e]) later).gone gone
  exact gone.unfailed error (List.mem_filter.mpr ⟨failed, by simpa [Action.searching] using failure⟩)

/-- Client 1 looks up node 50, knowing node 40 only. -/
def movedRun : List (Env × Input) :=
  [(⟨0, 0, false⟩, .message (.lookupReq (nodeId 40) (nodeId 0)) (nodeAddr 40)),
    (⟨0, 0, false⟩, .event (.lookupAsync (nodeId 50)))]

/-- Node 50 answers at the address of node 40. -/
def movedAnswer (nodes : List MsgNode) : Env × Input :=
  (⟨0, 0, false⟩, .message (.lookupRes (nodeId 50) (nodeId 50) nodes) (nodeAddr 40))

/-- The lookup waits for the node that has moved. -/
lemma movedRun_waits : ∃ l q, (client1 movedRun).lookupTable (nodeId 50) = some l ∧
    l.results = [0] ∧ l.query (.serialize (nodeAddr 40)) = some q := by
  have short : ∀ e ∈ movedRun, e.2.Short := by simp +decide [movedRun, Input.Short, Msg.bytes_length]
  have waits : ((client1 movedRun).lookupTable (nodeId 50)).any fun l =>
      l.results = [0] ∧ (l.query (.serialize (nodeAddr 40))).isSome := by
    rw [client1_eq short]
    decide +kernel
  obtain ⟨l, here, waits⟩ := (Option.any_eq_true _ _).mp waits
  obtain ⟨results, known⟩ := of_decide_eq_true waits
  obtain ⟨q, known⟩ := Option.isSome_iff_exists.mp known
  exact ⟨l, q, here, results, known⟩

/-- A connection is requested, and the callback is safe, if node 50 lists itself. -/
theorem target_answer_listed :
    let run := run Sodium.transparent .w64 (fun _ => ⟨fun _ => 0⟩) ⟨fun i => if i.val = 0 then 1 else 0⟩
    let answered := DhtClient.events movedRun ++
      [(⟨0, 0, false⟩, (movedAnswer [⟨nodeId 50, .serialize (nodeAddr 40)⟩]).2.toEvent)]
    let dest := (DhtAddress.serialize (nodeAddr 40)).deserialize
    (run answered).asked dest = (run (DhtClient.events movedRun)).asked dest + 1 ∧
      ∀ later error, error.code = .hostNotFound →
        .completeInIdle 0 error ∉ (run (answered ++ later)).log := by
  intro run answered dest
  obtain ⟨l, q, here, results, known⟩ := movedRun_waits
  have short : (Msg.lookupRes (nodeId 50) (nodeId 50)
      [⟨nodeId 50, .serialize (nodeAddr 40)⟩]).bytes.length ≤ MSG_MTU := by decide
  have read := Event.msg_message .w64 short (nodeAddr 40)
  rw [Event.message, Event.msg] at read
  obtain ⟨asked, safe⟩ := (target_answer_iff Sodium.transparent .w64 (fun _ => ⟨fun _ => 0⟩)
    ⟨fun i => if i.val = 0 then 1 else 0⟩ (DhtClient.events movedRun) ⟨0, 0, false⟩ read here
    (results ▸ List.cons_ne_nil _ _) known).mpr (by decide)
  refine ⟨?_, fun later => safe later 0 (results ▸ List.mem_singleton.mpr rfl)⟩
  rw [results] at asked
  exact asked

/-- The callback fails if it does not, and no connection is requested. -/
theorem target_answer_fails : ∃ l q, (client1 movedRun).lookupTable (nodeId 50) = some l ∧
    l.results = [0] ∧ l.query (.serialize (nodeAddr 40)) = some q ∧
    .completeInIdle 0 ⟨.hostNotFound, "Lookup failed"⟩ ∈
      (client1 (movedRun ++ [movedAnswer []])).log ∧
    (client1 (movedRun ++ [movedAnswer []])).asked (nodeAddr 40) = 0 := by
  obtain ⟨l, q, here, results, known⟩ := movedRun_waits
  have short : ∀ e ∈ movedRun ++ [movedAnswer []], e.2.Short := by
    simp +decide [movedRun, movedAnswer, Input.Short, Msg.bytes_length]
  refine ⟨l, q, here, results, known, ?_⟩
  rw [client1_eq short]
  decide +kernel

end DhtClient

end Nanotalk
