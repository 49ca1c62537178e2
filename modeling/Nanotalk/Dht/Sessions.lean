import Mathlib.Data.List.Infix
import Mathlib.Data.List.Nodup
import Mathlib.Data.Set.Function
import Nanotalk.Dht.Handshake
import Nanotalk.Lib.Parties

/-!
# Sessions

What the log of one end of the handshake says about its connections: every entry is accounted for by
entries before it (`Ends.Recorded`), the nonces created are the numbers drawn, in order
(`Ends.creates_eq`), and, as long as no number is drawn twice, no nonce is delivered twice
(`Ends.Single`).
-/

namespace Nanotalk
open Glib

/-- The nonce that an entry of the log created. -/
def Action.created : Action → Option DhtKey
  | attempt _ nonce => some nonce
  | answer s => some s.nonce
  | _ => none

/-- The session whose keys an entry of the log derived. -/
def Action.session : Action → Option Session
  | answer s => some s
  | derive s => some s
  | _ => none

/-- The connection whose keys an entry of the log hands out: through `dht_client_lookup_finish`, which
    copies the keys of the connection that completed the result, or with the signal
    `new-connection`. -/
def Action.delivery : Action → Option DhtConnection
  | complete _ k => some k
  | newConnection k => some k
  | _ => none

namespace Ends

/-- The nonces created, the last one first. -/
def creates (E : Ends) : List DhtKey := E.log.filterMap Action.created

/-- The sessions whose keys were derived. -/
def sessions (E : Ends) : List Session := E.log.filterMap Action.session

/-- The connections whose keys were handed out. -/
def deliveries (E : Ends) : List DhtConnection := E.log.filterMap Action.delivery

/-- `E'` may be a later state of `E`. -/
structure Before (E E' : Ends) : Prop where
  id : E'.id = E.id
  pubkey : E'.pubkey = E.pubkey
  privkey : E'.privkey = E.privkey
  draws : E.draws ≤ E'.draws
  log : E.log <:+ E'.log

namespace Before

/-- Nothing happens. -/
lemma refl (E : Ends) : E.Before E := ⟨rfl, rfl, rfl, Nat.le_refl _, List.suffix_refl _⟩

/-- One after the other. -/
lemma trans {E E' E'' : Ends} (h : E.Before E') (h' : E'.Before E'') : E.Before E'' where
  id := h'.id.trans h.id
  pubkey := h'.pubkey.trans h.pubkey
  privkey := h'.privkey.trans h.privkey
  draws := Nat.le_trans h.draws h'.draws
  log := h.log.trans h'.log

/-- The log only grows. -/
lemma mem {E E' : Ends} (h : E.Before E') {x : Action} (mem : x ∈ E.log) : x ∈ E'.log :=
  h.log.subset mem

end Before

section Steps

variable {S : Sodium} {random : Nat → DhtKey} {m : Option (Msg × Bool)} {E E' : Ends}

/-- A step only adds. -/
lemma Step.before (st : Step S random m E E') : E.Before E' := by
  cases st with
  | idle => exact .refl _
  | listen _ => exact ⟨rfl, rfl, rfl, Nat.le_refl _, List.suffix_refl _⟩
  | drop _ => exact ⟨rfl, rfl, rfl, Nat.le_refl _, List.suffix_refl _⟩
  | attempt => exact ⟨rfl, rfl, rfl, Nat.le_succ _, List.suffix_cons _ _⟩
  | answer => exact ⟨rfl, rfl, rfl, Nat.le_succ _, List.suffix_append [_, _] _⟩
  | derive => exact ⟨rfl, rfl, rfl, Nat.le_refl _, List.suffix_cons _ _⟩
  | finish => exact ⟨rfl, rfl, rfl, Nat.le_refl _, List.suffix_append [_, _, _] _⟩
  | accept => exact ⟨rfl, rfl, rfl, Nat.le_refl _, List.suffix_cons _ _⟩

/-- So do steps. -/
lemma Steps.before (st : Steps S random E E') : E.Before E' := by
  induction st with
  | refl => exact .refl _
  | tail _ last ih => exact ih.trans last.before

/-- The nonces created are the numbers drawn, in order. -/
lemma Step.creates_eq (st : Step S random m E E')
    (eq : E.creates = ((List.range E.draws).map random).reverse) :
    E'.creates = ((List.range E'.draws).map random).reverse := by
  have drawn : random E.draws :: E.creates =
      ((List.range (E.draws + 1)).map random).reverse := by
    rw [eq, List.range_succ, List.map_append, List.reverse_append]
    rfl
  cases st with
  | idle => exact eq
  | listen _ => exact eq
  | drop _ => exact eq
  | attempt k foreign own =>
    change k.nonce :: E.creates = _
    rw [own]
    exact drawn
  | answer k socket sockaddr foreign listen secret own =>
    change k.nonce :: E.creates = _
    rw [own]
    exact drawn
  | derive => exact eq
  | finish => exact eq
  | accept => exact eq

/-! ## Entries of the log -/

variable (S random)

/-- The number was drawn. -/
def Drew (E : Ends) (nonce : DhtKey) : Prop := ∃ a < E.draws, random a = nonce

/-- What stands behind an entry of the log. -/
def Accounted (E : Ends) : Action → Prop
  | .attempt id nonce => id ≠ E.id ∧ E.Drew random nonce
  | .answer s => E.Drew random s.nonce ∧ DhtId.fromPubkey S s.pubkey ≠ E.id ∧
      DhtKey.makeShared S E.privkey s.pubkey = some s.shared
  | .derive s => .attempt (DhtId.fromPubkey S s.pubkey) s.nonce ∈ E.log ∧
      DhtKey.makeShared S E.privkey s.pubkey = some s.shared
  | .complete _ k => ∃ s, k.Keyed S s ∧ .derive s ∈ E.log
  | .newConnection k => ∃ s, k.Keyed S s ∧ .answer s ∈ E.log
  | .sendTo _ _ (.connectionRes1 _ _ _ tag) => ∃ s, .answer s ∈ E.log ∧
      tag = (DhtKey.derive S s.shared s.nonce s.peerNonce).2
  | .sendTo _ _ (.connectionRes2 _ tag) => ∃ r k s, .complete r k ∈ E.log ∧ k.Keyed S s ∧
      tag = (DhtKey.derive S s.shared s.nonce s.peerNonce).2
  | _ => True

/-- What stands behind a connection in the table. -/
structure Backed (E : Ends) (k : DhtConnection) : Prop where
  drew : E.Drew random k.nonce
  initiator : k.isRemote = false → .attempt k.id k.nonce ∈ E.log
  responder : k.isRemote = true → ∃ s, k.Keyed S s ∧ .answer s ∈ E.log

/-- Every entry of the log and every connection is accounted for. -/
structure Recorded (E : Ends) : Prop where
  log : ∀ x ∈ E.log, E.Accounted S random x
  table : ∀ nonce k, E.connectionTable nonce = some k → k.nonce = nonce ∧ E.Backed S random k

variable {S random}

namespace Before

/-- A nonce that was drawn stays drawn. -/
lemma drew (h : E.Before E') {nonce : DhtKey} (drew : E.Drew random nonce) :
    E'.Drew random nonce := by
  obtain ⟨a, lt, eq⟩ := drew
  exact ⟨a, Nat.lt_of_lt_of_le lt h.draws, eq⟩

/-- What is accounted for stays accounted for. -/
lemma accounted (h : E.Before E') {x : Action} (accounted : E.Accounted S random x) :
    E'.Accounted S random x := by
  unfold Accounted at accounted ⊢
  split at accounted
  · exact ⟨h.id ▸ accounted.1, h.drew accounted.2⟩
  · rw [h.id, h.privkey]
    exact ⟨h.drew accounted.1, accounted.2⟩
  · rw [h.privkey]
    exact ⟨h.mem accounted.1, accounted.2⟩
  · obtain ⟨s, keyed, mem⟩ := accounted
    exact ⟨s, keyed, h.mem mem⟩
  · obtain ⟨s, keyed, mem⟩ := accounted
    exact ⟨s, keyed, h.mem mem⟩
  · obtain ⟨s, mem, tag⟩ := accounted
    exact ⟨s, h.mem mem, tag⟩
  · obtain ⟨r, k, s, mem, keyed, tag⟩ := accounted
    exact ⟨r, k, s, h.mem mem, keyed, tag⟩
  · trivial

/-- A connection that is backed stays backed. -/
lemma backed (h : E.Before E') {k : DhtConnection} (backed : E.Backed S random k) :
    E'.Backed S random k where
  drew := h.drew backed.drew
  initiator role := h.mem (backed.initiator role)
  responder role := by
    obtain ⟨s, keyed, mem⟩ := backed.responder role
    exact ⟨s, keyed, h.mem mem⟩

/-- New entries of the log, each accounted for, and one place of the table that changes. -/
lemma recorded (h : E.Before E') (R : E.Recorded S random) (new : List Action)
    (log : E'.log = new ++ E.log) (accounted : ∀ x ∈ new, E'.Accounted S random x)
    (nonce : DhtKey) {v : Option DhtConnection}
    (table : E'.connectionTable = Function.update E.connectionTable nonce v)
    (backed : ∀ k, v = some k → k.nonce = nonce ∧ E'.Backed S random k) :
    E'.Recorded S random where
  log x mem := by
    rw [log, List.mem_append] at mem
    rcases mem with mem | mem
    · exact accounted x mem
    · exact h.accounted (R.log x mem)
  table nonce' k here := by
    rw [table, Function.update_apply] at here
    split at here
    · rename_i same
      exact same ▸ backed k here
    · obtain ⟨eq, old⟩ := R.table nonce' k here
      exact ⟨eq, h.backed old⟩

end Before

/-- What every step keeps. -/
theorem Step.recorded (st : Step S random m E E') (R : E.Recorded S random) :
    E'.Recorded S random := by
  have h := st.before
  cases st with
  | idle => exact R
  | listen _ => exact ⟨fun x mem => h.accounted (R.log x mem), fun n k here =>
      ⟨(R.table n k here).1, h.backed (R.table n k here).2⟩⟩
  | drop nonce => exact h.recorded R [] rfl (List.forall_mem_nil _) nonce rfl (fun _ e => by cases e)
  | attempt k foreign own role =>
    refine h.recorded R [_] rfl ?_ k.nonce rfl ?_
    · rw [List.forall_mem_singleton]
      exact ⟨foreign, E.draws, Nat.lt_succ_self _, own.symm⟩
    · rintro _ ⟨⟩
      exact ⟨rfl, ⟨E.draws, Nat.lt_succ_self _, own.symm⟩, fun _ => List.mem_cons_self,
        fun remote => absurd (role.symm.trans remote) Bool.false_ne_true⟩
  | answer k socket sockaddr foreign listen secret own role keyed =>
    refine h.recorded R [_, _] rfl ?_ k.nonce rfl ?_
    · rw [List.forall_mem_cons, List.forall_mem_singleton]
      exact ⟨⟨_, List.mem_cons_of_mem _ List.mem_cons_self, rfl⟩,
        ⟨E.draws, Nat.lt_succ_self _, own.symm⟩, foreign, secret⟩
    · rintro _ ⟨⟩
      exact ⟨rfl, ⟨E.draws, Nat.lt_succ_self _, own.symm⟩,
        fun initiator => absurd (initiator.symm.trans role) Bool.false_ne_true,
        fun _ => ⟨_, keyed, List.mem_cons_of_mem _ List.mem_cons_self⟩⟩
  | derive k' here role secret id own role' keyed =>
    obtain ⟨rfl, backed⟩ := R.table _ _ here
    have attempted := h.mem (backed.initiator role)
    rw [← id, keyed.id] at attempted
    have drew := h.drew backed.drew
    refine h.recorded R [_] rfl ?_ _ rfl ?_
    · rw [List.forall_mem_singleton]
      exact ⟨attempted, secret⟩
    · rintro _ ⟨⟩
      refine ⟨own, own.symm ▸ drew, fun _ => ?_,
        fun remote => absurd (role'.symm.trans remote) Bool.false_ne_true⟩
      rw [keyed.id, own]
      exact attempted
  | finish k' socket result sockaddr here role secret id own keyed =>
    obtain ⟨rfl, backed⟩ := R.table _ _ here
    have attempted := h.mem (backed.initiator role)
    rw [← id, keyed.id] at attempted
    refine h.recorded R [_, _, _] rfl ?_ _ rfl (fun _ e => by cases e)
    rw [List.forall_mem_cons, List.forall_mem_cons, List.forall_mem_singleton]
    refine ⟨⟨_, keyed, ?_⟩, ⟨result, k', _, List.mem_cons_self, keyed, rfl⟩, attempted, secret⟩
    exact List.mem_cons_of_mem _ (List.mem_cons_of_mem _ List.mem_cons_self)
  | accept here role verified =>
    obtain ⟨rfl, backed⟩ := R.table _ _ here
    obtain ⟨s, keyed, answered⟩ := backed.responder role
    refine h.recorded R [_] rfl ?_ _ rfl (fun _ e => by cases e)
    rw [List.forall_mem_singleton]
    exact ⟨s, keyed, h.mem answered⟩

/-! ## Deliveries -/

/-- No nonce is delivered twice, and none that is delivered is still in the table. -/
structure Single (E : Ends) : Prop where
  nodup : (E.deliveries.map DhtConnection.nonce).Nodup
  gone : ∀ k ∈ E.deliveries, E.connectionTable k.nonce = none

/-- A connection that is delivered has the keys of a session. -/
lemma Recorded.delivery (R : E.Recorded S random) {k : DhtConnection} (mem : k ∈ E.deliveries) :
    ∃ s ∈ E.sessions, k.Keyed S s ∧ E.Drew random s.nonce ∧
      DhtKey.makeShared S E.privkey s.pubkey = some s.shared := by
  obtain ⟨x, logged, delivers⟩ := List.mem_filterMap.mp mem
  have accounted := R.log x logged
  cases x with
  | complete r k' =>
    cases delivers
    obtain ⟨s, keyed, derived⟩ := accounted
    obtain ⟨attempted, secret⟩ := R.log _ derived
    exact ⟨s, List.mem_filterMap.mpr ⟨_, derived, rfl⟩, keyed, (R.log _ attempted).2, secret⟩
  | newConnection k' =>
    cases delivers
    obtain ⟨s, keyed, answered⟩ := accounted
    obtain ⟨drew, _, secret⟩ := R.log _ answered
    exact ⟨s, List.mem_filterMap.mpr ⟨_, answered, rfl⟩, keyed, drew, secret⟩
  | _ => cases delivers

namespace Single

/-- One place of the table changes and nothing is delivered. -/
lemma update (U : E.Single) (same : E'.deliveries = E.deliveries) {nonce : DhtKey}
    {v : Option DhtConnection}
    (table : E'.connectionTable = Function.update E.connectionTable nonce v)
    (new : ∀ k ∈ E.deliveries, k.nonce = nonce → v = none) : E'.Single where
  nodup := same ▸ U.nodup
  gone k mem := by
    rw [same] at mem
    rw [table, Function.update_apply]
    split
    · rename_i eq
      exact new k mem eq
    · exact U.gone k mem

/-- A connection leaves the table and is delivered. -/
lemma deliver (U : E.Single) {k k' : DhtConnection} {nonce : DhtKey} (eq : k'.nonce = nonce)
    (delivered : E'.deliveries = k' :: E.deliveries) (here : E.connectionTable nonce = some k)
    (table : E'.connectionTable = Function.update E.connectionTable nonce none) : E'.Single where
  nodup := by
    rw [delivered, List.map_cons, List.nodup_cons]
    refine ⟨?_, U.nodup⟩
    -- it would not be in the table any more
    intro again
    obtain ⟨k'', mem, eq'⟩ := List.mem_map.mp again
    have gone := U.gone k'' mem
    rw [eq', eq, here] at gone
    cases gone
  gone k'' mem := by
    rw [table, Function.update_apply]
    split
    · rfl
    · rename_i ne
      rw [delivered, List.mem_cons] at mem
      rcases mem with rfl | mem
      · exact absurd eq ne
      · exact U.gone k'' mem

end Single

/-- As long as no number is drawn twice, every step keeps deliveries single. -/
theorem Step.single (st : Step S random m E E') (R : E.Recorded S random)
    (distinct : Set.InjOn random (Set.Iio E'.draws)) (U : E.Single) : E'.Single := by
  -- a number drawn now was not delivered before
  have fresh : E.draws < E'.draws → ∀ k ∈ E.deliveries, k.nonce ≠ random E.draws := by
    intro lt k mem eq
    obtain ⟨s, _, keyed, ⟨a, old, drew⟩, _⟩ := R.delivery mem
    have same := distinct (old.trans lt) lt (drew.trans (keyed.nonce.trans eq))
    exact old.ne same
  cases st with
  | idle => exact U
  | listen _ => exact ⟨U.nodup, U.gone⟩
  | drop nonce => exact U.update rfl rfl fun _ _ _ => rfl
  | attempt k foreign own role =>
    exact U.update rfl rfl fun k' mem eq => absurd (eq.trans own) (fresh (Nat.lt_succ_self _) k' mem)
  | answer k socket sockaddr foreign listen secret own role keyed =>
    exact U.update rfl rfl fun k' mem eq => absurd (eq.trans own) (fresh (Nat.lt_succ_self _) k' mem)
  | derive k' here role secret id own role' keyed =>
    refine U.update rfl rfl fun k'' mem eq => ?_
    rw [← eq, U.gone k'' mem] at here
    cases here
  | finish k' socket result sockaddr here role secret id own keyed =>
    exact U.deliver own rfl here rfl
  | accept here role verified =>
    exact U.deliver (R.table _ _ here).1 rfl here rfl

/-! ## Reachable ends -/

variable (S random)

/-- What holds of every end reachable from `E₀`. -/
structure Traced (E₀ E : Ends) : Prop where
  before : E₀.Before E
  recorded : E.Recorded S random
  creates : E.creates = ((List.range E.draws).map random).reverse
  single : Set.InjOn random (Set.Iio E.draws) → E.Single

variable {S random}

/-- A step stays traced. -/
lemma Step.traced {E₀ : Ends} (st : Step S random m E E') (T : E₀.Traced S random E) :
    E₀.Traced S random E' where
  before := T.before.trans st.before
  recorded := st.recorded T.recorded
  creates := st.creates_eq T.creates
  single distinct :=
    st.single T.recorded distinct
      (T.single (distinct.mono (Set.Iio_subset_Iio st.before.draws)))

end Steps

end Ends

namespace DhtClient

/-- The connections whose keys were handed out, the last one first. -/
def deliveries (c : DhtClient) : List DhtConnection := c.log.filterMap Action.delivery

/-- The sessions whose keys were derived, the last one first. -/
def sessions (c : DhtClient) : List Session := c.log.filterMap Action.session

/-- What is picked from the log and belongs to the handshake is in the log of the end. -/
lemma ends_filterMap {α : Type} (f : Action → Option α) (only : ∀ x, x.traced = false → f x = none)
    (c : DhtClient) : c.ends.log.filterMap f = c.log.filterMap f := by
  unfold ends
  rw [List.filterMap_filter]
  congr 1
  funext x
  split
  · rfl
  · rename_i untraced
    exact (only x (by simpa using untraced)).symm

/-- The end sees the deliveries. -/
lemma ends_deliveries (c : DhtClient) : c.ends.deliveries = c.deliveries :=
  ends_filterMap Action.delivery (fun x untraced => by cases x <;> first | rfl | cases untraced) c

/-- The end sees the sessions. -/
lemma ends_sessions (c : DhtClient) : c.ends.sessions = c.sessions :=
  ends_filterMap Action.session (fun x untraced => by cases x <;> first | rfl | cases untraced) c

variable (S : Sodium) (w : WordSize) (random : Nat → DhtKey)

/-- What every step of the ends keeps, every event keeps. -/
lemma step_invariant {P : Ends → Prop}
    (keeps : ∀ m E E', Ends.Step S random m E E' → P E → P E') {c : DhtClient}
    (C : c.books.Consistent none) (env : Env) (e : Event) (holds : P c.ends) :
    P (c.step S w random env e).ends := by
  have refines := step_refines S w random C env e
  generalize (c.step S w random env e).ends = E' at refines
  rcases refines with own | ⟨msg, _, answer⟩
  · induction own with
    | refl => exact holds
    | tail _ last ih => exact keeps _ _ _ last ih
  · exact keeps _ _ _ answer holds

/-- What holds of a new end and is kept by every step holds after every run. -/
theorem run_invariant {P : Ends → Prop}
    (keeps : ∀ m E E', Ends.Step S random m E E' → P E → P E') (key : DhtKey)
    (initial : P (new S key).ends) (events : List (Env × Event)) :
    P (run S w random key events).ends := by
  induction events using List.reverseRecOn with
  | nil => exact initial
  | append_singleton events e ih =>
    have C := run_consistent S w random key events
    rw [run_concat]
    exact step_invariant S w random keeps C e.1 e.2 ih

/-- Nothing has happened yet. -/
lemma new_traced (key : DhtKey) : (new S key).ends.Traced S random (new S key).ends where
  before := .refl _
  recorded := ⟨List.forall_mem_nil _, fun _ _ e => by cases e⟩
  creates := rfl
  single _ := ⟨List.nodup_nil, nofun⟩

/-- Every state of a run is traced. -/
theorem run_traced (key : DhtKey) (events : List (Env × Event)) :
    (new S key).ends.Traced S random (run S w random key events).ends :=
  run_invariant S w random (fun _ _ _ st T => st.traced T) key (new_traced S random key) events

end DhtClient

end Nanotalk
