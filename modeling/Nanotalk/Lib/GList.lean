import Mathlib.Data.List.Nodup
import Mathlib.Data.List.Perm.Subperm
import Mathlib.Data.List.Range
import Mathlib.Logic.Function.Basic
import Mathlib.Tactic.Common

/-!
# GLib doubly linked lists

GLib's `GList` over an explicit heap. A list is a pointer to a cell, `NULL` being `none`; the list
functions below follow GLib's implementation cell by cell, so that a list whose first cell still
has a predecessor, which the API allows to be built, behaves as it does in C.

`Heap.Seg h pr l nx` says that the cells listed in `l` (addresses with their data) are linked in
this order, the first one having `pr` as predecessor and the last one `nx` as successor.
`Heap.Chain h p l` is a list as its reader sees it: starting at `p` and following `next` visits
exactly `l`. The rules of the second half state what each function does to a `Chain`, and which
cells it leaves alone.
-/

namespace Glib

/-- A `GList` cell. -/
structure Cell (α : Type) where
  data : α
  next : Option Nat
  prev : Option Nat

/-- A heap of `GList` cells. Addresses from `fresh` on have never been allocated. -/
structure Heap (α : Type) where
  cell : Nat → Option (Cell α)
  fresh : Nat

namespace Heap

variable {α : Type}

/-- The heap nothing has been allocated from. -/
def empty : Heap α := ⟨fun _ => none, 0⟩

/-- `list->next`. -/
def next (h : Heap α) (a : Nat) : Option Nat := (h.cell a).bind Cell.next

/-- `list->prev`. -/
def prev (h : Heap α) (a : Nat) : Option Nat := (h.cell a).bind Cell.prev

/-- Assign to fields of the cell at `a`. -/
def modify (h : Heap α) (a : Nat) (f : Cell α → Cell α) : Heap α :=
  { h with cell := Function.update h.cell a ((h.cell a).map f) }

/-- `list->next = v`. -/
def setNext (h : Heap α) (a : Nat) (v : Option Nat) : Heap α :=
  h.modify a fun c => { c with next := v }

/-- `list->prev = v`. -/
def setPrev (h : Heap α) (a : Nat) (v : Option Nat) : Heap α :=
  h.modify a fun c => { c with prev := v }

/-- `list->data = x`. -/
def setData (h : Heap α) (a : Nat) (x : α) : Heap α :=
  h.modify a fun c => { c with data := x }

/-- Free the cell at `a`. -/
def free (h : Heap α) (a : Nat) : Heap α :=
  { h with cell := Function.update h.cell a none }

/-- Allocate a cell. -/
def alloc (h : Heap α) (c : Cell α) : Nat × Heap α :=
  (h.fresh, ⟨Function.update h.cell h.fresh (some c), h.fresh + 1⟩)

/-- `g_list_prepend`. -/
def prepend (h : Heap α) (list : Option Nat) (x : α) : Option Nat × Heap α :=
  match list with
  | none =>
    let (a, h) := h.alloc ⟨x, none, none⟩
    (some a, h)
  | some l =>
    let pr := h.prev l
    let (a, h) := h.alloc ⟨x, some l, pr⟩
    let h := match pr with
      | some q => h.setNext q (some a)
      | none => h
    (some a, h.setPrev l (some a))

/-- `g_list_last`, the walk bounded by the number of cells ever allocated. -/
def last (h : Heap α) : Nat → Nat → Nat
  | 0, a => a
  | fuel + 1, a =>
    match h.next a with
    | some b => last h fuel b
    | none => a

/-- `g_list_concat`. -/
def concat (h : Heap α) (list1 list2 : Option Nat) : Option Nat × Heap α :=
  match list1, list2 with
  | _, none => (list1, h)
  | none, some b => (some b, h.setPrev b none)
  | some a, some b =>
    let t := h.last h.fresh a
    (some a, (h.setNext t (some b)).setPrev b (some t))

/-- `g_list_remove_link`. A neighbour that does not point back is left alone. -/
def removeLink (h : Heap α) (list : Option Nat) (link : Nat) : Option Nat × Heap α :=
  let nx := h.next link
  let pr := h.prev link
  let h := match pr with
    | some q => if h.next q = some link then h.setNext q nx else h
    | none => h
  let h := match nx with
    | some b => if h.prev b = some link then h.setPrev b pr else h
    | none => h
  let list := if list = some link then nx else list
  (list, (h.setNext link none).setPrev link none)

/-- `g_list_delete_link`. -/
def deleteLink (h : Heap α) (list : Option Nat) (link : Nat) : Option Nat × Heap α :=
  let (list, h) := h.removeLink list link
  (list, h.free link)

/-- The cells visited from `p` by following `next`. -/
def walk (h : Heap α) : Nat → Option Nat → List (Nat × α)
  | 0, _ => []
  | _, none => []
  | fuel + 1, some a =>
    match h.cell a with
    | some c => (a, c.data) :: walk h fuel c.next
    | none => []

/-- The data visited from `p` by following `next`. -/
def toList (h : Heap α) (p : Option Nat) : List α := (h.walk h.fresh p).map Prod.snd

/-! ## Linked segments -/

/-- The addresses of a list of cells. -/
abbrev addrs (l : List (Nat × α)) : List Nat := l.map Prod.fst

/-- The address of the first cell of `l`, or `nx` where `l` is empty. -/
def first (l : List (Nat × α)) (nx : Option Nat) : Option Nat :=
  match l with
  | [] => nx
  | (a, _) :: _ => some a

/-- The address of the last cell of `l`, or `pr` where `l` is empty. -/
def final (pr : Option Nat) : List (Nat × α) → Option Nat
  | [] => pr
  | (a, _) :: l => final (some a) l

/-- The cells of `l` are linked in this order, after `pr` and before `nx`. -/
def Seg (h : Heap α) (pr : Option Nat) : List (Nat × α) → Option Nat → Prop
  | [], _ => True
  | (a, x) :: l, nx => h.cell a = some ⟨x, first l nx, pr⟩ ∧ Seg h (some a) l nx

@[simp] lemma first_nil (nx : Option Nat) : first ([] : List (Nat × α)) nx = nx := rfl

/-- The first cell of a segment with cells. -/
@[simp] lemma first_cons (c : Nat × α) (l : List (Nat × α)) (nx : Option Nat) :
    first (c :: l) nx = some c.1 := rfl

@[simp] lemma first_append (l1 l2 : List (Nat × α)) (nx : Option Nat) :
    first (l1 ++ l2) nx = first l1 (first l2 nx) := by
  cases l1 <;> rfl

@[simp] lemma final_nil (pr : Option Nat) : final pr ([] : List (Nat × α)) = pr := rfl

/-- The last cell of a segment with cells. -/
@[simp] lemma final_cons (c : Nat × α) (l : List (Nat × α)) (pr : Option Nat) :
    final pr (c :: l) = final (some c.1) l := rfl

@[simp] lemma final_append (l1 l2 : List (Nat × α)) (pr : Option Nat) :
    final pr (l1 ++ l2) = final (final pr l1) l2 := by
  induction l1 generalizing pr with
  | nil => rfl
  | cons c l1 ih => exact ih (some c.1)

lemma first_mem {l : List (Nat × α)} {a : Nat} (e : first l none = some a) : a ∈ addrs l := by
  cases l with
  | nil => cases e
  | cons c l => cases e; exact List.mem_cons_self

/-- The last cell is in the segment, unless it is empty. -/
lemma final_mem {l : List (Nat × α)} {pr : Option Nat} {a : Nat} (e : final pr l = some a) :
    pr = some a ∨ a ∈ addrs l := by
  induction l generalizing pr with
  | nil => exact .inl e
  | cons c l ih =>
    rcases ih e with e' | hm
    · cases e'; exact .inr List.mem_cons_self
    · exact .inr (List.mem_cons_of_mem _ hm)

namespace Seg

variable {h h' : Heap α} {pr nx v : Option Nat} {l l1 l2 : List (Nat × α)} {a : Nat} {x : α}

lemma append : Seg h pr (l1 ++ l2) nx ↔ Seg h pr l1 (first l2 nx) ∧ Seg h (final pr l1) l2 nx := by
  induction l1 generalizing pr with
  | nil => exact ⟨fun sg => ⟨trivial, sg⟩, And.right⟩
  | cons c l1 ih => simp [Seg, ih, and_assoc]

/-- A segment is left alone by a heap that has the same cells. -/
lemma congr (sg : Seg h pr l nx) (eq : ∀ a ∈ addrs l, h'.cell a = h.cell a) : Seg h' pr l nx := by
  induction l generalizing pr with
  | nil => trivial
  | cons c l ih =>
    obtain ⟨hc, sg⟩ := sg
    exact ⟨(eq _ List.mem_cons_self).trans hc,
      ih sg fun a ha => eq a (List.mem_cons_of_mem _ ha)⟩

/-- The cells of a segment are allocated. -/
lemma cell (sg : Seg h pr l nx) (ha : a ∈ addrs l) : ∃ c, h.cell a = some c := by
  induction l generalizing pr with
  | nil => cases ha
  | cons c l ih =>
    obtain ⟨hc, sg⟩ := sg
    rcases List.mem_cons.mp ha with rfl | ha
    · exact ⟨_, hc⟩
    · exact ih sg ha

end Seg

variable {h h' : Heap α} {pr nx v : Option Nat} {l l1 l2 as bs : List (Nat × α)} {a b c : Nat} {x : α}

lemma modify_cell_self (f : Cell α → Cell α) :
    (h.modify a f).cell a = (h.cell a).map f := by
  simp [modify]

/-- Modifying a cell leaves other cells. -/
lemma modify_cell_ne (f : Cell α → Cell α) (ne : c ≠ a) : (h.modify a f).cell c = h.cell c := by
  simp [modify, ne]

/-- Modifying a cell allocates nothing. -/
@[simp] lemma modify_fresh (f : Cell α → Cell α) : (h.modify a f).fresh = h.fresh := rfl

/-- Setting `next` allocates nothing. -/
@[simp] lemma setNext_fresh : (h.setNext a v).fresh = h.fresh := rfl

/-- Setting `prev` allocates nothing. -/
@[simp] lemma setPrev_fresh : (h.setPrev a v).fresh = h.fresh := rfl

/-- Setting `data` allocates nothing. -/
@[simp] lemma setData_fresh : (h.setData a x).fresh = h.fresh := rfl

/-- Freeing a cell allocates nothing. -/
@[simp] lemma free_fresh : (h.free a).fresh = h.fresh := rfl

/-- Setting `next` leaves other cells. -/
lemma setNext_cell_ne (ne : c ≠ a) : (h.setNext a v).cell c = h.cell c := modify_cell_ne _ ne

/-- Setting `prev` leaves other cells. -/
lemma setPrev_cell_ne (ne : c ≠ a) : (h.setPrev a v).cell c = h.cell c := modify_cell_ne _ ne

/-- Setting `data` leaves other cells. -/
lemma setData_cell_ne (ne : c ≠ a) : (h.setData a x).cell c = h.cell c := modify_cell_ne _ ne

/-- Freeing a cell leaves other cells. -/
lemma free_cell_ne (ne : c ≠ a) : (h.free a).cell c = h.cell c := by simp [free, ne]

/-- Redirecting the last `next` pointer of a segment. -/
lemma Seg.setNext_final (sg : Seg h pr (l ++ [(a, x)]) nx) (na : a ∉ addrs l) :
    Seg (h.setNext a v) pr (l ++ [(a, x)]) v := by
  obtain ⟨sg1, ⟨hc, _⟩⟩ := Seg.append.mp sg
  refine Seg.append.mpr ⟨?_, ?_, trivial⟩
  · apply sg1.congr
    intro c hc
    exact setNext_cell_ne fun e => na (e ▸ hc)
  · simp [setNext, modify_cell_self, hc]

/-- Redirecting the first `prev` pointer of a segment. -/
lemma Seg.setPrev_first (sg : Seg h pr ((a, x) :: l) nx) (na : a ∉ addrs l) :
    Seg (h.setPrev a v) v ((a, x) :: l) nx := by
  obtain ⟨hc, sg⟩ := sg
  refine ⟨by simp [setPrev, modify_cell_self, hc], ?_⟩
  apply sg.congr
  intro c hc
  exact setPrev_cell_ne fun e => na (e ▸ hc)

/-- Overwriting the data of one cell of a segment. -/
lemma Seg.setData (sg : Seg h pr (l1 ++ (a, x) :: l2) nx) (nd : (addrs (l1 ++ (a, x) :: l2)).Nodup)
    (y : α) : Seg (h.setData a y) pr (l1 ++ (a, y) :: l2) nx := by
  obtain ⟨sg1, hc, sg2⟩ := Seg.append.mp sg
  simp only [addrs, List.map_append, List.map_cons, List.nodup_append, List.nodup_cons] at nd
  obtain ⟨_, ⟨na2, _⟩, dj⟩ := nd
  refine Seg.append.mpr ⟨?_, ?_, ?_⟩
  · apply sg1.congr
    intro c hc
    exact setData_cell_ne fun e => dj _ hc _ List.mem_cons_self e
  · simp [Heap.setData, modify_cell_self, hc]
  · apply sg2.congr
    intro c hc
    exact setData_cell_ne fun e => na2 (e ▸ hc)

/-! ## Chains -/

/-- Following `next` from `p` visits exactly the cells of `l`. What precedes the first cell, if
    anything, was allocated but is not one of the addresses `F` in use. -/
def Chain (h : Heap α) (F : List Nat) (p : Option Nat) (l : List (Nat × α)) : Prop :=
  p = first l none ∧ ∃ pr, Seg h pr l none ∧ ∀ q, pr = some q → q ∉ F ∧ q < h.fresh

namespace Chain

variable {F F' : List Nat} {p q : Option Nat}

lemma nil : Chain h F none ([] : List (Nat × α)) := ⟨rfl, none, trivial, nofun⟩

/-- A list in a larger set of cells. -/
lemma mono (ch : Chain h F p l) (sub : F' ⊆ F) : Chain h F' p l := by
  obtain ⟨e, pr, sg, out⟩ := ch
  exact ⟨e, pr, sg, fun q e => ⟨fun hm => (out q e).1 (sub hm), (out q e).2⟩⟩

/-- A chain survives in a heap that has the same cells and has freed no address. -/
lemma congr (ch : Chain h F p l) (eq : ∀ a ∈ addrs l, h'.cell a = h.cell a)
    (le : h.fresh ≤ h'.fresh) : Chain h' F p l := by
  obtain ⟨e, pr, sg, out⟩ := ch
  exact ⟨e, pr, sg.congr eq, fun q e => ⟨(out q e).1, Nat.lt_of_lt_of_le (out q e).2 le⟩⟩

/-- The chain after its first cell. The first cell may be forgotten. -/
lemma tail (ch : Chain h F p ((a, x) :: l)) (na : a ∉ F') (lt : a < h.fresh) :
    Chain h F' (first l none) l := by
  obtain ⟨e, pr, ⟨hc, sg⟩, out⟩ := ch
  exact ⟨rfl, some a, sg, fun q e => by cases e; exact ⟨na, lt⟩⟩

/-- The cell at the head of a chain. -/
lemma cell (ch : Chain h F p (l1 ++ (a, x) :: l2)) :
    ∃ pr, h.cell a = some ⟨x, first l2 none, pr⟩ := by
  obtain ⟨_, pr, sg, _⟩ := ch
  exact ⟨_, (Seg.append.mp sg).2.1⟩

end Chain

/-- Distinct addresses below `n` are at most `n` many. -/
lemma length_le_of_nodup {l : List Nat} {n : Nat} (nd : l.Nodup) (lt : ∀ a ∈ l, a < n) :
    l.length ≤ n := by
  have sub : l ⊆ List.range n := fun a ha => List.mem_range.mpr (lt a ha)
  simpa using (nd.subperm sub).length_le

/-! ## Removing a link -/

/-- First assignment of `g_list_remove_link`: the predecessor skips the link. -/
lemma Seg.skip_next (sg : Seg h pr l (some a)) (nd : (addrs l).Nodup) {h' : Heap α}
    (e : h' = match final pr l with
      | some q => if h.next q = some a then h.setNext q v else h
      | none => h) :
    Seg h' pr l v ∧ h'.fresh = h.fresh ∧ ∀ c, final pr l ≠ some c → h'.cell c = h.cell c := by
  rcases List.eq_nil_or_concat l with rfl | ⟨l, ⟨q, y⟩, rfl⟩
  · refine ⟨trivial, ?_⟩
    cases pr with
    | none => subst e; exact ⟨rfl, fun _ _ => rfl⟩
    | some q =>
      simp only [final_nil] at e ⊢
      split at e
      · subst e; exact ⟨rfl, fun c ne => setNext_cell_ne fun e => ne (e ▸ rfl)⟩
      · subst e; exact ⟨rfl, fun _ _ => rfl⟩
  · rw [List.concat_eq_append] at *
    obtain ⟨_, hq, _⟩ := Seg.append.mp sg
    have eq : h.next q = some a := by simp [next, hq]
    simp only [final_append, final_cons, final_nil, eq, if_true] at e ⊢
    subst e
    rw [addrs, List.map_append, List.nodup_append] at nd
    refine ⟨sg.setNext_final fun hm => nd.2.2 q hm q List.mem_cons_self rfl, rfl, ?_⟩
    exact fun c ne => setNext_cell_ne fun e => ne (e ▸ rfl)

/-- Second assignment of `g_list_remove_link`: the successor skips the link. -/
lemma Seg.skip_prev (sg : Seg h (some a) l none) (nd : (addrs l).Nodup) {h' : Heap α}
    (e : h' = match first l none with
      | some b => if h.prev b = some a then h.setPrev b v else h
      | none => h) :
    Seg h' v l none ∧ h'.fresh = h.fresh ∧ ∀ c, first l none ≠ some c → h'.cell c = h.cell c := by
  cases l with
  | nil => subst e; exact ⟨trivial, rfl, fun _ _ => rfl⟩
  | cons b l =>
    obtain ⟨b, y⟩ := b
    have eq : h.prev b = some a := by simp [prev, sg.1]
    simp only [first_cons, eq, if_true] at e ⊢
    subst e
    exact ⟨sg.setPrev_first (List.nodup_cons.mp nd).1, rfl,
      fun c ne => setPrev_cell_ne fun e => ne (e ▸ rfl)⟩

/-- The assignments of `g_list_remove_link` in their order, the neighbours of the link being given. -/
lemma removeLink_eq {pr : Option Nat} {h1 h2 : Heap α} (enx : h.next a = first bs none)
    (epr : h.prev a = final pr as) (na : a ∉ addrs as)
    (e1 : h1 = match final pr as with
      | some q => if h.next q = some a then h.setNext q (first bs none) else h
      | none => h)
    (e2 : h2 = match first bs none with
      | some b => if h1.prev b = some a then h1.setPrev b (final pr as) else h1
      | none => h1) :
    h.removeLink (first (as ++ (a, x) :: bs) none) a =
      (first (as ++ bs) none, (h2.setNext a none).setPrev a none) := by
  unfold removeLink
  simp only [enx, epr]
  rw [← e1, ← e2]
  refine Prod.ext ?_ rfl
  cases as with
  | nil => simp
  | cons c as =>
    have ne : c.1 ≠ a := fun e => na (e ▸ List.mem_cons_self)
    simp [ne]

/-- `g_list_remove_link` takes one cell out of a chain, unlinks it, and touches no other address
    in use. -/
lemma removeLink_spec {F : List Nat} {p : Option Nat} (ch : Chain h F p (as ++ (a, x) :: bs))
    (nd : (addrs (as ++ (a, x) :: bs)).Nodup) (sub : addrs (as ++ (a, x) :: bs) ⊆ F) :
    Chain (h.removeLink p a).2 F (h.removeLink p a).1 (as ++ bs) ∧
    (h.removeLink p a).2.cell a = some ⟨x, none, none⟩ ∧
    (h.removeLink p a).2.fresh = h.fresh ∧
    ∀ c ∈ F, c ∉ addrs (as ++ (a, x) :: bs) → (h.removeLink p a).2.cell c = h.cell c := by
  obtain ⟨rfl, pr, sg, out⟩ := ch
  obtain ⟨sgA, hc, sgB⟩ := Seg.append.mp sg
  have enx : h.next a = first bs none := by simp [next, hc]
  have epr : h.prev a = final pr as := by simp [prev, hc]
  obtain ⟨ndA, ndB, dj⟩ := List.nodup_append.mp (by simpa only [addrs, List.map_append] using nd)
  obtain ⟨naB, ndB⟩ := List.nodup_cons.mp ndB
  have naA : a ∉ addrs as := fun hm => dj a hm a List.mem_cons_self rfl
  have nprF : ∀ q, final pr as = some q → q ∈ addrs as ∨ q ∉ F := by
    intro q e
    rcases final_mem e with e | hm
    · exact .inr (out q e).1
    · exact .inl hm
  -- the predecessor skips the link
  obtain ⟨h1, e1⟩ : ∃ h1, h1 = match final pr as with
      | some q => if h.next q = some a then h.setNext q (first bs none) else h
      | none => h := ⟨_, rfl⟩
  obtain ⟨sgA1, fr1, frame1⟩ := Seg.skip_next sgA ndA e1
  have sgB1 : Seg h1 (some a) bs none := by
    apply sgB.congr
    intro c hm
    refine frame1 c fun e => ?_
    rcases nprF c e with hm' | hn
    · exact dj c hm' c (List.mem_cons_of_mem _ hm) rfl
    · exact hn (sub (by simp at hm ⊢; exact .inr (.inr hm)))
  have hc1 : h1.cell a = some ⟨x, first bs none, final pr as⟩ := by
    refine (frame1 a fun e => ?_).trans hc
    rcases nprF a e with hm | hn
    · exact naA hm
    · exact hn (sub (by simp))
  -- the successor skips the link
  obtain ⟨h2, e2⟩ : ∃ h2, h2 = match first bs none with
      | some b => if h1.prev b = some a then h1.setPrev b (final pr as) else h1
      | none => h1 := ⟨_, rfl⟩
  obtain ⟨sgB2, fr2, frame2⟩ := Seg.skip_prev sgB1 ndB e2
  have notB : ∀ c, c ∉ addrs bs → first bs none ≠ some c := fun c hn e => hn (first_mem e)
  have sgA2 : Seg h2 pr as (first bs none) := by
    apply sgA1.congr
    intro c hm
    exact frame2 c (notB c fun hm' => dj c hm c (List.mem_cons_of_mem _ hm') rfl)
  have hc2 : h2.cell a = some ⟨x, first bs none, final pr as⟩ := (frame2 a (notB a naB)).trans hc1
  -- the link is reset
  rw [removeLink_eq enx epr naA e1 e2]
  have frame3 : ∀ c, c ≠ a → ((h2.setNext a none).setPrev a none).cell c = h2.cell c :=
    fun c ne => (setPrev_cell_ne ne).trans (setNext_cell_ne ne)
  refine ⟨⟨rfl, pr, Seg.append.mpr ⟨?_, ?_⟩, ?_⟩, ?_, ?_, ?_⟩
  · exact sgA2.congr fun c hm => frame3 c fun e => naA (e ▸ hm)
  · exact sgB2.congr fun c hm => frame3 c fun e => naB (e ▸ hm)
  · intro q e
    refine ⟨(out q e).1, ?_⟩
    simpa [fr1, fr2] using (out q e).2
  · simp [setPrev, setNext, modify_cell_self, hc2]
  · simp [fr1, fr2]
  · intro c hF hn
    simp only [addrs, List.map_append, List.map_cons, List.mem_append, List.mem_cons, not_or] at hn
    obtain ⟨hnA, hna, hnB⟩ := hn
    rw [frame3 c hna, frame2 c (notB c hnB)]
    refine frame1 c fun e => ?_
    rcases nprF c e with hm | hn
    · exact hnA hm
    · exact hn hF

/-- `g_list_delete_link` also frees the cell. -/
lemma deleteLink_spec {F : List Nat} {p : Option Nat} (ch : Chain h F p (as ++ (a, x) :: bs))
    (nd : (addrs (as ++ (a, x) :: bs)).Nodup) (sub : addrs (as ++ (a, x) :: bs) ⊆ F) :
    Chain (h.deleteLink p a).2 F (h.deleteLink p a).1 (as ++ bs) ∧
    (h.deleteLink p a).2.fresh = h.fresh ∧
    ∀ c ∈ F, c ∉ addrs (as ++ (a, x) :: bs) → (h.deleteLink p a).2.cell c = h.cell c := by
  obtain ⟨ch', _, fr, frame⟩ := removeLink_spec ch nd sub
  have na : a ∉ addrs (as ++ bs) := by
    have nd' := List.perm_middle.nodup (by simpa only [addrs, List.map_append, List.map_cons] using nd)
    simpa only [addrs, List.map_append] using (List.nodup_cons.mp nd').1
  refine ⟨ch'.congr (fun c hm => free_cell_ne fun e => na (e ▸ hm)) le_rfl, fr, ?_⟩
  intro c hF hn
  have ne : c ≠ a := fun e => hn (by simp [e])
  exact (free_cell_ne ne).trans (frame c hF hn)

/-! ## Concatenating and prepending -/

/-- `g_list_last` reaches the last cell when it may take enough steps. -/
lemma last_spec {fuel : Nat} (sg : Seg h pr (l ++ [(b, x)]) none)
    (e : first (l ++ [(b, x)]) none = some a) (le : l.length ≤ fuel) : h.last fuel a = b := by
  induction l generalizing pr a fuel with
  | nil =>
    cases e
    have en : h.next b = none := by simp [next, sg.1]
    cases fuel <;> simp [last, en]
  | cons c l ih =>
    obtain ⟨hc, sg⟩ := sg
    cases e
    cases fuel with
    | zero => exact absurd le (by simp)
    | succ fuel =>
      obtain ⟨d, ed⟩ : ∃ d, first (l ++ [(b, x)]) none = some d := by cases l <;> simp
      have en : h.next c.1 = some d := by
        rw [List.append_eq, ed] at hc
        simp [next, hc]
      simp only [last, en]
      exact ih sg ed (Nat.le_of_succ_le_succ le)

/-- `g_list_concat` appends a chain to a chain. -/
lemma concat_spec {F : List Nat} {p q : Option Nat} (ch1 : Chain h F p l1) (ch2 : Chain h F q l2)
    (nd : (addrs (l1 ++ l2)).Nodup) (lt : ∀ c ∈ addrs (l1 ++ l2), c < h.fresh) :
    Chain (h.concat p q).2 F (h.concat p q).1 (l1 ++ l2) ∧
    (h.concat p q).2.fresh = h.fresh ∧
    ∀ c, c ∉ addrs (l1 ++ l2) → (h.concat p q).2.cell c = h.cell c := by
  obtain ⟨ep, pr, sg1, out1⟩ := ch1
  obtain ⟨eq, pr2, sg2, _⟩ := ch2
  cases l2 with
  | nil =>
    subst eq
    have ec : h.concat p none = (p, h) := by cases p <;> rfl
    simp only [first_nil, ec, List.append_nil]
    exact ⟨⟨ep, pr, sg1, out1⟩, trivial, fun _ _ => trivial⟩
  | cons d l2 =>
    obtain ⟨d, y⟩ := d
    subst eq
    obtain ⟨nd1, nd2, dj⟩ := List.nodup_append.mp (by simpa only [addrs, List.map_append] using nd)
    have nd2 := (List.nodup_cons.mp nd2).1
    rcases List.eq_nil_or_concat l1 with rfl | ⟨l1, ⟨t, z⟩, rfl⟩
    · subst ep
      refine ⟨⟨rfl, none, sg2.setPrev_first nd2, nofun⟩, rfl, ?_⟩
      exact fun c hn => setPrev_cell_ne fun e => hn (by simp [e])
    · rw [List.concat_eq_append] at *
      obtain ⟨a, ea⟩ : ∃ a, first (l1 ++ [(t, z)]) none = some a := by cases l1 <;> simp
      have ndA : (addrs (l1 ++ [(t, z)])).Nodup := by simpa only [addrs] using nd1
      have et : h.last h.fresh a = t := by
        apply last_spec sg1 ea
        have le := length_le_of_nodup nd lt
        simp at le
        omega
      have nt : t ∉ addrs l1 := by
        rw [addrs, List.map_append, List.nodup_append] at ndA
        exact fun hm => ndA.2.2 t hm t List.mem_cons_self rfl
      have ec : h.concat p (some d) = (p, (h.setNext t (some d)).setPrev d (some t)) := by
        rw [ep, ea]; simp [concat, et]
      have frame : ∀ c, c ≠ t → c ≠ d →
          ((h.setNext t (some d)).setPrev d (some t)).cell c = h.cell c :=
        fun c n1 n2 => (setPrev_cell_ne n2).trans (setNext_cell_ne n1)
      have td : t ≠ d := dj t (by simp) d List.mem_cons_self
      simp only [first_cons, ec]
      refine ⟨⟨by simp [ep], pr, Seg.append.mpr ⟨?_, ?_⟩, out1⟩, rfl, ?_⟩
      · apply (sg1.setNext_final nt).congr
        intro c hm
        exact setPrev_cell_ne fun e => dj c hm d List.mem_cons_self e
      · have sg2' : Seg (h.setNext t (some d)) pr2 ((d, y) :: l2) none := by
          apply sg2.congr
          intro c hm
          exact setNext_cell_ne fun e => dj t (by simp) c hm e.symm
        simpa using sg2'.setPrev_first nd2
      · intro c hn
        refine frame c (fun e => hn (by simp [e])) (fun e => hn (by simp [e]))

/-- `g_list_prepend` puts a new cell in front of a chain. -/
lemma prepend_spec {F : List Nat} {p : Option Nat} (ch : Chain h F p l) (nd : (addrs l).Nodup)
    (sub : addrs l ⊆ F) (lt : ∀ c ∈ F, c < h.fresh) (x : α) :
    Chain (h.prepend p x).2 (h.fresh :: F) (h.prepend p x).1 ((h.fresh, x) :: l) ∧
    (h.prepend p x).2.fresh = h.fresh + 1 ∧
    ∀ c ∈ F, c ∉ addrs l → (h.prepend p x).2.cell c = h.cell c := by
  obtain ⟨rfl, pr, sg, out⟩ := ch
  have nf : ∀ c ∈ F, c ≠ h.fresh := fun c hm => Nat.ne_of_lt (lt c hm)
  cases l with
  | nil =>
    refine ⟨⟨rfl, none, ⟨by simp [prepend, alloc], trivial⟩, nofun⟩, rfl, ?_⟩
    exact fun c hF _ => Function.update_of_ne (nf c hF) _ _
  | cons d l =>
    obtain ⟨d, y⟩ := d
    have hd : h.cell d = some ⟨y, first l none, pr⟩ := sg.1
    have dF : d ∈ F := sub List.mem_cons_self
    have epr : h.prev d = pr := by simp [prev, hd]
    have nout : ∀ q, pr = some q → q ≠ h.fresh := fun q e => Nat.ne_of_lt (out q e).2
    -- the heap after the allocation and the assignment to the predecessor
    obtain ⟨h1, e1⟩ : ∃ h1, h1 = match pr with
        | some q => (h.alloc ⟨x, some d, pr⟩).2.setNext q (some h.fresh)
        | none => (h.alloc ⟨x, some d, pr⟩).2 := ⟨_, rfl⟩
    have frame1 : ∀ c ∈ F, h1.cell c = h.cell c := by
      intro c hF
      have ea : (h.alloc ⟨x, some d, pr⟩).2.cell c = h.cell c := Function.update_of_ne (nf c hF) _ _
      cases pr with
      | none => subst e1; exact ea
      | some q =>
        subst e1
        exact (setNext_cell_ne fun (e : c = q) => (out q rfl).1 (e ▸ hF)).trans ea
    have hf1 : h1.cell h.fresh = some ⟨x, some d, pr⟩ := by
      have ea : (h.alloc ⟨x, some d, pr⟩).2.cell h.fresh = some ⟨x, some d, pr⟩ :=
        Function.update_self _ _ _
      cases pr with
      | none => subst e1; exact ea
      | some q => subst e1; exact (setNext_cell_ne (nout q rfl).symm).trans ea
    have fr1 : h1.fresh = h.fresh + 1 := by cases pr <;> subst e1 <;> rfl
    have ep : h.prepend (some d) x = (some h.fresh, h1.setPrev d (some h.fresh)) := by
      unfold prepend
      simp only [epr]
      cases pr <;> subst e1 <;> rfl
    have nd1 := (List.nodup_cons.mp nd).1
    simp only [first_cons, ep]
    have sg1 : Seg h1 pr ((d, y) :: l) none := sg.congr fun c hm => frame1 c (sub hm)
    refine ⟨⟨rfl, pr, ⟨?_, sg1.setPrev_first nd1⟩, ?_⟩, by simp [fr1], ?_⟩
    · rw [setPrev_cell_ne (nf d dF).symm]
      exact hf1
    · intro q e
      refine ⟨?_, by simp only [setPrev_fresh, fr1]; exact Nat.lt_succ_of_lt (out q e).2⟩
      intro hm
      rcases List.mem_cons.mp hm with rfl | hm
      · exact nout _ e rfl
      · exact (out q e).1 hm
    · intro c hF hn
      rw [setPrev_cell_ne fun (e : c = d) => hn (e ▸ List.mem_cons_self)]
      exact frame1 c hF

/-! ## Reading -/

/-- A walk that may take enough steps visits exactly the chain. -/
lemma walk_spec {fuel : Nat} (sg : Seg h pr l none) (le : l.length ≤ fuel) :
    h.walk fuel (first l none) = l := by
  induction l generalizing pr fuel with
  | nil => cases fuel <;> rfl
  | cons c l ih =>
    obtain ⟨hc, sg⟩ := sg
    cases fuel with
    | zero => cases le
    | succ fuel =>
      simp only [first_cons, walk, hc]
      rw [ih sg (Nat.le_of_succ_le_succ le)]

/-! ## Several lists on one heap -/

/-- The pointers `ps` are the heads of disjoint chains with the cells `cs`. -/
structure Forest (h : Heap α) (ps : List (Option Nat)) (cs : List (List (Nat × α))) : Prop where
  chains : List.Forall₂ (Chain h (addrs cs.flatten)) ps cs
  nodup : (addrs cs.flatten).Nodup
  lt : ∀ a ∈ addrs cs.flatten, a < h.fresh

/-- Two lists related element by element, cut at an index. -/
lemma forall₂_cut {β γ : Type} {R : β → γ → Prop} {ps : List β} {cs : List γ} {i : Nat}
    (all : List.Forall₂ R ps cs) (lt : i < ps.length) :
    ∃ P p Q A c B, ps = P ++ p :: Q ∧ cs = A ++ c :: B ∧ P.length = i ∧
      List.Forall₂ R P A ∧ R p c ∧ List.Forall₂ R Q B := by
  induction all generalizing i with
  | nil => cases lt
  | @cons p c ps cs r all ih =>
    cases i with
    | zero => exact ⟨[], p, ps, [], c, cs, rfl, rfl, rfl, .nil, r, all⟩
    | succ i =>
      obtain ⟨P, p', Q, A, c', B, e1, e2, e3, r1, r2, r3⟩ := ih (Nat.lt_of_succ_lt_succ lt)
      exact ⟨p :: P, p', Q, c :: A, c', B, by simp [e1], by simp [e2], by simp [e3],
        .cons r r1, r2, r3⟩

lemma forall₂_append {β γ : Type} {R : β → γ → Prop} {P Q : List β} {A B : List γ}
    (len : P.length = A.length) :
    List.Forall₂ R (P ++ Q) (A ++ B) ↔ List.Forall₂ R P A ∧ List.Forall₂ R Q B := by
  induction P generalizing A with
  | nil =>
    obtain rfl : A = [] := List.length_eq_zero_iff.mp len.symm
    exact ⟨fun all => ⟨.nil, all⟩, And.right⟩
  | cons p P ih =>
    cases A with
    | nil => cases len
    | cons a A => simp [ih (Nat.succ.inj len), and_assoc]

namespace Forest

variable {P Q X X' ps : List (Option Nat)} {p q : Option Nat}
  {A B Y Y' cs : List (List (Nat × α))} {k : List (Nat × α)}

lemma empty : Forest (Heap.empty : Heap α) [none] [[]] :=
  ⟨.cons .nil .nil, List.nodup_nil, nofun⟩

/-- Chains survive a change of the heap at other addresses. -/
lemma chains_congr {F F' : List Nat} (all : List.Forall₂ (Chain h F) ps cs)
    (eq : ∀ a ∈ addrs cs.flatten, h'.cell a = h.cell a) (le : h.fresh ≤ h'.fresh)
    (sub : ∀ a ∈ F', a ∈ F ∨ h.fresh ≤ a) : List.Forall₂ (Chain h' F') ps cs := by
  induction all with
  | nil => exact .nil
  | @cons p c ps cs ch all ih =>
    refine .cons ?_ (ih fun a ha => eq a (by simp at ha ⊢; exact .inr ha))
    obtain ⟨e, pr, sg, out⟩ := ch
    refine ⟨e, pr, sg.congr fun a ha => eq a (by simp at ha ⊢; exact .inl ha), ?_⟩
    intro q eq
    obtain ⟨nF, lt⟩ := out q eq
    refine ⟨fun hm => ?_, Nat.lt_of_lt_of_le lt le⟩
    rcases sub q hm with hF | ge
    · exact nF hF
    · exact absurd lt (Nat.not_lt.mpr ge)

/-- Some chains of a forest are replaced by others, made of their cells and of new ones. -/
lemma replace (fo : Forest h (P ++ X ++ Q) (A ++ Y ++ B)) (lenP : P.length = A.length)
    (lenX : X.length = Y.length) (ch : List.Forall₂ (Chain h' (addrs (A ++ Y' ++ B).flatten)) X' Y')
    (nd : (addrs Y'.flatten).Nodup)
    (frame : ∀ a ∈ addrs (A ++ Y ++ B).flatten, a ∉ addrs Y.flatten → h'.cell a = h.cell a)
    (le : h.fresh ≤ h'.fresh)
    (sub : ∀ a ∈ addrs Y'.flatten, a ∈ addrs Y.flatten ∨ h.fresh ≤ a ∧ a < h'.fresh) :
    Forest h' (P ++ X' ++ Q) (A ++ Y' ++ B) := by
  obtain ⟨chains, nodup, lt⟩ := fo
  have eF : ∀ Z : List (List (Nat × α)), addrs (A ++ Z ++ B).flatten =
      addrs A.flatten ++ (addrs Z.flatten ++ addrs B.flatten) := by intro Z; simp [addrs]
  rw [eF] at nodup lt
  obtain ⟨ndA, ndR, djA⟩ := List.nodup_append.mp nodup
  obtain ⟨_, ndB, djB⟩ := List.nodup_append.mp ndR
  have ltA : ∀ a ∈ addrs A.flatten, a < h.fresh := fun a ha => lt a (List.mem_append_left _ ha)
  have ltB : ∀ a ∈ addrs B.flatten, a < h.fresh := fun a ha =>
    lt a (List.mem_append_right _ (List.mem_append_right _ ha))
  -- a cell of the new chains is no cell of the chains that stay
  have new : ∀ a ∈ addrs Y'.flatten, ∀ F : List Nat, (∀ b ∈ addrs Y.flatten, b ∉ F) →
      (∀ b ∈ F, b < h.fresh) → a ∉ F := by
    intro a ha F hY hF hm
    rcases sub a ha with hY' | ⟨ge, _⟩
    · exact hY a hY' hm
    · exact absurd (hF a hm) (Nat.not_lt.mpr ge)
  have grow : ∀ a ∈ addrs (A ++ Y' ++ B).flatten, a ∈ addrs (A ++ Y ++ B).flatten ∨ h.fresh ≤ a := by
    intro a ha
    rw [eF] at ha ⊢
    rcases List.mem_append.mp ha with ha | ha
    · exact .inl (List.mem_append_left _ ha)
    rcases List.mem_append.mp ha with ha | ha
    · rcases sub a ha with hY | ⟨ge, _⟩
      · exact .inl (List.mem_append_right _ (List.mem_append_left _ hY))
      · exact .inr ge
    · exact .inl (List.mem_append_right _ (List.mem_append_right _ ha))
  have lenX' : X'.length = Y'.length := ch.length_eq
  obtain ⟨chR, chB⟩ := (forall₂_append (by simp [lenP, lenX])).mp chains
  obtain ⟨chA, _⟩ := (forall₂_append lenP).mp chR
  refine ⟨?_, ?_, ?_⟩
  · refine (forall₂_append (by simp [lenP, lenX'])).mpr
      ⟨(forall₂_append lenP).mpr ⟨?_, ch⟩, ?_⟩
    · apply chains_congr chA _ le grow
      intro a ha
      refine frame a (by rw [eF]; exact List.mem_append_left _ ha) fun hY => ?_
      exact djA a ha a (List.mem_append_left _ hY) rfl
    · apply chains_congr chB _ le grow
      intro a ha
      refine frame a (by rw [eF]; exact List.mem_append_right _ (List.mem_append_right _ ha))
        fun hY => ?_
      exact djB a hY a ha rfl
  · rw [eF]
    refine List.nodup_append.mpr ⟨ndA, List.nodup_append.mpr ⟨nd, ndB, ?_⟩, ?_⟩
    · rintro a ha b hb rfl
      exact new a ha _ (fun b hY hb => djB b hY b hb rfl) ltB hb
    · rintro a ha b hb rfl
      rcases List.mem_append.mp hb with hY | hb
      · exact new a hY _ (fun b hY hb => djA b hb b (List.mem_append_left _ hY) rfl) ltA ha
      · exact djA a ha a (List.mem_append_right _ hb) rfl
  · intro a ha
    rw [eF] at ha
    rcases List.mem_append.mp ha with ha | ha
    · exact Nat.lt_of_lt_of_le (ltA a ha) le
    rcases List.mem_append.mp ha with ha | ha
    · rcases sub a ha with hY | ⟨_, lt'⟩
      · exact Nat.lt_of_lt_of_le (lt a (List.mem_append_right _ (List.mem_append_left _ hY))) le
      · exact lt'
    · exact Nat.lt_of_lt_of_le (ltB a ha) le

/-- The chain in the middle of a forest, with what `replace` asks for. -/
lemma focus (fo : Forest h (P ++ [p] ++ Q) (A ++ [k] ++ B)) (lenP : P.length = A.length) :
    Chain h (addrs (A ++ [k] ++ B).flatten) p k ∧ (addrs k).Nodup ∧
      addrs k ⊆ addrs (A ++ [k] ++ B).flatten := by
  obtain ⟨chains, nodup, _⟩ := fo
  obtain ⟨chR, _⟩ := (forall₂_append (by simp [lenP])).mp chains
  obtain ⟨_, ch⟩ := (forall₂_append lenP).mp chR
  have sub : List.Sublist (addrs k) (addrs (A ++ [k] ++ B).flatten) := by
    simp only [addrs, List.flatten_append, List.map_append, List.flatten_singleton]
    exact (List.sublist_append_right _ _).trans (List.sublist_append_left _ _)
  exact ⟨(List.forall₂_cons.mp ch).1, nodup.sublist sub, sub.subset⟩

/-- `list->data = y`. -/
lemma setData (fo : Forest h (P ++ [p] ++ Q) (A ++ [as ++ (a, x) :: bs] ++ B))
    (lenP : P.length = A.length) (y : α) :
    Forest (h.setData a y) (P ++ [p] ++ Q) (A ++ [as ++ (a, y) :: bs] ++ B) := by
  obtain ⟨⟨ep, pr, sg, out⟩, nd, _⟩ := fo.focus lenP
  have ea : addrs (as ++ (a, y) :: bs) = addrs (as ++ (a, x) :: bs) := by simp
  refine fo.replace lenP rfl (.cons ⟨?_, pr, sg.setData nd y, ?_⟩ .nil) (by simpa [ea] using nd)
    ?_ le_rfl fun b hb => .inl (by simpa using hb)
  · simpa using ep
  · intro q eq
    simpa using out q eq
  · intro b _ hn
    exact setData_cell_ne fun (e : b = a) => hn (by simp [e])

/-- `list = g_list_prepend(list, x)`. -/
lemma prepend (fo : Forest h (P ++ [p] ++ Q) (A ++ [k] ++ B)) (lenP : P.length = A.length) (x : α) :
    Forest (h.prepend p x).2 (P ++ [(h.prepend p x).1] ++ Q) (A ++ [(h.fresh, x) :: k] ++ B) := by
  obtain ⟨ch, nd, sub⟩ := fo.focus lenP
  obtain ⟨ch', fr, frame⟩ := prepend_spec ch nd sub fo.lt x
  have nf : h.fresh ∉ addrs k := fun hm => absurd (fo.lt _ (sub hm)) (Nat.lt_irrefl _)
  refine fo.replace lenP rfl (.cons (ch'.mono ?_) .nil) (by simpa using ⟨by simpa using nf, nd⟩)
    (fun a hm hn => frame a hm (by simpa using hn)) (by simp [fr]) ?_
  · intro a ha
    simp only [addrs, List.flatten_append, List.flatten_singleton, List.map_append, List.map_cons,
      List.mem_append, List.mem_cons] at ha ⊢
    tauto
  · intro a ha
    simp only [addrs, List.flatten_singleton, List.map_cons, List.mem_cons] at ha ⊢
    rcases ha with rfl | ha
    · exact .inr ⟨le_rfl, by simp [fr]⟩
    · exact .inl ha

/-- `list = g_list_delete_link(list, link)`. -/
lemma deleteLink (fo : Forest h (P ++ [p] ++ Q) (A ++ [as ++ (a, x) :: bs] ++ B))
    (lenP : P.length = A.length) :
    Forest (h.deleteLink p a).2 (P ++ [(h.deleteLink p a).1] ++ Q) (A ++ [as ++ bs] ++ B) := by
  obtain ⟨ch, nd, sub⟩ := fo.focus lenP
  obtain ⟨ch', fr, frame⟩ := deleteLink_spec ch nd sub
  have less : List.Sublist (as ++ bs) (as ++ (a, x) :: bs) :=
    (List.Sublist.refl as).append (List.sublist_cons_self _ bs)
  refine fo.replace lenP rfl (.cons (ch'.mono ?_) .nil) ?_ ?_ fr.ge ?_
  · intro b hb
    simp only [addrs, List.flatten_append, List.flatten_singleton, List.map_append, List.map_cons,
      List.mem_append, List.mem_cons] at hb ⊢
    tauto
  · simpa using nd.sublist (less.map Prod.fst)
  · intro b hm hn
    exact frame b hm (by simpa using hn)
  · intro b hb
    exact .inl (by simpa using (less.map Prod.fst).subset (by simpa using hb))

/-- `list = g_list_remove_link(list, link)`, the link becoming a list of its own. -/
lemma removeLink (fo : Forest h (P ++ [p] ++ Q) (A ++ [as ++ (a, x) :: bs] ++ B))
    (lenP : P.length = A.length) :
    Forest (h.removeLink p a).2 (P ++ [(h.removeLink p a).1] ++ (Q ++ [some a]))
      (A ++ [as ++ bs] ++ (B ++ [[(a, x)]])) := by
  obtain ⟨ch, nd, sub⟩ := fo.focus lenP
  obtain ⟨ch', hc, fr, frame⟩ := removeLink_spec ch nd sub
  have lenQ : Q.length = B.length := by
    have len := fo.chains.length_eq
    simp [lenP] at len
    exact len
  have pm : (addrs ((as ++ bs) ++ [(a, x)])).Perm (addrs (as ++ (a, x) :: bs)) := by
    apply List.Perm.map
    exact List.perm_append_singleton _ _ |>.trans List.perm_middle.symm
  have fo' : Forest (h.removeLink p a).2 (P ++ ([(h.removeLink p a).1, some a] ++ Q))
      (A ++ ([as ++ bs, [(a, x)]] ++ B)) := by
    rw [← List.append_assoc, ← List.append_assoc]
    refine fo.replace lenP rfl (.cons (ch'.mono ?_) (.cons ⟨rfl, none, ⟨hc, trivial⟩, nofun⟩ .nil))
      (by simpa [addrs] using pm.nodup_iff.mpr nd) ?_ fr.ge ?_
    · intro b hb
      simp only [addrs, List.flatten_append, List.map_append, List.map_cons, List.mem_append,
        List.mem_cons, List.flatten_cons, List.flatten_nil, List.map_nil,
        List.append_nil, List.not_mem_nil, or_false] at hb ⊢
      tauto
    · intro b hm hn
      exact frame b hm (by simpa using hn)
    · intro b hb
      exact .inl (by simpa using pm.subset (by simpa [addrs] using hb))
  obtain ⟨chains, nodup, lt⟩ := fo'
  -- the new list goes to the end
  have pm : (addrs (A ++ [as ++ bs] ++ (B ++ [[(a, x)]])).flatten).Perm
      (addrs (A ++ ([as ++ bs, [(a, x)]] ++ B)).flatten) := by
    simp only [addrs, List.flatten_append, List.map_append, List.flatten_cons, List.flatten_nil,
      List.append_nil, List.append_assoc]
    refine .append_left _ (.append_left _ (.append_left _ ?_))
    exact List.perm_append_comm
  refine ⟨?_, pm.nodup_iff.mpr nodup, fun b hb => lt b (pm.subset hb)⟩
  have weaken : ∀ {P' : List (Option Nat)} {A' : List (List (Nat × α))},
      List.Forall₂ (Chain (h.removeLink p a).2
        (addrs (A ++ ([as ++ bs, [(a, x)]] ++ B)).flatten)) P' A' →
      List.Forall₂ (Chain (h.removeLink p a).2
        (addrs (A ++ [as ++ bs] ++ (B ++ [[(a, x)]])).flatten)) P' A' :=
    fun all => all.imp fun _ _ ch => ch.mono pm.subset
  obtain ⟨chA, chR⟩ := (forall₂_append lenP).mp chains
  obtain ⟨ch1, chR⟩ := List.forall₂_cons.mp chR
  obtain ⟨ch2, chB⟩ := List.forall₂_cons.mp chR
  refine (forall₂_append (by simp [lenP])).mpr ⟨(forall₂_append lenP).mpr
    ⟨weaken chA, weaken (.cons ch1 .nil)⟩, (forall₂_append lenQ).mpr ⟨weaken chB, weaken (.cons ch2 .nil)⟩⟩

/-- The reader of a list moves on to its second cell. -/
lemma tail (fo : Forest h (P ++ [p] ++ Q) (A ++ [(a, x) :: k] ++ B)) (lenP : P.length = A.length) :
    Forest h (P ++ [first k none] ++ Q) (A ++ [k] ++ B) := by
  obtain ⟨ch, nd, sub⟩ := fo.focus lenP
  have all := fo.nodup
  have lt := fo.lt a (sub List.mem_cons_self)
  have na : a ∉ addrs (A ++ [k] ++ B).flatten := by
    have pm : (addrs (A ++ [(a, x) :: k] ++ B).flatten).Perm
        (a :: addrs (A ++ [k] ++ B).flatten) := by
      simp only [addrs, List.flatten_append, List.map_append, List.append_assoc, List.cons_append]
      exact List.perm_middle
    exact (List.nodup_cons.mp (pm.nodup_iff.mp all)).1
  refine fo.replace lenP rfl (.cons (ch.tail na lt) .nil) ?_ (fun _ _ _ => rfl) le_rfl ?_
  · simpa using (List.nodup_cons.mp nd).2
  · intro b hb
    exact .inl (by simp at hb ⊢; exact .inr hb)

/-- `list1 = g_list_concat(list1, list2)`, with `list2` given up. -/
lemma concat (fo : Forest h (P ++ [p, q] ++ Q) (A ++ [l1, l2] ++ B)) (lenP : P.length = A.length) :
    Forest (h.concat p q).2 (P ++ [(h.concat p q).1] ++ Q) (A ++ [l1 ++ l2] ++ B) := by
  obtain ⟨chR, _⟩ := (forall₂_append (by simp [lenP])).mp fo.chains
  obtain ⟨_, ch⟩ := (forall₂_append lenP).mp chR
  obtain ⟨ch1, ch2⟩ := List.forall₂_cons.mp ch
  have ch2 := (List.forall₂_cons.mp ch2).1
  have eF : (A ++ [l1, l2] ++ B).flatten = (A ++ [l1 ++ l2] ++ B).flatten := by simp
  have sub : List.Sublist (addrs (l1 ++ l2)) (addrs (A ++ [l1, l2] ++ B).flatten) := by
    rw [eF]
    simp only [addrs, List.flatten_append, List.map_append, List.flatten_singleton]
    exact (List.sublist_append_right _ _).trans (List.sublist_append_left _ _)
  have nd := fo.nodup.sublist sub
  obtain ⟨ch', fr, frame⟩ := concat_spec ch1 ch2 nd fun c hc => fo.lt c (sub.subset hc)
  refine fo.replace lenP rfl (.cons (ch'.mono (by rw [eF]; exact fun _ => id)) .nil)
    (by simpa using nd) ?_ fr.ge (fun a ha => .inl (by simpa using ha))
  intro a _ hn
  exact frame a (by simpa using hn)

end Forest

end Heap
end Glib
