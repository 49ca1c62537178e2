import Mathlib.Algebra.BigOperators.Group.Finset.Basic
import Mathlib.Algebra.Order.BigOperators.Group.Finset

/-!
# Tallies over tables

A hash table as a function to `Option`, with keys from a finite type, and the sum over its entries of
a weight (`tally`). Weights that count the occurrences of a token make the tally the number of
places of the token in the table.

* `tally_update`: what one change of the table does to the tally.
* `exists_of_tally`, `eq_of_tally`: a tally of one sits at exactly one key.
-/

namespace Glib

variable {κ α : Type} [Fintype κ]

/-- The sum of the weights of the entries. -/
def tally (table : κ → Option α) (weight : α → Nat) : Nat := ∑ k, (table k).elim 0 weight

variable {table : κ → Option α} {weight : α → Nat}

@[simp] lemma tally_none : tally (fun _ : κ => none) weight = 0 := by
  simp [tally]

/-- A change at one key changes the tally by the difference of the weights. -/
lemma tally_update [DecidableEq κ] (table : κ → Option α) (weight : α → Nat) (k : κ) (v : Option α) :
    tally (Function.update table k v) weight + (table k).elim 0 weight =
      tally table weight + v.elim 0 weight := by
  have rest : ∑ x ∈ Finset.univ.erase k, (Function.update table k v x).elim 0 weight =
      ∑ x ∈ Finset.univ.erase k, (table x).elim 0 weight := by
    apply Finset.sum_congr rfl
    intro x mem
    rw [Function.update_of_ne (Finset.ne_of_mem_erase mem)]
  unfold tally
  rw [← Finset.add_sum_erase _ _ (Finset.mem_univ k), rest, Function.update_self,
    ← Finset.add_sum_erase Finset.univ (fun x => (table x).elim 0 weight) (Finset.mem_univ k)]
  omega

/-- An entry weighs no more than the table. -/
lemma le_tally (weight : α → Nat) {k : κ} {a : α} (e : table k = some a) : weight a ≤ tally table weight := by
  have le := Finset.single_le_sum (f := fun x => (table x).elim 0 weight)
    (fun _ _ => Nat.zero_le _) (Finset.mem_univ k)
  rw [e] at le
  exact le

/-- A token in the table is at some key. -/
lemma exists_of_tally (pos : 0 < tally table weight) : ∃ k a, table k = some a ∧ 0 < weight a := by
  obtain ⟨k, _, ne⟩ := Finset.exists_ne_zero_of_sum_ne_zero (Nat.ne_of_gt pos)
  cases e : table k with
  | none => simp [e] at ne
  | some a => exact ⟨k, a, e, Nat.pos_of_ne_zero (by simpa [e] using ne)⟩

/-- A token that is in the table once is at one key only. -/
lemma eq_of_tally [DecidableEq κ] (le : tally table weight ≤ 1) {k k' : κ} {a a' : α}
    (e : table k = some a) (e' : table k' = some a') (pos : 0 < weight a) (pos' : 0 < weight a') :
    k = k' := by
  by_contra ne
  have two := Finset.add_le_sum (f := fun x => (table x).elim 0 weight)
    (fun _ _ => Nat.zero_le _) (Finset.mem_univ k) (Finset.mem_univ k') ne
  simp only [e, e', Option.elim_some] at two
  unfold tally at le
  omega

end Glib
