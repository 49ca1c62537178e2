import Mathlib.Data.List.Basic
import Mathlib.Tactic.Common

/-!
# Tables that are filled row by row

A hash table as a function to `Option`. A row that is inserted takes the place of an earlier one with
the same key (`fill`), so that the last row of a key counts.

`fill_swap_iff`: where two tables are filled with the same rows, one of them by the first column and
the other one by the second, when the second one leads back.
-/

namespace Glib

variable {κ ν : Type} {rows earlier later : List (κ × ν)} {table : κ → Option ν} {k : κ} {v : ν}

/-- `g_hash_table_insert`. -/
def hashInsert [DecidableEq κ] (table : κ → Option ν) (k : κ) (v : ν) : κ → Option ν :=
  fun k' => if k' = k then some v else table k'

/-- `hashInsert` of each of the rows. -/
def fill [DecidableEq κ] (table : κ → Option ν) (rows : List (κ × ν)) : κ → Option ν :=
  rows.foldl (fun table row => hashInsert table row.1 row.2) table

/-- Rows with other keys leave the entry. -/
lemma fill_of_not_mem [DecidableEq κ] (out : k ∉ rows.map Prod.fst) : fill table rows k = table k := by
  induction rows generalizing table with
  | nil => rfl
  | cons row rows ih =>
    rw [List.map_cons, List.mem_cons, not_or] at out
    exact (ih out.2).trans (if_neg out.1)

/-- The last row of a key counts. -/
lemma fill_last [DecidableEq κ] (last : k ∉ later.map Prod.fst) :
    fill table (earlier ++ (k, v) :: later) k = some v := by
  rw [fill, List.foldl_append, List.foldl_cons]
  exact (fill_of_not_mem last).trans (if_pos rfl)

/-- A key that has a row has a last one. -/
lemma exists_last (mem : k ∈ rows.map Prod.fst) :
    ∃ earlier v later, rows = earlier ++ (k, v) :: later ∧ k ∉ later.map Prod.fst := by
  induction rows with
  | nil => cases mem
  | cons row rows ih =>
    by_cases more : k ∈ rows.map Prod.fst
    · obtain ⟨earlier, v, later, rfl, last⟩ := ih more
      exact ⟨row :: earlier, v, later, rfl, last⟩
    · obtain rfl : k = row.1 := by simpa [more] using mem
      exact ⟨[], row.2, rows, rfl, more⟩

/-- The table of the second column leads back from the last row of `k` to `k` if no later row has
    the same second column. -/
lemma fill_swap_iff [DecidableEq ν] {table : ν → Option κ} (last : k ∉ later.map Prod.fst) :
    fill table ((earlier ++ (k, v) :: later).map Prod.swap) v = some k ↔ v ∉ later.map Prod.snd := by
  have snd : (later.map Prod.swap).map Prod.fst = later.map Prod.snd := List.map_map
  rw [List.map_append, List.map_cons, Prod.swap_prod_mk, ← snd]
  constructor
  · intro back mem
    obtain ⟨between, k', rest, e, last'⟩ := exists_last mem
    have there : (v, k') ∈ later.map Prod.swap := e ▸ List.mem_append_right _ List.mem_cons_self
    obtain ⟨row, hr, es⟩ := List.mem_map.mp there
    rw [e, ← List.cons_append, ← List.append_assoc, fill_last last', Option.some.injEq] at back
    obtain ⟨rfl, rfl⟩ := Prod.mk.inj es
    exact last (back ▸ List.mem_map_of_mem hr)
  · exact fill_last

end Glib
