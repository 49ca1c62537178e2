import Mathlib.Tactic.Common

/-!
# Extending truncated sequence numbers

A sender numbers its packets consecutively and transmits only the number modulo `2 * H`. A receiver
that knows the full number `R` of one packet extends the truncated number of another by choosing the
quotient with two half-range comparisons (`Rollover.extend`).

* `Rollover.extend_near`: numbers at a distance below `H` from `R` are extended correctly.
* `Rollover.extend_first`: with no packet seen, the numbers below `2 * H` are.
-/

namespace Rollover

/-- The quotient for the truncated number `seq`, where the last packet had the truncated number
    `last` and the quotient `roc`. Quotients stay between `0` and `limit`. -/
def extend (H limit last roc seq : Nat) : Nat :=
  if last < H ∧ last + H < seq ∧ 0 < roc then roc - 1
  else if H ≤ last ∧ seq < last - H ∧ roc < limit then roc + 1
  else roc

variable {H limit R E : Nat}

/-- Numbers close to each other have quotients that differ by at most one. -/
lemma div_near (pos : 0 < H) (lo : R < E + H) (hi : E < R + H) :
    E / (2 * H) = R / (2 * H) ∨ E / (2 * H) = R / (2 * H) + 1 ∨ E / (2 * H) + 1 = R / (2 * H) := by
  have h1 : E / (2 * H) ≤ R / (2 * H) + 1 := by
    have le := Nat.div_le_div_right (c := 2 * H) (show E ≤ R + 2 * H by omega)
    rwa [Nat.add_div_right _ (by omega)] at le
  have h2 : R / (2 * H) ≤ E / (2 * H) + 1 := by
    have le := Nat.div_le_div_right (c := 2 * H) (show R ≤ E + 2 * H by omega)
    rwa [Nat.add_div_right _ (by omega)] at le
  omega

/-- A number within half the range of the last one is extended correctly. -/
theorem extend_near (lo : R < E + H) (hi : E < R + H) (top : E / (2 * H) ≤ limit) :
    extend H limit (R % (2 * H)) (R / (2 * H)) (E % (2 * H)) = E / (2 * H) := by
  have pos : 0 < H := by omega
  have eR := Nat.div_add_mod R (2 * H)
  have eE := Nat.div_add_mod E (2 * H)
  have ltR := Nat.mod_lt R (show 0 < 2 * H by omega)
  have ltE := Nat.mod_lt E (show 0 < 2 * H by omega)
  have near := div_near pos lo hi
  unfold extend
  generalize E / (2 * H) = e at *
  generalize R / (2 * H) = r at *
  rcases near with rfl | rfl | rfl
  · -- the same round
    rw [if_neg (by omega), if_neg (by omega)]
  · -- the round after
    rw [Nat.mul_add] at eE
    rw [if_neg (by omega), if_pos (by omega)]
  · -- the round before
    rw [Nat.mul_add] at eR
    rw [if_pos (by omega)]
    rfl

/-- With no packet seen the quotient is taken to be zero. -/
theorem extend_first (lt : E < 2 * H) : extend H limit 0 0 (E % (2 * H)) = E / (2 * H) := by
  rw [Nat.div_eq_of_lt lt]
  unfold extend
  rw [if_neg (by omega), if_neg (by omega)]

/-- The quotient stays within the limit, and reaches it only from the round before or within it. -/
lemma extend_le_limit (H last seq : Nat) {roc : Nat} (le : roc ≤ limit) :
    extend H limit last roc seq ≤ limit ∧
      (extend H limit last roc seq = limit → roc = limit ∨ roc + 1 = limit ∧ H ≤ last) := by
  unfold extend
  split
  · omega
  · split
    · omega
    · omega

end Rollover
