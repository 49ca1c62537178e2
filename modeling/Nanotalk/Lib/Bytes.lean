import Mathlib.Data.Nat.Bitwise
import Mathlib.Data.Fintype.Pi
import Mathlib.Tactic.IntervalCases

/-!
# Fixed-size byte arrays

C arrays `guint8 data[n]` as functions on `Fin n`, with the two operations a program does on them
besides copying: reading one bit (`Bytes.bit`, the most significant bit of byte 0 first, as in
`data[i / 8] & (0x80 >> i % 8)`) and the bytewise exclusive or (`Bytes.xor`).

* `Bytes.bit_xor`: the bits of an exclusive or.
* `Bytes.ext_bit`: an array is determined by its bits.
* `Bytes.Agree`: agreement of two arrays on their first `n` bits, the relation a prefix tree sorts
  its keys by.
* `Bytes.number`, `Bytes.toList_lt_iff`: the number that the bits are the digits of, and how two of
  them compare.
* `Bytes.read`, `Holds`: reading an array from memory, and what memory must hold for it.
-/

namespace Glib

/-- A C array `guint8 data[n]`. -/
abbrev Bytes (n : Nat) := Fin n → UInt8

namespace Bytes

/-- The byte at index `i`; a read past the end gives `0`. -/
def get {n : Nat} (a : Bytes n) (i : Nat) : UInt8 :=
  if h : i < n then a ⟨i, h⟩ else 0

/-- Bit `i`, counted from the most significant bit of byte 0. -/
def bit {n : Nat} (a : Bytes n) (i : Nat) : Bool :=
  a.get (i / 8) &&& (0x80 >>> UInt8.ofNat (i % 8)) != 0

/-- Bytewise exclusive or. -/
def xor {n : Nat} (a b : Bytes n) : Bytes n := fun i => a i ^^^ b i

/-- A big-endian pair of bytes as a number. -/
lemma be16_toNat (a b : UInt8) :
    (a.toUInt16 <<< 8 ||| b.toUInt16).toNat = a.toNat * 2 ^ 8 + b.toNat := by
  have lt := a.toNat_lt
  have lt' := b.toNat_lt
  rw [UInt16.toNat_or, UInt16.toNat_shiftLeft, UInt8.toNat_toUInt16, UInt8.toNat_toUInt16,
    show UInt16.toNat 8 % 16 = 8 from rfl, Nat.mod_eq_of_lt, ← Nat.shiftLeft_add_eq_or_of_lt lt',
    Nat.shiftLeft_eq]
  rw [Nat.shiftLeft_eq]
  omega

/-- The array as a list of bytes. -/
def toList {n : Nat} (a : Bytes n) : List UInt8 := List.ofFn a

/-- The `n` bytes found at offset `o` of a larger array. -/
def slice {m : Nat} (a : Bytes m) (o n : Nat) : Bytes n := fun i => a.get (o + i)

@[simp] lemma toList_length {n : Nat} (a : Bytes n) : a.toList.length = n := List.length_ofFn

lemma toList_getD {n : Nat} (a : Bytes n) (i : Fin n) : a.toList.getD i 0 = a i := by
  rw [List.getD_eq_getElem _ _ (by simp)]
  exact List.getElem_ofFn _

@[simp] lemma get_xor {n : Nat} (a b : Bytes n) (i : Nat) :
    (a.xor b).get i = a.get i ^^^ b.get i := by
  unfold get
  split
  · rfl
  · simp

/-- The mask `0x80 >> k` is a power of two. -/
lemma mask_toNat {k : Nat} (hk : k < 8) :
    ((0x80 : UInt8) >>> UInt8.ofNat k).toNat = 2 ^ (7 - k) := by
  interval_cases k <;> rfl

/-- Masking with `0x80 >> k` tests bit `7 - k`. -/
lemma mask_testBit (x : UInt8) {k : Nat} (hk : k < 8) :
    (x &&& (0x80 >>> UInt8.ofNat k) != 0) = x.toNat.testBit (7 - k) := by
  rw [Bool.eq_iff_iff, bne_iff_ne, ne_eq, ← UInt8.toNat_inj, UInt8.toNat_and, mask_toNat hk,
    Nat.and_two_pow]
  cases x.toNat.testBit (7 - k) <;> simp

lemma bit_eq_testBit {n : Nat} (a : Bytes n) (i : Nat) :
    a.bit i = (a.get (i / 8)).toNat.testBit (7 - i % 8) :=
  mask_testBit _ (Nat.mod_lt _ (by decide))

@[simp] lemma bit_xor {n : Nat} (a b : Bytes n) (i : Nat) :
    (a.xor b).bit i = (a.bit i ^^ b.bit i) := by
  simp [bit_eq_testBit]

/-- Two arrays with the same bits are equal. -/
lemma ext_bit {n : Nat} {a b : Bytes n} (h : ∀ i < 8 * n, a.bit i = b.bit i) : a = b := by
  funext ⟨j, hj⟩
  apply UInt8.toNat_inj.mp
  apply Nat.eq_of_testBit_eq
  intro k
  rcases Nat.lt_or_ge k 8 with hk | hk
  · have hb := h (8 * j + (7 - k)) (by omega)
    have hd : (8 * j + (7 - k)) / 8 = j := by omega
    have hm : 7 - (8 * j + (7 - k)) % 8 = k := by omega
    rw [bit_eq_testBit, bit_eq_testBit, hd, hm] at hb
    simpa [get, hj] using hb
  · have hlt : ∀ x : UInt8, x.toNat < 2 ^ k := fun x =>
      lt_of_lt_of_le x.toNat_lt (Nat.pow_le_pow_right (by decide) hk)
    rw [Nat.testBit_lt_two_pow (hlt _), Nat.testBit_lt_two_pow (hlt _)]

/-- The first `n` bits of `a` and `b` are the same. -/
def Agree {m : Nat} (n : Nat) (a b : Bytes m) : Prop := ∀ i < n, a.bit i = b.bit i

namespace Agree

variable {m n k : Nat} {a b c : Bytes m}

lemma zero : Agree 0 a b := nofun

lemma mono (h : Agree n a b) (le : k ≤ n) : Agree k a b :=
  fun i hi => h i (lt_of_lt_of_le hi le)

lemma symm (h : Agree n a b) : Agree n b a := fun i hi => (h i hi).symm

lemma trans (h1 : Agree n a b) (h2 : Agree n b c) : Agree n a c :=
  fun i hi => (h1 i hi).trans (h2 i hi)

/-- One more bit in common. -/
lemma succ (h : Agree n a b) (e : a.bit n = b.bit n) : Agree (n + 1) a b := by
  intro i hi
  rcases Nat.lt_succ_iff_lt_or_eq.mp hi with h' | rfl
  · exact h i h'
  · exact e

end Agree

/-- The number whose binary digits are the first `n` bits. -/
def number {m : Nat} (a : Bytes m) : Nat → Nat
  | 0 => 0
  | n + 1 => 2 * a.number n + (a.bit n).toNat

lemma Agree.number {m n : Nat} {a b : Bytes m} (h : Agree n a b) : a.number n = b.number n := by
  induction n with
  | zero => rfl
  | succ n ih => rw [Bytes.number, Bytes.number, ih (h.mono n.le_succ), h n n.lt_succ_self]

/-- The first bit that is different says which number is smaller. -/
lemma Agree.number_lt {m n k : Nat} {a b : Bytes m} (h : Agree k a b) (lt : k < n)
    (ha : a.bit k = false) (hb : b.bit k = true) : a.number n < b.number n := by
  induction n with
  | zero => cases lt
  | succ n ih =>
    rw [Bytes.number, Bytes.number]
    rcases Nat.lt_succ_iff_lt_or_eq.mp lt with lt | rfl
    · have less := ih lt
      have digit := Bool.toNat_le (a.bit n)
      omega
    · rw [h.number, ha, hb]
      exact Nat.lt_succ_self _

/-- Two arrays that are not equal have a first bit that is different. -/
lemma exists_first_bit {m : Nat} {a b : Bytes m} (ne : a ≠ b) :
    ∃ k < 8 * m, Agree k a b ∧ a.bit k ≠ b.bit k := by
  by_contra none
  have all : ∀ k ≤ 8 * m, Agree k a b := by
    intro k le
    induction k with
    | zero => exact Agree.zero
    | succ k ih =>
      have agree := ih (Nat.le_of_succ_le le)
      exact agree.succ (by_contra fun differ => none ⟨k, le, agree, differ⟩)
  exact ne (ext_bit (all _ le_rfl))

/-- It also says which array comes first for `memcmp`. -/
lemma Agree.toList_lt {m k : Nat} {a b : Bytes m} (h : Agree k a b) (lt : k < 8 * m)
    (ha : a.bit k = false) (hb : b.bit k = true) : a.toList < b.toList := by
  have byte : k / 8 < m := by omega
  have get : ∀ (c : Bytes m) (j : Nat) (lt : j < c.toList.length), c.toList[j] = c.get j := by
    intro c j lt
    rw [Bytes.get, dif_pos (c.toList_length ▸ lt)]
    exact List.getElem_ofFn _
  have bits : ∀ (c : Bytes m) (j i : Nat), i < 8 → (c.get j).toNat.testBit i = c.bit (8 * j + (7 - i)) := by
    intro c j i lt
    have here : (8 * j + (7 - i)) / 8 = j := by omega
    have place : 7 - (8 * j + (7 - i)) % 8 = i := by omega
    rw [bit_eq_testBit, here, place]
  have same : ∀ j i, i < 8 → 8 * j + (7 - i) < k →
      (a.get j).toNat.testBit i = (b.get j).toNat.testBit i := by
    intro j i lt before
    rw [bits a j i lt, bits b j i lt, h _ before]
  have high : ∀ (c : UInt8) (i : Nat), 8 ≤ i → c.toNat.testBit i = false := by
    intro c i ge
    exact Nat.testBit_lt_two_pow (lt_of_lt_of_le c.toNat_lt (Nat.pow_le_pow_right (by decide) ge))
  refine List.lt_iff_exists.mpr (.inr ⟨k / 8, by simpa using byte, by simpa using byte, ?_, ?_⟩)
  · intro j before
    rw [get, get]
    apply UInt8.toNat_inj.mp
    apply Nat.eq_of_testBit_eq
    intro i
    rcases Nat.lt_or_ge i 8 with lt | ge
    · exact same j i lt (by omega)
    · rw [high _ i ge, high _ i ge]
  · rw [get, get, UInt8.lt_iff_toNat_lt]
    rw [bit_eq_testBit] at ha hb
    refine Nat.lt_of_testBit (7 - k % 8) ha hb fun i above => ?_
    rcases Nat.lt_or_ge i 8 with lt | ge
    · exact same _ i lt (by omega)
    · rw [high _ i ge, high _ i ge]

/-- The order of `memcmp` is that of the numbers. -/
lemma toList_lt_iff {m : Nat} {a b : Bytes m} : a.toList < b.toList ↔ a.number (8 * m) < b.number (8 * m) := by
  by_cases e : a = b
  · subst e
    exact iff_of_false (List.lt_irrefl _) (Nat.lt_irrefl _)
  · obtain ⟨k, lt, agree, differ⟩ := exists_first_bit e
    cases ha : a.bit k with
    | false =>
      have hb : b.bit k = true := Bool.eq_true_of_not_eq_false fun hb => differ (ha.trans hb.symm)
      exact iff_of_true (agree.toList_lt lt ha hb) (agree.number_lt lt ha hb)
    | true =>
      have hb : b.bit k = false := Bool.eq_false_of_not_eq_true fun hb => differ (ha.trans hb.symm)
      exact iff_of_false (List.lt_asymm (agree.symm.toList_lt lt hb ha))
        (Nat.lt_asymm (agree.symm.number_lt lt hb ha))

/-- The `n` bytes of memory from address `o` on. -/
def read (memory : Nat → UInt8) (o n : Nat) : Bytes n := fun i => memory (o + i)

end Bytes

/-- Memory holds the bytes `l` from address `o` on. -/
def Holds (memory : Nat → UInt8) (o : Nat) (l : List UInt8) : Prop :=
  ∀ i (h : i < l.length), memory (o + i) = l[i]

section Holds

variable {memory : Nat → UInt8} {o : Nat}

@[simp] lemma holds_nil : Holds memory o [] := nofun

@[simp] lemma holds_cons {b : UInt8} {l : List UInt8} :
    Holds memory o (b :: l) ↔ memory o = b ∧ Holds memory (o + 1) l := by
  constructor
  · intro h
    refine ⟨h 0 (by simp), fun i lt => ?_⟩
    have e := h (i + 1) (by simpa using lt)
    rwa [Nat.add_assoc, Nat.add_comm 1 i]
  · rintro ⟨e, h⟩ i lt
    cases i with
    | zero => exact e
    | succ i =>
      have e := h i (by simpa using lt)
      rwa [Nat.add_assoc, Nat.add_comm 1 i] at e

@[simp] lemma holds_append {a b : List UInt8} :
    Holds memory o (a ++ b) ↔ Holds memory o a ∧ Holds memory (o + a.length) b := by
  induction a generalizing o with
  | nil => simp
  | cons x a ih => simp [ih, and_assoc, Nat.add_right_comm, Nat.add_assoc]

/-- Memory holds exactly the arrays read from it. -/
@[simp] lemma holds_toList {n : Nat} {a : Bytes n} :
    Holds memory o a.toList ↔ Bytes.read memory o n = a := by
  constructor
  · intro h
    funext i
    have e := h i (by simp)
    simpa [Bytes.toList, Bytes.read] using e
  · rintro rfl i lt
    simp [Bytes.toList, Bytes.read]

/-- Memory that is the same below `n`. -/
lemma read_congr {memory' : Nat → UInt8} {len n : Nat} (same : ∀ i < len, memory i = memory' i)
    (le : o + n ≤ len) : Bytes.read memory o n = Bytes.read memory' o n := by
  funext i
  exact same _ (Nat.lt_of_lt_of_le (Nat.add_lt_add_left i.isLt o) le)

end Holds

end Glib
