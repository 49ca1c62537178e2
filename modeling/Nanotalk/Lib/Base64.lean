import Mathlib.Data.Nat.Bitwise
import Mathlib.Data.List.Basic
import Mathlib.Tactic.Common

/-!
# Base64 as GLib does it

`g_base64_encode` and the incremental decoder `g_base64_decode_step`, on C strings as lists of bytes.

The decoder is lenient: it skips every character that is not a digit (`rank`), and `=` is a digit of
value zero wherever it stands. Four digits make three bytes, less one if the third digit is `=`, and
less one if the fourth is.

* `decodeStep_encode`: decoding undoes encoding.
* `Decoder.run_length`: the decoder never gets ahead of three bytes for four characters.
-/

namespace Glib.Base64

/-- The character `=`. -/
abbrev pad : UInt8 := 61

/-- C `base64_alphabet`. -/
def alphabet (v : Nat) : UInt8 :=
  if v < 26 then UInt8.ofNat (65 + v)
  else if v < 52 then UInt8.ofNat (97 + (v - 26))
  else if v < 62 then UInt8.ofNat (48 + (v - 52))
  else if v = 62 then 43
  else 47

/-- C `mime_base64_rank`, `none` for the value `0xFF`. -/
def rank (c : UInt8) : Option Nat :=
  if 65 ≤ c ∧ c ≤ 90 then some (c.toNat - 65)
  else if 97 ≤ c ∧ c ≤ 122 then some (c.toNat - 97 + 26)
  else if 48 ≤ c ∧ c ≤ 57 then some (c.toNat - 48 + 52)
  else if c = 43 then some 62
  else if c = 47 then some 63
  else if c = pad then some 0
  else none

/-- C `g_base64_encode`. -/
def encode : List UInt8 → List UInt8
  | a :: b :: c :: l =>
    alphabet (a.toNat / 4) :: alphabet (a.toNat % 4 * 16 + b.toNat / 16) ::
      alphabet (b.toNat % 16 * 4 + c.toNat / 64) :: alphabet (c.toNat % 64) :: encode l
  | [a, b] =>
    [alphabet (a.toNat / 4), alphabet (a.toNat % 4 * 16 + b.toNat / 16),
      alphabet (b.toNat % 16 * 4), pad]
  | [a] => [alphabet (a.toNat / 4), alphabet (a.toNat % 4 * 16), pad, pad]
  | [] => []

/-- The variables of `g_base64_decode_step`, with the bytes written to `out`. -/
structure Decoder where
  v : UInt32
  i : Nat
  /-- `last[0]` -/
  last0 : UInt8
  /-- `last[1]` -/
  last1 : UInt8
  out : List UInt8

namespace Decoder

/-- The loop of `g_base64_decode_step`, for the character `c`. -/
def step (d : Decoder) (c : UInt8) : Decoder :=
  match rank c with
  | some rank =>
    let last1 := d.last0
    let last0 := c
    let v := d.v <<< 6 ||| UInt32.ofNat rank
    if d.i + 1 = 4 then
      let out := d.out ++ [(v >>> 16).toUInt8]
      let out := if last1 ≠ pad then out ++ [(v >>> 8).toUInt8] else out
      let out := if last0 ≠ pad then out ++ [v.toUInt8] else out
      ⟨v, 0, last0, last1, out⟩
    else ⟨v, d.i + 1, last0, last1, d.out⟩
  | none => d

/-- The loop of `g_base64_decode_step`. -/
def run (d : Decoder) (input : List UInt8) : Decoder := input.foldl step d

end Decoder

/-- C `g_base64_decode_step`: the bytes written to `out`, and the new values of `state` and
    `save`. -/
def decodeStep (input : List UInt8) (state : Int) (save : UInt32) : List UInt8 × Int × UInt32 :=
  let d := Decoder.run ⟨save, state.natAbs, if state < 0 then pad else 0, 0, []⟩ input
  (d.out, if d.last0 = pad then -d.i else d.i, d.v)

/-! ## The alphabet -/

section Alphabet

variable {v : Nat}

@[simp] lemma rank_alphabet (lt : v < 64) : rank (alphabet v) = some v := by
  have table : ∀ v : Fin 64, rank (alphabet v) = some v.val := by decide
  exact table ⟨v, lt⟩

@[simp] lemma alphabet_ne_pad (lt : v < 64) : alphabet v ≠ pad := by
  have table : ∀ v : Fin 64, alphabet v ≠ pad := by decide
  exact table ⟨v, lt⟩

@[simp] lemma rank_pad : rank pad = some 0 := rfl

end Alphabet

/-! ## Encoding -/

lemma encode_length (l : List UInt8) : (encode l).length = 4 * ((l.length + 2) / 3) := by
  induction l using encode.induct with
  | case1 a b c l ih =>
    simp only [encode, List.length_cons, ih]
    omega
  | case2 => simp [encode]
  | case3 => simp [encode]
  | case4 => rfl

/-- Where the bytes are not all in groups of three, the last character is `=`. -/
lemma encode_last {l : List UInt8} (rest : l.length % 3 ≠ 0) :
    (encode l).getLast? = some pad := by
  induction l using encode.induct with
  | case1 a b c l ih =>
    simp only [List.length_cons] at rest
    have last := ih (by omega)
    simp [encode, List.getLast?_cons, last]
  | case2 => rfl
  | case3 => rfl
  | case4 => exact absurd rfl rest

/-! ## Decoding -/

namespace Decoder

variable {d : Decoder} {c : UInt8} {r : Nat}

@[simp] lemma run_nil : d.run [] = d := rfl

@[simp] lemma run_cons (input : List UInt8) : d.run (c :: input) = (d.step c).run input := rfl

lemma run_append (input input' : List UInt8) : d.run (input ++ input') = (d.run input).run input' :=
  List.foldl_append

/-- A digit enters `v` from the right. -/
lemma toNat_shift (v : UInt32) (lt : r < 64) :
    (v <<< 6 ||| UInt32.ofNat r).toNat = v.toNat * 64 % 2 ^ 32 + r := by
  have small : (UInt32.ofNat r).toNat = r := by
    rw [UInt32.toNat_ofNat', Nat.mod_eq_of_lt (by omega)]
  have shift : (v <<< 6).toNat = v.toNat * 64 % 2 ^ 32 := by
    rw [UInt32.toNat_shiftLeft, Nat.shiftLeft_eq]
    rfl
  have mult : v.toNat * 64 % 2 ^ 32 = v.toNat % 2 ^ 26 * 2 ^ 6 := by omega
  rw [UInt32.toNat_or, small, shift, mult, ← Nat.shiftLeft_eq, ← Nat.shiftLeft_add_eq_or_of_lt lt]

/-- A digit that does not complete a group. -/
lemma step_digit (digit : rank c = some r) (open_ : d.i + 1 ≠ 4) :
    d.step c = ⟨d.v <<< 6 ||| UInt32.ofNat r, d.i + 1, c, d.last0, d.out⟩ := by
  unfold step
  simp only [digit, if_neg open_]

/-- A digit that completes a group. -/
lemma step_last (digit : rank c = some r) (full : d.i + 1 = 4) :
    d.step c = ⟨d.v <<< 6 ||| UInt32.ofNat r, 0, c, d.last0,
      d.out ++ [((d.v <<< 6 ||| UInt32.ofNat r) >>> 16).toUInt8] ++
        (if d.last0 ≠ pad then [((d.v <<< 6 ||| UInt32.ofNat r) >>> 8).toUInt8] else []) ++
        (if c ≠ pad then [(d.v <<< 6 ||| UInt32.ofNat r).toUInt8] else [])⟩ := by
  unfold step
  simp only [digit, if_pos full]
  split <;> split <;> simp

/-- The value of four digits. -/
lemma toNat_group (v : UInt32) {r0 r1 r2 r3 : Nat} (lt0 : r0 < 64) (lt1 : r1 < 64) (lt2 : r2 < 64)
    (lt3 : r3 < 64) {v' : UInt32}
    (e : v' = (((v <<< 6 ||| UInt32.ofNat r0) <<< 6 ||| UInt32.ofNat r1) <<< 6 |||
      UInt32.ofNat r2) <<< 6 ||| UInt32.ofNat r3) :
    v'.toNat % 2 ^ 24 = r0 * 2 ^ 18 + r1 * 2 ^ 12 + r2 * 2 ^ 6 + r3 := by
  rw [e, toNat_shift _ lt3, toNat_shift _ lt2, toNat_shift _ lt1, toNat_shift _ lt0]
  omega

/-- The bytes of a group. -/
lemma bytes_group {v : UInt32} {a b c : UInt8}
    (e : v.toNat % 2 ^ 24 = a.toNat * 2 ^ 16 + b.toNat * 2 ^ 8 + c.toNat) :
    (v >>> 16).toUInt8 = a ∧ (v >>> 8).toUInt8 = b ∧ v.toUInt8 = c := by
  have lta := a.toNat_lt
  have ltb := b.toNat_lt
  have ltc := c.toNat_lt
  have at16 : (v >>> 16).toNat = v.toNat / 2 ^ 16 := by
    rw [UInt32.toNat_shiftRight, Nat.shiftRight_eq_div_pow]
    rfl
  have at8 : (v >>> 8).toNat = v.toNat / 2 ^ 8 := by
    rw [UInt32.toNat_shiftRight, Nat.shiftRight_eq_div_pow]
    rfl
  refine ⟨?_, ?_, ?_⟩
  · apply UInt8.toNat_inj.mp
    rw [UInt32.toNat_toUInt8, at16]
    omega
  · apply UInt8.toNat_inj.mp
    rw [UInt32.toNat_toUInt8, at8]
    omega
  · apply UInt8.toNat_inj.mp
    rw [UInt32.toNat_toUInt8]
    omega

/-- Four digits: the third and the fourth may be `=`. -/
lemma run_group (start : d.i = 0) {c0 c1 c2 c3 : UInt8} {r0 r1 r2 r3 : Nat}
    (digit0 : rank c0 = some r0) (digit1 : rank c1 = some r1) (digit2 : rank c2 = some r2)
    (digit3 : rank c3 = some r3) (lt0 : r0 < 64) (lt1 : r1 < 64) (lt2 : r2 < 64) (lt3 : r3 < 64)
    {a b c : UInt8}
    (e : r0 * 2 ^ 18 + r1 * 2 ^ 12 + r2 * 2 ^ 6 + r3 =
      a.toNat * 2 ^ 16 + b.toNat * 2 ^ 8 + c.toNat) :
    (d.run [c0, c1, c2, c3]).i = 0 ∧
      (d.run [c0, c1, c2, c3]).out =
        d.out ++ [a] ++ (if c2 ≠ pad then [b] else []) ++ (if c3 ≠ pad then [c] else []) := by
  obtain ⟨v, i, last0, last1, out⟩ := d
  subst start
  have value := toNat_group v lt0 lt1 lt2 lt3 rfl
  obtain ⟨first, second, third⟩ := bytes_group (value.trans e)
  rw [run_cons, run_cons, run_cons, run_cons, run_nil,
    step_digit digit0 (show 0 + 1 ≠ 4 by decide), step_digit digit1 (show 1 + 1 ≠ 4 by decide),
    step_digit digit2 (show 2 + 1 ≠ 4 by decide), step_last digit3 rfl]
  exact ⟨rfl, by rw [first, second, third]⟩

/-- The characters of an encoding are decoded to what was encoded. -/
lemma run_encode (start : d.i = 0) (l : List UInt8) : (d.run (encode l)).out = d.out ++ l := by
  induction l using encode.induct generalizing d with
  | case1 a b c l ih =>
    have lta := a.toNat_lt
    have ltb := b.toNat_lt
    have ltc := c.toNat_lt
    obtain ⟨i, out⟩ := run_group start (rank_alphabet (v := a.toNat / 4) (by omega))
      (rank_alphabet (v := a.toNat % 4 * 16 + b.toNat / 16) (by omega))
      (rank_alphabet (v := b.toNat % 16 * 4 + c.toNat / 64) (by omega))
      (rank_alphabet (v := c.toNat % 64) (by omega)) (by omega) (by omega) (by omega) (by omega)
      (a := a) (b := b) (c := c) (by omega)
    rw [if_pos (alphabet_ne_pad (by omega)), if_pos (alphabet_ne_pad (by omega))] at out
    have group := ih i
    rw [out] at group
    rw [encode]
    exact group.trans (by simp)
  | case2 a b =>
    have lta := a.toNat_lt
    have ltb := b.toNat_lt
    obtain ⟨_, out⟩ := run_group start (rank_alphabet (v := a.toNat / 4) (by omega))
      (rank_alphabet (v := a.toNat % 4 * 16 + b.toNat / 16) (by omega))
      (rank_alphabet (v := b.toNat % 16 * 4) (by omega)) rank_pad (by omega) (by omega) (by omega)
      (by omega) (a := a) (b := b) (c := 0) (by rw [UInt8.toNat_zero]; omega)
    rw [if_pos (alphabet_ne_pad (by omega)), if_neg (not_not.mpr rfl)] at out
    rw [encode]
    exact out.trans (by simp)
  | case3 a =>
    have lta := a.toNat_lt
    obtain ⟨_, out⟩ := run_group start (rank_alphabet (v := a.toNat / 4) (by omega))
      (rank_alphabet (v := a.toNat % 4 * 16) (by omega)) rank_pad rank_pad (by omega) (by omega)
      (by omega) (by omega) (a := a) (b := 0) (c := 0) (by rw [UInt8.toNat_zero]; omega)
    rw [if_neg (not_not.mpr rfl)] at out
    rw [encode]
    exact out.trans (by simp)
  | case4 => simp [encode]

/-- The bytes written by one step, and the digits it leaves. -/
lemma step_length (d : Decoder) (c : UInt8) :
    4 * (d.step c).out.length + 3 * (d.step c).i ≤ 4 * d.out.length + 3 * d.i + 3 := by
  cases digit : rank c with
  | none => simp [step, digit]
  | some r =>
    by_cases full : d.i + 1 = 4
    · rw [step_last digit full]
      split <;> split <;> simp only [List.length_append, List.length_singleton, List.length_nil] <;>
        omega
    · rw [step_digit digit full]
      dsimp only
      omega

/-- Three bytes are written for four characters at most. -/
lemma run_length (d : Decoder) (input : List UInt8) :
    4 * (d.run input).out.length + 3 * (d.run input).i ≤
      4 * d.out.length + 3 * d.i + 3 * input.length := by
  induction input generalizing d with
  | nil => simp
  | cons c input ih =>
    have one := step_length d c
    have rest := ih (d.step c)
    rw [run_cons, List.length_cons]
    omega

/-- A `=` that completes a group writes two bytes at most. -/
lemma step_pad_length (d : Decoder) :
    4 * (d.step pad).out.length ≤ 4 * d.out.length + 3 * d.i ∨
      d.i = 3 ∧ (d.step pad).out.length ≤ d.out.length + 2 := by
  by_cases full : d.i + 1 = 4
  · refine .inr ⟨by omega, ?_⟩
    rw [step_last rank_pad full]
    split <;> simp
  · rw [step_digit rank_pad full]
    exact .inl (Nat.le_add_right _ _)

end Decoder

/-- Decoding undoes encoding. -/
theorem decodeStep_encode (l : List UInt8) : (decodeStep (encode l) 0 0).1 = l :=
  Decoder.run_encode rfl l

/-- Characters up to a `=` in the end stand for at most three bytes for every four, less one if they
    are all digits. -/
theorem decodeStep_length {input : List UInt8} {n : Nat} (groups : input.length + 1 = 4 * n) :
    (decodeStep (input ++ [pad]) 0 0).1.length + 1 ≤ 3 * n := by
  unfold decodeStep
  rw [Decoder.run_append]
  generalize start : Decoder.mk 0 _ _ 0 [] = d
  have zero : d.i = 0 ∧ d.out = [] := by subst start; exact ⟨rfl, rfl⟩
  have before := Decoder.run_length d input
  rw [zero.1, zero.2] at before
  simp only [List.length_nil, Decoder.run_cons, Decoder.run_nil] at before ⊢
  rcases Decoder.step_pad_length (d.run input) with le | ⟨three, le⟩ <;> omega

end Glib.Base64
