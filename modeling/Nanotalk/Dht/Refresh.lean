import Nanotalk.Dht.Bounds
import Nanotalk.Dht.Client

/-!
# Refreshing the buckets

C `dht_client_refresh_cb` looks up an id that it draws: as many bits of the own id as it drew first,
and random bytes after them. `g_random_int_range (begin, end)` never yields `end`, and so no byte that
is drawn in full is `0xFF`, nor the drawn part of the byte at the border all ones.

* `Drawn.agree`: the drawn id shares the drawn number of bits with the own id.
* `Drawn.miss`, `exists_drawn`: a bucket is missed by every draw where its ids need such a byte, and
  there only.
-/

namespace Nanotalk
open Glib
open DhtClient (refreshId)

/-- The outcomes of `g_random_int_range` in C `dht_client_refresh_cb`: `nbits` from `(0, num_buckets)`,
    then a number for each byte that is not copied, from `(0, 0xFF >> nbits)` or `(0, 0xFF)`. -/
def Drawn (numBuckets nbits : Nat) (drawn : Nat → UInt8) : Prop :=
  nbits < numBuckets ∧ ∀ i < DHT_ID_SIZE,
    let nbits : Int := nbits - 8 * i
    nbits < 8 → (drawn i).toNat < if nbits > 0 then 0xFF >>> nbits.toNat else 0xFF

variable {own : DhtId} {numBuckets nbits : Nat} {drawn : Nat → UInt8}

/-! ## The bits of the id -/

/-- The bound of a draw is a mask. -/
lemma bound_eq {r : Nat} (lt : r < 8) : 0xFF >>> r = 2 ^ (8 - r) - 1 := by
  interval_cases r <;> rfl

/-- The number drawn for byte `i`, of which `r` bits are copied. -/
lemma Drawn.lt (D : Drawn numBuckets nbits drawn) {i : Nat} (lt : i < DHT_ID_SIZE)
    (part : nbits - 8 * i < 8) : (drawn i).toNat < 2 ^ (8 - (nbits - 8 * i)) - 1 := by
  have bound := D.2 i lt (by omega)
  by_cases pos : nbits - 8 * i = 0
  · rw [if_neg (by omega)] at bound
    rw [pos]
    exact bound
  · have e : ((nbits : Int) - 8 * i).toNat = nbits - 8 * i := by omega
    rwa [if_pos (by omega), e, bound_eq part] at bound

/-- `0xFF << (8 - r)` has the upper `r` bits. -/
lemma testBit_mask {r k : Nat} (pos : 0 < r) (le : r ≤ 8) (lt : k < 8) :
    ((0xFF : UInt8) <<< UInt8.ofNat (8 - r)).toNat.testBit k = decide (8 - r ≤ k) := by
  interval_cases r <;> interval_cases k <;> rfl

/-- The bits of a refresh id, drawn or kept. -/
lemma bit_refreshId {j : Nat} (lt : j < 8 * DHT_ID_SIZE) : (refreshId own nbits drawn).bit j =
    if 8 ≤ nbits - 8 * (j / 8) then own.bit j
    else (own.bit j && decide (j < nbits)) || (drawn (j / 8)).toNat.testBit (7 - j % 8) := by
  have lt : j / 8 < DHT_ID_SIZE := by omega
  have here : ∀ a : DhtId, a.data.get (j / 8) = a.data ⟨j / 8, lt⟩ := fun a => dif_pos lt
  rw [DhtId.bit, DhtId.bit, Bytes.bit_eq_testBit, Bytes.bit_eq_testBit, here, here]
  unfold refreshId
  dsimp only
  by_cases copied : 8 ≤ nbits - 8 * (j / 8)
  · rw [if_pos copied, if_pos (by omega)]
  · rw [if_neg copied, if_neg (by omega)]
    by_cases border : 0 < nbits - 8 * (j / 8)
    · have e : ((nbits : Int) - 8 * ((j / 8 : Nat) : Int)).toNat = nbits - 8 * (j / 8) := by omega
      rw [if_pos (by omega), e, UInt8.toNat_or, UInt8.toNat_and, Nat.testBit_or, Nat.testBit_and,
        testBit_mask border (by omega) (by omega)]
      congr 2
      rw [decide_eq_decide]
      omega
    · have past : ¬ j < nbits := by omega
      rw [if_neg (by omega), decide_eq_false past, Bool.and_false, Bool.false_or]

/-- The bits from `nbits` on are drawn. -/
lemma bit_drawn {j : Nat} (lt : j < 8 * DHT_ID_SIZE) (ge : nbits ≤ j) :
    (refreshId own nbits drawn).bit j = (drawn (j / 8)).toNat.testBit (7 - j % 8) := by
  rw [bit_refreshId lt, if_neg (by omega), decide_eq_false (by omega), Bool.and_false, Bool.false_or]

/-- The bits up to `nbits` are those of the own id: what is drawn is too small to change them. -/
lemma Drawn.agree (D : Drawn numBuckets nbits drawn) :
    Bytes.Agree nbits (refreshId own nbits drawn).data own.data := by
  intro j lt
  by_cases inside : j < 8 * DHT_ID_SIZE
  · show (refreshId own nbits drawn).bit j = own.bit j
    rw [bit_refreshId inside]
    split
    · rfl
    · rename_i border
      have bound := D.lt (i := j / 8) (by omega) (by omega)
      have le : 2 ^ (8 - (nbits - 8 * (j / 8))) ≤ 2 ^ (7 - j % 8) :=
        Nat.pow_le_pow_right (by decide) (by omega)
      rw [Nat.testBit_lt_two_pow (by omega), Bool.or_false, decide_eq_true lt, Bool.and_true]
  · have past : ∀ a : Bytes DHT_ID_SIZE, a.get (j / 8) = 0 := fun a => dif_neg (by omega)
    rw [Bytes.bit_eq_testBit, Bytes.bit_eq_testBit, past, past]

/-! ## Buckets that are missed -/

lemma le_of_testBit {n m : Nat} (ones : ∀ k < m, n.testBit k = true) : 2 ^ m - 1 ≤ n := by
  have e : n &&& (2 ^ m - 1) = 2 ^ m - 1 := by
    apply Nat.eq_of_testBit_eq
    intro k
    rw [Nat.testBit_and, Nat.testBit_two_pow_sub_one]
    by_cases lt : k < m
    · rw [ones k lt, Bool.true_and]
    · rw [decide_eq_false lt, Bool.and_false]
  calc 2 ^ m - 1 = n &&& (2 ^ m - 1) := e.symm
    _ ≤ n := Nat.and_le_left

/-- Where the bits of the own id are those of `0xFE`, and the last one is to be different, a byte is
    needed that is not drawn. -/
lemma Drawn.miss (D : Drawn numBuckets nbits drawn) {b : Nat} (small : b < 8 * DHT_ID_SIZE)
    (more : b + 1 < numBuckets) (last : b % 8 = 7) (byte : own.data.get (b / 8) = 0xFE) :
    ¬ Place own numBuckets b (refreshId own nbits drawn) := by
  rintro ⟨ag, ne⟩
  have ge : nbits ≤ b := by
    by_contra gt
    exact ne more (D.agree b (Nat.not_le.mp gt))
  have own_bit : ∀ k < 8, own.bit (b - k) = (0xFE : UInt8).toNat.testBit k := by
    intro k lt
    have same : (b - k) / 8 = b / 8 := by omega
    have place : 7 - (b - k) % 8 = k := by omega
    rw [DhtId.bit, Bytes.bit_eq_testBit, same, byte, place]
  have ones : ∀ k < 8 - (nbits - 8 * (b / 8)), (drawn (b / 8)).toNat.testBit k = true := by
    intro k lt
    have same : (b - k) / 8 = b / 8 := by omega
    have place : 7 - (b - k) % 8 = k := by omega
    have here : (refreshId own nbits drawn).bit (b - k) = _ := bit_drawn (by omega) (by omega)
    rw [same, place] at here
    rw [← here]
    cases k with
    | zero =>
      have flip := ne more
      rw [show own.bit b = false from own_bit 0 (by decide)] at flip
      exact Bool.eq_true_of_not_eq_false flip
    | succ k =>
      have agree : (refreshId own nbits drawn).bit (b - (k + 1)) = own.bit (b - (k + 1)) :=
        ag (b - (k + 1)) (by omega)
      have one : ∀ k < 7, (0xFE : UInt8).toNat.testBit (k + 1) = true := by decide
      rw [agree, own_bit (k + 1) (by omega), one k (by omega)]
  have bound := D.lt (i := b / 8) (by omega) (by omega)
  exact absurd (le_of_testBit ones) (Nat.not_le.mpr bound)

/-! ## Buckets that are reached -/

/-- The first `s` bits of a byte, with the next one flipped. -/
def flip (x : UInt8) (s : Nat) : UInt8 :=
  (x ^^^ (0x80 >>> UInt8.ofNat s)) &&& (0xFF <<< UInt8.ofNat (7 - s))

/-- The bits of a byte that is flipped. -/
lemma testBit_flip (x : UInt8) {s k : Nat} (lt : s < 8) (lt' : k < 8) :
    (flip x s).toNat.testBit k =
      ((x.toNat.testBit k ^^ decide (k = 7 - s)) && decide (7 - s ≤ k)) := by
  have mask := testBit_mask (r := s + 1) (k := k) (Nat.succ_pos s) (by omega) lt'
  rw [Nat.add_sub_add_right 7 1 s] at mask
  rw [flip, UInt8.toNat_and, UInt8.toNat_xor, Nat.testBit_and, Nat.testBit_xor, mask,
    Bytes.mask_toNat lt, Nat.testBit_two_pow]
  congr 2
  rw [decide_eq_decide]
  omega

/-- It is drawn unless it has no zero. -/
lemma flip_lt {x : UInt8} {s : Nat} (lt : s < 8) (drawable : s = 7 → x ≠ 0xFE) :
    (flip x s).toNat < 0xFF := by
  by_contra ge
  have full : flip x s = 0xFF := by
    have top := (flip x s).toNat_lt
    apply UInt8.toNat_inj.mp
    show (flip x s).toNat = 255
    omega
  have low : (flip x s).toNat.testBit 0 = true := by
    rw [full]
    rfl
  rw [testBit_flip x lt (by decide), Bool.and_eq_true, decide_eq_true_eq] at low
  obtain rfl : s = 7 := by omega
  have e : x ^^^ 1 = 0xFF := (UInt8.and_neg_one (a := x ^^^ 1)).symm.trans full
  refine drawable rfl ?_
  calc x = (x ^^^ 1) ^^^ 1 := by rw [UInt8.xor_assoc, UInt8.xor_self, UInt8.xor_zero]
    _ = 0xFE := by rw [e]; rfl

/-- As many own bits as it takes to the bucket, and zeros. -/
lemma drawn_zero {b : Nat} (lt : b < numBuckets) : Drawn numBuckets b fun _ => 0 := by
  refine ⟨lt, fun i _ => ?_⟩
  intro nbits part
  split
  · rename_i pos
    have lt : nbits.toNat < 8 := by omega
    have two : 2 ^ 1 ≤ 2 ^ (8 - nbits.toNat) := Nat.pow_le_pow_right (by decide) (by omega)
    rw [bound_eq lt]
    show 0 < _
    omega
  · exact Nat.zero_lt_succ _

/-- The own bytes before that of bit `b`, that byte with the bit flipped, and zeros. -/
def flipped (own : DhtId) (b i : Nat) : UInt8 :=
  if i = b / 8 then flip (own.data.get (b / 8)) (b % 8) else 0

lemma drawn_flipped {b : Nat} (lt : b < numBuckets)
    (drawable : b % 8 = 7 → own.data.get (b / 8) ≠ 0xFE) :
    Drawn numBuckets (8 * (b / 8)) (flipped own b) := by
  refine ⟨by omega, fun i _ => ?_⟩
  intro past part
  have full : ¬ past > 0 := by omega
  rw [if_neg full, flipped]
  split
  · exact flip_lt (Nat.mod_lt _ (by decide)) drawable
  · decide

/-- Of the bits up to `b`, only that one is not the own one. -/
lemma bit_flipped (own : DhtId) {b j : Nat} (small : b < 8 * DHT_ID_SIZE) (ge : 8 * (b / 8) ≤ j) (le : j ≤ b) :
    (refreshId own (8 * (b / 8)) (flipped own b)).bit j = (own.bit j ^^ decide (j = b)) := by
  have same : j / 8 = b / 8 := by omega
  have here : flipped own b (b / 8) = flip (own.data.get (b / 8)) (b % 8) := if_pos rfl
  rw [bit_drawn (by omega) ge, same, here, testBit_flip _ (by omega) (by omega), DhtId.bit,
    Bytes.bit_eq_testBit, same, decide_eq_true (by omega : 7 - b % 8 ≤ 7 - j % 8), Bool.and_true]
  congr 1
  rw [decide_eq_decide]
  omega

/-- Every other bucket is reached. -/
lemma exists_drawn {b : Nat} (lt : b < numBuckets) (small : b < 8 * DHT_ID_SIZE)
    (ok : ¬ (b + 1 < numBuckets ∧ b % 8 = 7 ∧ own.data.get (b / 8) = 0xFE)) :
    ∃ nbits drawn, Drawn numBuckets nbits drawn ∧
      Place own numBuckets b (refreshId own nbits drawn) := by
  by_cases more : b + 1 < numBuckets
  · have D := drawn_flipped lt fun last byte => ok ⟨more, last, byte⟩
    refine ⟨8 * (b / 8), flipped own b, D, fun j before => ?_, fun _ same => ?_⟩
    · by_cases copied : j < 8 * (b / 8)
      · exact D.agree j copied
      · have e := bit_flipped own small (Nat.not_lt.mp copied) before.le
        rwa [decide_eq_false before.ne, Bool.xor_false] at e
    · rw [bit_flipped own small (by omega) le_rfl, decide_eq_true rfl, Bool.xor_true] at same
      exact Bool.not_ne_self _ same
  · have D := drawn_zero lt
    exact ⟨b, _, D, D.agree, fun next => absurd next more⟩

/-! ## Runs -/

namespace DhtTable

variable {calls : List TableCall} {b : Nat}

/-- An id is routed to its place. -/
lemma run_index_iff (own id : DhtId) (calls : List TableCall) (lt : b < (run own calls).numBuckets) :
    bucketIndex (own.xor id) 0 (run own calls).buckets = b ↔
      Place own (run own calls).numBuckets b id := by
  have R := repr_run own calls
  have V := Buckets.valid_run own calls
  have len : (run own calls).numBuckets = (Buckets.run own calls).lists.length := by
    rw [R.numBuckets, V.numBuckets]
  obtain ⟨lt', place⟩ := Buckets.place_index own id V.pos
  rw [len] at lt ⊢
  rw [R.index]
  constructor
  · rintro rfl
    exact place
  · exact fun place' => place.unique place' lt' lt

lemma run_numBuckets_le (own : DhtId) (calls : List TableCall) :
    (run own calls).numBuckets ≤ 8 * DHT_ID_SIZE := by
  rw [(repr_run own calls).numBuckets, (Buckets.valid_run own calls).numBuckets]
  exact Buckets.run_length_le own calls

/-- A bucket of a reachable table can be refreshed, and every drawn id shares the drawn number of
    bits, unless the bucket is not the last one and takes the ids with `0xFF` where the own id has
    `0xFE`. -/
theorem refreshable_iff (own : DhtId) (calls : List TableCall) (b : Nat)
    (lt : b < (run own calls).numBuckets) :
    let t := run own calls
    ((∃ nbits drawn, Drawn t.numBuckets nbits drawn ∧
        bucketIndex (own.xor (refreshId own nbits drawn)) 0 t.buckets = b ∧
        Place own t.numBuckets b (refreshId own nbits drawn)) ∧
      ∀ nbits drawn, Drawn t.numBuckets nbits drawn →
        Bytes.Agree nbits (refreshId own nbits drawn).data own.data) ↔
    ¬ (b + 1 < t.numBuckets ∧ b % 8 = 7 ∧ own.data.get (b / 8) = 0xFE) := by
  have small := Nat.lt_of_lt_of_le lt (run_numBuckets_le own calls)
  constructor
  · rintro ⟨⟨nbits, drawn, D, -, place⟩, -⟩ ⟨more, last, byte⟩
    exact D.miss small more last byte place
  · intro ok
    obtain ⟨nbits, drawn, D, place⟩ := exists_drawn lt small ok
    exact ⟨⟨nbits, drawn, D, (run_index_iff own _ calls lt).mpr place, place⟩,
      fun nbits drawn D => D.agree⟩

/-- Reports of `n` nodes whose ids start with `0xFE` and `1`, `0xFE` and `2` and so on. -/
def nearReports (n : Nat) : List TableCall :=
  (List.range n).map fun i =>
    .update 0 ⟨fun j => [0xFE, UInt8.ofNat (i + 1)].getD j 0⟩ ⟨fun _ => 0⟩ true

/-- The last bucket is split eight times. -/
lemma nearReports_numBuckets : (run (leadingId 0xFE) (nearReports 58)).numBuckets = 9 := by
  decide +kernel

/-- With the own id `0xFE 00 ..` and nine buckets, some draw is routed to bucket 6. -/
theorem refreshable_iff_near :
    ∃ nbits drawn, Drawn (run (leadingId 0xFE) (nearReports 58)).numBuckets nbits drawn ∧
      bucketIndex ((leadingId 0xFE).xor (refreshId (leadingId 0xFE) nbits drawn)) 0
        (run (leadingId 0xFE) (nearReports 58)).buckets = 6 ∧
      Bytes.Agree nbits (refreshId (leadingId 0xFE) nbits drawn).data (leadingId 0xFE).data := by
  have lt : 6 < (run (leadingId 0xFE) (nearReports 58)).numBuckets := by
    rw [nearReports_numBuckets]
    decide
  obtain ⟨⟨nbits, drawn, D, index, -⟩, agree⟩ :=
    (refreshable_iff (leadingId 0xFE) (nearReports 58) 6 lt).mpr fun missed =>
      absurd missed.2.1 (by decide)
  exact ⟨nbits, drawn, D, index, agree nbits drawn D⟩

/-- With the own id `0xFE 00 ..` and nine buckets, no draw is routed to bucket 7. -/
theorem refresh_missed_fails :
    (run (leadingId 0xFE) (nearReports 58)).numBuckets = 9 ∧
    ¬ ∃ nbits drawn, Drawn (run (leadingId 0xFE) (nearReports 58)).numBuckets nbits drawn ∧
      bucketIndex ((leadingId 0xFE).xor (refreshId (leadingId 0xFE) nbits drawn)) 0
        (run (leadingId 0xFE) (nearReports 58)).buckets = 7 := by
  refine ⟨nearReports_numBuckets, ?_⟩
  rintro ⟨nbits, drawn, D, index⟩
  have place := (run_index_iff _ _ _ (by rw [nearReports_numBuckets]; decide)).mp index
  exact D.miss (by decide) (by rw [nearReports_numBuckets]; decide) rfl rfl place

end DhtTable

end Nanotalk
