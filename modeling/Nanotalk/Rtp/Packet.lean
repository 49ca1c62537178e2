import Nanotalk.Dht.Common

/-!
# RTP packets and their nonces

What `src/rtp-sink.c` and `src/rtp-src.c` have in common: the big-endian reads of the RTP header,
the 12-byte nonce both sides write, and the errors they post.

* `rtpNonce_inj`: a nonce determines the SSRC, the sequence number and the roll-over counter modulo
  `2 ^ 48`.
-/

namespace Nanotalk
open Glib

/-- `GST_READ_UINT16_BE(data + o)`. -/
def readUInt16BE (data : List UInt8) (o : Nat) : UInt16 :=
  (data.getD o 0).toUInt16 <<< 8 ||| (data.getD (o + 1) 0).toUInt16

/-- `GST_READ_UINT32_BE(data + o)`. -/
def readUInt32BE (data : List UInt8) (o : Nat) : UInt32 :=
  (data.getD o 0).toUInt32 <<< 24 ||| (data.getD (o + 1) 0).toUInt32 <<< 16 |||
    (data.getD (o + 2) 0).toUInt32 <<< 8 ||| (data.getD (o + 3) 0).toUInt32

/-- `GST_WRITE_UINT64_LE(nonce, roc << 16 | (guint64)seq)` followed by
    `GST_WRITE_UINT32_LE(nonce + 8, ssrc)`. -/
def rtpNonce (roc : UInt64) (seq : UInt16) (ssrc : UInt32) : Bytes 12 := fun i =>
  if i.val < 8 then ((roc <<< 16 ||| seq.toUInt64) >>> (8 * UInt64.ofNat i.val)).toUInt8
  else (ssrc >>> (8 * UInt32.ofNat (i.val - 8))).toUInt8

/-- An error posted with `GST_ELEMENT_ERROR`: domain, code and text. -/
inductive ElementError where
  | streamDecrypt (text : String)
  | streamFormat (text : String)
  | resourceWrite (text : String)
  | resourceRead (text : String)
  deriving DecidableEq

/-- A big-endian read as a number. -/
lemma readUInt16BE_toNat (data : List UInt8) (o : Nat) :
    (readUInt16BE data o).toNat = (data.getD o 0).toNat * 2 ^ 8 + (data.getD (o + 1) 0).toNat :=
  Bytes.be16_toNat _ _

/-- The word a nonce starts with. -/
lemma nonceWord_toNat (roc : UInt64) (seq : UInt16) :
    (roc <<< 16 ||| seq.toUInt64).toNat = roc.toNat % 2 ^ 48 * 2 ^ 16 + seq.toNat := by
  have lt : seq.toNat < 2 ^ 16 := seq.toNat_lt
  have e : roc.toNat * 2 ^ 16 % 2 ^ 64 = roc.toNat % 2 ^ 48 * 2 ^ 16 :=
    Nat.mul_mod_mul_right (2 ^ 16) roc.toNat (2 ^ 48)
  rw [UInt64.toNat_or, UInt64.toNat_shiftLeft, UInt16.toNat_toUInt64, Nat.shiftLeft_eq]
  rw [show (UInt64.toNat 16 % 64) = 16 from rfl, e, ← Nat.shiftLeft_eq,
    Nat.shiftLeft_add_eq_or_of_lt lt]

/-- A number is determined by its bytes. -/
lemma mod_eq_of_bytes {x y n : Nat} (h : ∀ i < n, x / 256 ^ i % 256 = y / 256 ^ i % 256) :
    x % 256 ^ n = y % 256 ^ n := by
  induction n with
  | zero => simp [Nat.mod_one]
  | succ n ih =>
    rw [Nat.pow_succ, Nat.mod_mul, Nat.mod_mul, ih fun i hi => h i (Nat.lt_succ_of_lt hi),
      h n (Nat.lt_succ_self n)]

/-- Byte `i` of a 64-bit word. -/
lemma word_byte (x : UInt64) {i : Nat} (hi : i < 8) :
    (x >>> (8 * UInt64.ofNat i)).toUInt8.toNat = x.toNat / 256 ^ i % 256 := by
  have e : (8 * UInt64.ofNat i).toNat % 64 = 8 * i := by
    have lt : i < UInt64.size := Nat.lt_trans hi (by decide)
    rw [UInt64.toNat_mul, UInt64.toNat_ofNat_of_lt' lt]
    simp
    omega
  rw [UInt64.toNat_toUInt8, UInt64.toNat_shiftRight, e, Nat.shiftRight_eq_div_pow,
    Nat.pow_mul]

/-- Byte `i` of a 32-bit word. -/
lemma ssrc_byte (x : UInt32) {i : Nat} (hi : i < 4) :
    (x >>> (8 * UInt32.ofNat i)).toUInt8.toNat = x.toNat / 256 ^ i % 256 := by
  have e : (8 * UInt32.ofNat i).toNat % 32 = 8 * i := by
    have lt : i < UInt32.size := Nat.lt_trans hi (by decide)
    rw [UInt32.toNat_mul, UInt32.toNat_ofNat_of_lt' lt]
    simp
    omega
  rw [UInt32.toNat_toUInt8, UInt32.toNat_shiftRight, e, Nat.shiftRight_eq_div_pow,
    Nat.pow_mul]

/-- The sender's shift makes roll-over counters collide modulo `2 ^ 48`. -/
theorem rtpNonce_inj {roc roc' : UInt64} {seq seq' : UInt16} {ssrc ssrc' : UInt32} :
    rtpNonce roc seq ssrc = rtpNonce roc' seq' ssrc' ↔
      roc.toNat % 2 ^ 48 = roc'.toNat % 2 ^ 48 ∧ seq = seq' ∧ ssrc = ssrc' := by
  constructor
  · intro e
    have word : (roc <<< 16 ||| seq.toUInt64).toNat = (roc' <<< 16 ||| seq'.toUInt64).toNat := by
      have bytes : ∀ i < 8, (roc <<< 16 ||| seq.toUInt64).toNat / 256 ^ i % 256 =
          (roc' <<< 16 ||| seq'.toUInt64).toNat / 256 ^ i % 256 := by
        intro i hi
        have ei := congrFun e ⟨i, by omega⟩
        simp only [rtpNonce, hi, if_true] at ei
        rw [← word_byte _ hi, ← word_byte _ hi, ei]
      have m := mod_eq_of_bytes bytes
      have lt : ∀ x : UInt64, x.toNat < 256 ^ 8 := UInt64.toNat_lt
      rwa [Nat.mod_eq_of_lt (lt _), Nat.mod_eq_of_lt (lt _)] at m
    have src : ssrc.toNat = ssrc'.toNat := by
      have bytes : ∀ i < 4, ssrc.toNat / 256 ^ i % 256 = ssrc'.toNat / 256 ^ i % 256 := by
        intro i hi
        have ei := congrFun e ⟨8 + i, by omega⟩
        simp only [rtpNonce, show ¬ 8 + i < 8 by omega, if_false, Nat.add_sub_cancel_left] at ei
        rw [← ssrc_byte _ hi, ← ssrc_byte _ hi, ei]
      have m := mod_eq_of_bytes bytes
      have lt : ∀ x : UInt32, x.toNat < 256 ^ 4 := UInt32.toNat_lt
      rwa [Nat.mod_eq_of_lt (lt _), Nat.mod_eq_of_lt (lt _)] at m
    have lt := seq.toNat_lt
    have lt' := seq'.toNat_lt
    rw [nonceWord_toNat, nonceWord_toNat] at word
    exact ⟨by omega, UInt16.toNat_inj.mp (by omega), UInt32.toNat_inj.mp src⟩
  · rintro ⟨e, rfl, rfl⟩
    have word : roc <<< 16 ||| seq.toUInt64 = roc' <<< 16 ||| seq.toUInt64 := by
      rw [← UInt64.toNat_inj, nonceWord_toNat, nonceWord_toNat, e]
    unfold rtpNonce
    rw [word]

end Nanotalk
