import Nanotalk.Lib.Base64
import Nanotalk.Dht.Common

/-!
# Textual identifiers

Model of `dht_id_to_string` and `dht_id_from_string` of `src/dht-common.c`. A C string is the list of
its bytes, without the zero that ends it.

C `dht_id_from_string` writes to `id->data` while it decodes, before it knows whether the string is
one of an id, so that its model yields the bytes written next to the value returned. `string_safe`:
there is room for them whatever the string is.
-/

namespace Nanotalk
open Glib

namespace DhtId

/-- C `dht_id_to_string`. -/
def toString (id : DhtId) : List UInt8 := Base64.encode id.data.toList

/-- C `((4 * DHT_ID_SIZE / 3) + 3) & ~3`: the length of the string of an id. -/
abbrev STRING_SIZE : Nat := (4 * DHT_ID_SIZE / 3 + 3) / 4 * 4

/-- C `dht_id_from_string`: the bytes written to `id->data`, from the first one on, and the value
    returned. -/
def fromString (str : List UInt8) : List UInt8 × Bool :=
  let len := str.length
  if len ≠ STRING_SIZE then ([], false)
  else if DHT_ID_SIZE % 3 > 0 ∧ str.getD (len - 1) 0 ≠ Base64.pad then ([], false)
  else if DHT_ID_SIZE % 3 = 1 ∧ str.getD (len - 2) 0 ≠ Base64.pad then ([], false)
  else
    let out := (Base64.decodeStep str 0 0).1
    (out, out.length = DHT_ID_SIZE)

/-- The id that C `dht_id_from_string` leaves, if it returns `TRUE`. -/
def ofString (str : List UInt8) : Option DhtId :=
  let (out, ok) := fromString str
  if ok then some ⟨fun i => out.getD i 0⟩ else none

/-- The string of an id has the length and the last character that are asked for. -/
lemma toString_shape (id : DhtId) :
    id.toString.length = STRING_SIZE ∧ id.toString.getLast? = some Base64.pad := by
  refine ⟨?_, Base64.encode_last ?_⟩
  · rw [toString, Base64.encode_length, Bytes.toList_length]
    rfl
  · rw [Bytes.toList_length]
    decide

lemma fromString_toString (id : DhtId) : fromString id.toString = (id.data.toList, true) := by
  obtain ⟨len, last⟩ := id.toString_shape
  have last : id.toString.getD (id.toString.length - 1) 0 = Base64.pad := by
    rw [List.getLast?_eq_getElem?] at last
    rw [List.getD_eq_getElem?_getD, last]
    rfl
  unfold fromString
  rw [if_neg (not_not.mpr len), if_neg (fun no => no.2 last), if_neg (fun no => absurd no.1 (by decide)),
    toString, Base64.decodeStep_encode]
  simp

@[simp] lemma ofString_toString (id : DhtId) : ofString id.toString = some id := by
  rw [ofString, fromString_toString]
  refine congrArg some (DhtId.ext (funext fun i => ?_))
  exact Bytes.toList_getD id.data i

/-- Of whatever string, no more than an id is written. -/
lemma fromString_length (str : List UInt8) : (fromString str).1.length ≤ DHT_ID_SIZE := by
  unfold fromString
  dsimp only
  split
  · exact Nat.zero_le _
  · rename_i len
    split
    · exact Nat.zero_le _
    · rename_i last
      rw [if_neg (fun no => absurd no.1 (by decide))]
      have len : str.length = 4 * 7 := not_not.mp len
      rcases List.eq_nil_or_concat' str with rfl | ⟨init, c, rfl⟩
      · cases len
      · rw [List.length_append, List.length_singleton] at len
        have isPad : 0 < DHT_ID_SIZE % 3 → c = Base64.pad := by simpa using last
        have room := Base64.decodeStep_length len
        rw [isPad (by decide)]
        exact Nat.le_of_succ_le_succ room

/-- Where the value returned is `TRUE`, every byte is written. -/
lemma fromString_full {str : List UInt8} (ok : (fromString str).2 = true) :
    (fromString str).1.length = DHT_ID_SIZE := by
  unfold fromString at ok ⊢
  dsimp only at ok ⊢
  split at ok
  · cases ok
  · rename_i len
    split at ok
    · cases ok
    · rename_i last
      split at ok
      · cases ok
      · rename_i last'
        rw [if_neg len, if_neg last, if_neg last']
        exact of_decide_eq_true ok

/-- An id is read back from its string, and of no string, however long and whatever is in it, is more
    written than an id has room for, or less where the value returned is `TRUE`. -/
theorem string_safe :
    (∀ id : DhtId, (fromString id.toString).2 = true ∧
      (fromString id.toString).1 = id.data.toList) ∧
    ∀ str, (fromString str).1.length ≤ DHT_ID_SIZE ∧
      ((fromString str).2 = true → (fromString str).1.length = DHT_ID_SIZE) := by
  refine ⟨fun id => ?_, fun str => ⟨fromString_length str, fromString_full⟩⟩
  rw [fromString_toString]
  exact ⟨rfl, rfl⟩

end DhtId

end Nanotalk
