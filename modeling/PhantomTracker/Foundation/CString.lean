import Mathlib.Data.List.TakeWhile

/-!
Contract: fixed-size C character arrays and the string operations on them.

Owns: character arrays that carry their size, copying a string into a
zero-filled array (what `strncpy` with a bound one below the size and
`snprintf` both leave behind), the string an array holds up to its first NUL,
and the round trip between the two.

Does not own: which strings a program stores, or arrays that are not
zero-filled before they are written.
-/

namespace PhantomTracker.Foundation

/-- A C `char[size]`. The size is part of the value, so an array of another
size cannot be built. -/
structure CharArray (size : Nat) where
  bytes : List UInt8
  length_eq : bytes.length = size
deriving DecidableEq

namespace CharArray

variable {size : Nat}

@[ext] theorem ext {left right : CharArray size} (same : left.bytes = right.bytes) :
    left = right := by
  cases left
  cases right
  cases same
  rfl

/-- The array `char a[size] = {};`. -/
def zeroed (size : Nat) : CharArray size :=
  ⟨List.replicate size 0, List.length_replicate⟩

/-- The first `size` of the given bytes, zero-filled to the end. -/
def ofBytes (size : Nat) (bytes : List UInt8) : CharArray size :=
  ⟨bytes.take size ++ List.replicate (size - bytes.length) 0, by
    rw [List.length_append, List.length_take, List.length_replicate]
    omega⟩

/-- A zero-filled array after a string has been copied into all but its last
byte: `strncpy(a, text, size - 1)`, and `snprintf(a, size, "%s", text)`. -/
def copyString (size : Nat) (text : List UInt8) : CharArray size :=
  ofBytes size (text.take (size - 1))

/-- The byte `a[index]`. -/
def get (array : CharArray size) (index : Nat) : UInt8 :=
  array.bytes.getD index 0

/-- The store `a[index] = byte`. -/
def set (array : CharArray size) (index : Nat) (byte : UInt8) : CharArray size :=
  ⟨array.bytes.set index byte, by rw [List.length_set, array.length_eq]⟩

/-- The string an array holds: the bytes before its first NUL. -/
def text (array : CharArray size) : List UInt8 :=
  array.bytes.takeWhile (· ≠ 0)

/-- A string contains no NUL. -/
def NulFree (text : List UInt8) : Prop :=
  ∀ byte ∈ text, byte ≠ 0

instance (text : List UInt8) : Decidable (NulFree text) :=
  List.decidableBAll (· ≠ 0) text

theorem NulFree.take {text : List UInt8} (nulFree : NulFree text) (count : Nat) :
    NulFree (text.take count) :=
  fun byte member => nulFree byte (List.mem_of_mem_take member)

theorem ofBytes_bytes_of_le {bytes : List UInt8} (fits : bytes.length ≤ size) :
    (ofBytes size bytes).bytes = bytes ++ List.replicate (size - bytes.length) 0 := by
  change bytes.take size ++ List.replicate (size - bytes.length) 0 = _
  rw [List.take_of_length_le fits]

theorem copyString_bytes_of_lt {text : List UInt8} (fits : text.length < size) :
    (copyString size text).bytes = text ++ List.replicate (size - text.length) 0 := by
  unfold copyString
  rw [List.take_of_length_le (by omega), ofBytes_bytes_of_le (by omega)]

private theorem takeWhile_append_zeros {text : List UInt8} (nulFree : NulFree text)
    (count : Nat) :
    (text ++ List.replicate count 0).takeWhile (· ≠ 0) = text := by
  induction text with
  | nil => cases count <;> simp [List.replicate_succ]
  | cons byte rest inductionHypothesis =>
      have byteNonzero : byte ≠ 0 := nulFree byte (by simp)
      have restNulFree : NulFree rest := fun other member =>
        nulFree other (List.mem_cons_of_mem byte member)
      rw [List.cons_append, List.takeWhile_cons_of_pos (by simpa using byteNonzero),
        inductionHypothesis restNulFree]

/-- A string that fits with its terminator is read back unchanged. -/
theorem text_copyString {text : List UInt8} (nulFree : NulFree text)
    (fits : text.length < size) : (copyString size text).text = text := by
  unfold CharArray.text
  rw [copyString_bytes_of_lt fits, takeWhile_append_zeros nulFree]

/-- A string of any length is read back up to the room that the terminator
leaves. -/
theorem text_copyString_take {text : List UInt8} (nulFree : NulFree text) (positive : 0 < size) :
    (copyString size text).text = text.take (size - 1) := by
  have cut : copyString size text = copyString size (text.take (size - 1)) := by
    unfold copyString
    rw [List.take_take, Nat.min_self]
  have fits : (text.take (size - 1)).length < size := by
    rw [List.length_take]
    omega
  rw [cut, text_copyString (nulFree.take (size - 1)) fits]

/-- Two strings that fit are equal when their arrays are. -/
theorem copyString_injective {left right : List UInt8} (leftNulFree : NulFree left)
    (rightNulFree : NulFree right) (leftFits : left.length < size)
    (rightFits : right.length < size)
    (same : copyString size left = copyString size right) : left = right := by
  rw [← text_copyString leftNulFree leftFits, same, text_copyString rightNulFree rightFits]

end CharArray

/-- A C string: bytes without a NUL, which the terminator follows. -/
structure CString where
  bytes : List UInt8
  nulFree : CharArray.NulFree bytes
deriving DecidableEq

end PhantomTracker.Foundation
