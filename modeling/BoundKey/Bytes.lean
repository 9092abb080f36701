set_option autoImplicit false

/-!
Byte strings and the numbers they write. Numbers are written big-endian, either
in a fixed width or in the fewest bytes; `chunks` cuts a byte string into pieces
of one size.
-/

namespace BoundKey

abbrev Bytes := List UInt8

def bitLength (number : Nat) : Nat :=
  if number = 0 then 0 else number.log2 + 1

def byteLength (number : Nat) : Nat :=
  (bitLength number + 7) / 8

namespace Bytes

def toNat (bytes : Bytes) : Nat :=
  bytes.foldl (fun number byte => number * 256 + byte.toNat) 0

def littleEndian : Nat → Nat → Bytes
  | 0, _ => []
  | width + 1, number =>
      UInt8.ofNat (number % 256) :: littleEndian width (number / 256)

def bigEndian (width number : Nat) : Bytes :=
  (littleEndian width number).reverse

/-- A number in the fewest bytes, most significant byte first; zero is the empty
string. -/
def ofNat (number : Nat) : Bytes :=
  bigEndian (byteLength number) number

def zeros (count : Nat) : Bytes :=
  List.replicate count 0

def xor (left right : Bytes) : Bytes :=
  List.zipWith (· ^^^ ·) left right

end Bytes

/-- Consecutive pieces of `size` elements, the last one possibly shorter; no
pieces when the list is empty, and none when the size is zero. -/
def chunks {α : Type} (size : Nat) (items : List α) : List (List α) :=
  if _stop : size = 0 ∨ items = [] then []
  else items.take size :: chunks size (items.drop size)
termination_by items.length
decreasing_by
  have positive : 0 < items.length :=
    List.length_pos_iff.2 (fun empty => _stop (.inr empty))
  have size_pos : 0 < size := Nat.pos_of_ne_zero (fun zero => _stop (.inl zero))
  rw [List.length_drop]
  omega

end BoundKey
