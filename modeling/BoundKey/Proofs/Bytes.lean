import BoundKey.Bytes
import Mathlib.Algebra.Group.Nat.Defs
import Mathlib.Data.List.Induction

set_option autoImplicit false

/-!
Numbers and the byte strings that write them. Reading undoes writing in a fixed
width for numbers that fit, writing undoes reading for every byte string, and a
number fits the bytes that its length counts. Byte strings for one number differ
in their leading zeros alone. Pieces of one size, joined, are the list that was
cut.
-/

namespace BoundKey

/-! ### Lengths of numbers -/

theorem lt_two_pow_bitLength (number : Nat) : number < 2 ^ bitLength number := by
  unfold bitLength
  by_cases zero : number = 0
  · subst number
    decide
  · rw [if_neg zero]
    exact Nat.lt_log2_self

theorem two_pow_bitLength_le {number : Nat} (positive : number ≠ 0) :
    2 ^ (bitLength number - 1) ≤ number := by
  unfold bitLength
  rw [if_neg positive, Nat.add_sub_cancel]
  exact Nat.log2_self_le positive

theorem bitLength_eq {number bits : Nat} (low : 2 ^ bits ≤ number)
    (high : number < 2 ^ (bits + 1)) : bitLength number = bits + 1 := by
  have positive : number ≠ 0 :=
    Nat.ne_of_gt (Nat.lt_of_lt_of_le (Nat.two_pow_pos bits) low)
  rw [bitLength, if_neg positive, (Nat.log2_eq_iff positive).2 ⟨low, high⟩]

theorem lt_pow_byteLength (number : Nat) : number < 256 ^ byteLength number := by
  have widened : 2 ^ bitLength number ≤ 2 ^ (8 * byteLength number) := by
    apply Nat.pow_le_pow_right (by decide)
    unfold byteLength
    omega
  rw [Nat.pow_mul] at widened
  exact Nat.lt_of_lt_of_le (lt_two_pow_bitLength number) widened

/-- A number does not fit into fewer bytes than it fills. -/
theorem pow_le_of_lt_byteLength {number width : Nat}
    (fewer : width < byteLength number) : 256 ^ width ≤ number := by
  have positive : number ≠ 0 := by
    intro zero
    subst number
    change width < 0 at fewer
    exact Nat.not_lt_zero width fewer
  have narrowed : 2 ^ (8 * width) ≤ 2 ^ (bitLength number - 1) := by
    apply Nat.pow_le_pow_right (by decide)
    unfold byteLength at fewer
    omega
  rw [Nat.pow_mul] at narrowed
  exact Nat.le_trans narrowed (two_pow_bitLength_le positive)

namespace Bytes

theorem toNat_byte {number : Nat} (small : number < 256) :
    (UInt8.ofNat number).toNat = number :=
  UInt8.toNat_ofNat_of_lt small

/-! ### Fixed width -/

@[simp] theorem littleEndian_length (width number : Nat) :
    (littleEndian width number).length = width := by
  induction width generalizing number with
  | zero => rfl
  | succ width ih =>
      rw [littleEndian, List.length_cons, ih]

@[simp] theorem bigEndian_length (width number : Nat) :
    (bigEndian width number).length = width := by
  rw [bigEndian, List.length_reverse, littleEndian_length]

@[simp] theorem toNat_append_singleton (bytes : Bytes) (byte : UInt8) :
    toNat (bytes ++ [byte]) = toNat bytes * 256 + byte.toNat := by
  rw [toNat, List.foldl_append]
  rfl

theorem bigEndian_succ (width number : Nat) :
    bigEndian (width + 1) number =
      bigEndian width (number / 256) ++ [UInt8.ofNat (number % 256)] := by
  rw [bigEndian, littleEndian, List.reverse_cons]
  rfl

/-- Reading undoes writing up to the bytes that are cut off. -/
theorem toNat_bigEndian_mod (width number : Nat) :
    toNat (bigEndian width number) = number % 256 ^ width := by
  induction width generalizing number with
  | zero =>
      rw [Nat.pow_zero, Nat.mod_one]
      rfl
  | succ width ih =>
      rw [bigEndian_succ, toNat_append_singleton, ih,
        UInt8.toNat_ofNat', Nat.mod_mod,
        Nat.pow_succ, Nat.mul_comm (256 ^ width) 256, Nat.mod_mul]
      omega

theorem toNat_bigEndian {width number : Nat} (fits : number < 256 ^ width) :
    toNat (bigEndian width number) = number := by
  rw [toNat_bigEndian_mod, Nat.mod_eq_of_lt fits]

theorem toNat_lt (bytes : Bytes) : toNat bytes < 256 ^ bytes.length := by
  induction bytes using List.reverseRecOn with
  | nil => decide
  | append_singleton front byte ih =>
      rw [toNat_append_singleton, List.length_append,
        List.length_singleton, Nat.pow_succ]
      have bound := byte.toNat_lt
      omega

/-- Writing undoes reading when the width is kept. -/
theorem bigEndian_toNat (bytes : Bytes) :
    bigEndian bytes.length (toNat bytes) = bytes := by
  induction bytes using List.reverseRecOn with
  | nil => rfl
  | append_singleton front byte ih =>
      have bound := byte.toNat_lt
      have quotient : (toNat front * 256 + byte.toNat) / 256 =
          toNat front := by omega
      have remainder : (toNat front * 256 + byte.toNat) % 256 =
          byte.toNat := by omega
      rw [toNat_append_singleton, List.length_append, List.length_singleton,
        bigEndian_succ, quotient, ih, remainder, UInt8.ofNat_toNat]

theorem eq_bigEndian {bytes : Bytes} {width number : Nat}
    (sized : bytes.length = width)
    (valued : toNat bytes = number) : bytes = bigEndian width number := by
  subst sized valued
  exact (bigEndian_toNat bytes).symm

/-! ### Leading zeros and the fewest bytes -/

@[simp] theorem toNat_zero_cons (bytes : Bytes) :
    toNat (0 :: bytes) = toNat bytes := rfl

@[simp] theorem toNat_ofNat (number : Nat) : toNat (ofNat number) = number :=
  toNat_bigEndian (lt_pow_byteLength number)

theorem toNat_cons (first : UInt8) (rest : Bytes) :
    toNat (first :: rest) = first.toNat * 256 ^ rest.length + toNat rest := by
  induction rest using List.reverseRecOn with
  | nil =>
      change 0 * 256 + first.toNat = first.toNat * 256 ^ 0 + 0
      omega
  | append_singleton front byte ih =>
      rw [← List.cons_append, toNat_append_singleton, ih,
        toNat_append_singleton, List.length_append,
        List.length_singleton, Nat.pow_succ, Nat.add_mul,
        Nat.mul_assoc, Nat.add_assoc]

theorem pow_le_toNat {first : UInt8} (counts : first ≠ 0) (rest : Bytes) :
    256 ^ rest.length ≤ toNat (first :: rest) := by
  have positive : 1 ≤ first.toNat :=
    Nat.one_le_iff_ne_zero.2 fun zero => counts (UInt8.toNat_inj.1 zero)
  rw [toNat_cons]
  exact Nat.le_trans (Nat.le_mul_of_pos_left _ positive) (Nat.le_add_right _ _)

theorem toNat_cons_lt {first : UInt8} {bound : Nat}
    (below : first.toNat < bound) (rest : Bytes) :
    toNat (first :: rest) < bound * 256 ^ rest.length := by
  have next := Nat.mul_le_mul_right (256 ^ rest.length) (Nat.succ_le_of_lt below)
  rw [Nat.succ_mul] at next
  rw [toNat_cons]
  exact Nat.lt_of_lt_of_le (Nat.add_lt_add_left (toNat_lt rest) _) next

/-- A byte string whose first byte is not zero is the shortest one for its
number. -/
theorem ofNat_toNat_cons {first : UInt8} (counts : first ≠ 0) (rest : Bytes) :
    ofNat (toNat (first :: rest)) = first :: rest := by
  have low := pow_le_toNat counts rest
  have high := toNat_lt (first :: rest)
  have filled : byteLength (toNat (first :: rest)) = (first :: rest).length := by
    apply Nat.le_antisymm
    · by_contra longer
      exact absurd (pow_le_of_lt_byteLength (Nat.lt_of_not_le longer))
        (Nat.not_le.2 high)
    · by_contra shorter
      have few : byteLength (toNat (first :: rest)) ≤ rest.length := by
        rw [List.length_cons] at shorter
        omega
      have small := Nat.pow_le_pow_right (show 0 < 256 by decide) few
      exact absurd (lt_pow_byteLength (toNat (first :: rest)))
        (Nat.not_lt.2 (Nat.le_trans small low))
  rw [ofNat, filled, bigEndian_toNat]

def leadingZeros (bytes : Bytes) : Nat :=
  (bytes.takeWhile (· == 0)).length

/-- A byte string consists of its leading zeros and of the shortest one for its
number. -/
theorem zeros_append_ofNat (bytes : Bytes) :
    zeros (leadingZeros bytes) ++ ofNat (toNat bytes) = bytes := by
  induction bytes with
  | nil => rfl
  | cons first rest ih =>
      by_cases zero : first = 0
      · subst zero
        rw [toNat_zero_cons, leadingZeros, List.takeWhile_cons_of_pos rfl,
          List.length_cons, zeros, List.replicate_succ, List.cons_append]
        exact congrArg (List.cons 0) ih
      · have noZero : (first :: rest).takeWhile (· == 0) = [] :=
          List.takeWhile_cons_of_neg fun same => zero (eq_of_beq same)
        rw [leadingZeros, noZero, ofNat_toNat_cons zero]
        rfl

theorem toNat_zeros_append (count : Nat) (bytes : Bytes) :
    toNat (zeros count ++ bytes) = toNat bytes := by
  induction count with
  | zero => rfl
  | succ count ih => exact ih

theorem drop_bigEndian_toNat {bytes : Bytes} {width : Nat}
    (fits : bytes.length ≤ width) :
    (bigEndian width (toNat bytes)).drop (width - bytes.length) = bytes := by
  have sized : (zeros (width - bytes.length) ++ bytes).length = width := by
    rw [List.length_append, zeros, List.length_replicate, Nat.sub_add_cancel fits]
  rw [← eq_bigEndian sized (toNat_zeros_append _ bytes)]
  exact List.drop_left' List.length_replicate

theorem length_ofNat_le {bytes : Bytes} {number : Nat}
    (written : toNat bytes = number) :
    (ofNat number).length ≤ bytes.length := by
  have whole := congrArg List.length (zeros_append_ofNat bytes)
  rw [written, List.length_append] at whole
  omega

@[simp] theorem leadingZeros_ofNat (number : Nat) :
    leadingZeros (ofNat number) = 0 := by
  have whole := congrArg List.length (zeros_append_ofNat (ofNat number))
  rw [toNat_ofNat, List.length_append, zeros, List.length_replicate] at whole
  omega

/-! ### Exclusive or -/

@[simp] theorem xor_length (left right : Bytes) :
    (xor left right).length = min left.length right.length :=
  List.length_zipWith

theorem xor_xor {bytes mask : Bytes} (covered : bytes.length ≤ mask.length) :
    xor (xor bytes mask) mask = bytes := by
  induction bytes generalizing mask with
  | nil => rfl
  | cons byte rest ih =>
      cases mask with
      | nil => exact absurd covered (Nat.not_succ_le_zero _)
      | cons other more =>
          change (byte ^^^ other ^^^ other) :: xor (xor rest more) more =
            byte :: rest
          rw [UInt8.xor_assoc, UInt8.xor_self, UInt8.xor_zero,
            ih (Nat.le_of_succ_le_succ covered)]

end Bytes

/-! ### Pieces -/

section Pieces

variable {α : Type} {size : Nat}

@[simp] theorem chunks_nil (size : Nat) : chunks size ([] : List α) = [] := by
  rw [chunks, dif_pos (.inr rfl)]

theorem chunks_of_ne_nil (positive : 0 < size) {items : List α}
    (present : items ≠ []) :
    chunks size items = items.take size :: chunks size (items.drop size) := by
  have goesOn : ¬ (size = 0 ∨ items = []) := by
    rintro (zero | empty)
    · exact absurd zero (Nat.ne_of_gt positive)
    · exact present empty
  rw [chunks, dif_neg goesOn]

theorem chunks_append (positive : 0 < size) {first : List α}
    (full : first.length = size) (rest : List α) :
    chunks size (first ++ rest) = first :: chunks size rest := by
  have present : first ++ rest ≠ [] := by
    rw [← List.length_pos_iff, List.length_append]
    omega
  rw [chunks_of_ne_nil positive present, ← full, List.take_left, List.drop_left]

theorem flatten_chunks (positive : 0 < size) (items : List α) :
    (chunks size items).flatten = items := by
  induction items using chunks.induct size with
  | case1 items stops =>
      have empty : items = [] := stops.resolve_left (Nat.ne_of_gt positive)
      rw [empty, chunks_nil]
      rfl
  | case2 items goesOn ih =>
      have present : items ≠ [] := fun empty => goesOn (.inr empty)
      rw [chunks_of_ne_nil positive present, List.flatten_cons, ih,
        List.take_append_drop]

theorem length_le_of_mem_chunks {items piece : List α}
    (member : piece ∈ chunks size items) : piece.length ≤ size := by
  induction items using chunks.induct size with
  | case1 items stops =>
      rw [chunks, dif_pos stops] at member
      cases member
  | case2 items goesOn ih =>
      rw [chunks, dif_neg goesOn] at member
      rcases List.mem_cons.1 member with first | later
      · rw [first]
        exact List.length_take_le size items
      · exact ih later

theorem length_flatten_of_sized {full : List (List α)}
    (sized : ∀ piece ∈ full, piece.length = size) :
    full.flatten.length = size * full.length := by
  have lengths : full.map List.length = List.replicate full.length size :=
    List.eq_replicate_iff.2 ⟨List.length_map _, by simpa using sized⟩
  rw [List.length_flatten, lengths, List.sum_replicate_nat, Nat.mul_comm]

theorem chunks_flatten_append (positive : 0 < size) {full : List (List α)}
    (sized : ∀ piece ∈ full, piece.length = size)
    (rest : List α) :
    chunks size (full.flatten ++ rest) = full ++ chunks size rest := by
  induction full with
  | nil => rfl
  | cons piece more ih =>
      rw [List.flatten_cons, List.append_assoc,
        chunks_append positive (sized piece List.mem_cons_self),
        ih fun other member => sized other (List.mem_cons_of_mem piece member)]
      rfl

theorem chunks_flatten (positive : 0 < size) {full : List (List α)}
    (sized : ∀ piece ∈ full, piece.length = size) :
    chunks size full.flatten = full := by
  have cut := chunks_flatten_append positive sized []
  rwa [chunks_nil, List.append_nil, List.append_nil] at cut

theorem length_of_mem_chunks {items piece : List α}
    (whole : size ∣ items.length) (member : piece ∈ chunks size items) :
    piece.length = size := by
  induction items using chunks.induct size with
  | case1 items stops =>
      rw [chunks, dif_pos stops] at member
      cases member
  | case2 items goesOn ih =>
      have present : 0 < items.length :=
        List.length_pos_iff.2 fun empty => goesOn (.inr empty)
      have long : size ≤ items.length := Nat.le_of_dvd present whole
      rw [chunks, dif_neg goesOn] at member
      rcases List.mem_cons.1 member with first | later
      · rw [first, List.length_take, Nat.min_eq_left long]
      · refine ih ?_ later
        rw [List.length_drop]
        exact Nat.dvd_sub whole (Nat.dvd_refl size)

theorem chunks_append_of_dvd (positive : 0 < size) {items : List α}
    (whole : size ∣ items.length) (rest : List α) :
    chunks size (items ++ rest) = chunks size items ++ chunks size rest := by
  have cut :=
    chunks_flatten_append positive (fun _ => length_of_mem_chunks whole) rest
  rwa [flatten_chunks positive] at cut

theorem length_chunks (positive : 0 < size) (items : List α) :
    (chunks size items).length = (items.length + size - 1) / size := by
  induction items using chunks.induct size with
  | case1 items stops =>
      have empty : items = [] := stops.resolve_left (Nat.ne_of_gt positive)
      rw [empty, chunks_nil, List.length_nil, List.length_nil, Nat.zero_add,
        Nat.div_eq_of_lt (by omega)]
  | case2 items goesOn ih =>
      have present : items ≠ [] := fun empty => goesOn (.inr empty)
      have some : 0 < items.length := List.length_pos_iff.2 present
      rw [chunks_of_ne_nil positive present, List.length_cons, ih,
        List.length_drop]
      rcases Nat.lt_or_ge items.length size with shorter | longer
      · have none : items.length - size + size - 1 = size - 1 := by omega
        have one : items.length + size - 1 = items.length - 1 + size := by omega
        rw [none, one, Nat.add_div_right _ positive,
          Nat.div_eq_of_lt (by omega), Nat.div_eq_of_lt (by omega)]
      · have split : items.length + size - 1 =
            items.length - size + size - 1 + size := by omega
        rw [split, Nat.add_div_right _ positive]

end Pieces

end BoundKey
