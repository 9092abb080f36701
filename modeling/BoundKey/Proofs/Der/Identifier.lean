import BoundKey.Der.Identifier
import BoundKey.Proofs.Bytes

set_option autoImplicit false

/-!
Object identifiers read back. The digits of a number in base 128 are marked up
to the last one, so the numbers come apart again; and the first two numbers come
apart because the second one is below forty.
-/

namespace BoundKey.Der.Identifier

def IsPacked : Identifier → Prop
  | ⟨first :: second :: _⟩ => first ≤ 2 ∧ second < 40
  | _ => False

instance : DecidablePred IsPacked
  | ⟨_ :: _ :: _⟩ => inferInstanceAs (Decidable (_ ∧ _))
  | ⟨[]⟩ | ⟨[_]⟩ => inferInstanceAs (Decidable False)

/-! ### Base 128 -/

theorem numbers_go (number : Nat) (rest : Bytes) :
    numbers 0 (base128.go number ++ rest) = numbers number rest := by
  induction number using Nat.strongRecOn generalizing rest with
  | ind number ih =>
      rw [base128.go]
      by_cases zero : number = 0
      · rw [if_pos zero, zero, List.nil_append]
      · have byte : (UInt8.ofNat (128 + number % 128)).toNat =
            128 + number % 128 := Bytes.toNat_byte (by omega)
        have marked : ¬ UInt8.ofNat (128 + number % 128) < 0x80 := by
          rw [UInt8.lt_iff_toNat_lt, byte]
          exact Nat.not_lt.2 (Nat.le_add_right _ _)
        have whole : number / 128 * 128 + (128 + number % 128 - 0x80) =
            number := by omega
        rw [if_neg zero, List.append_assoc,
          ih (number / 128)
            (Nat.div_lt_self (Nat.pos_of_ne_zero zero) (by decide)),
          List.singleton_append, numbers, if_neg marked, byte, whole]

theorem numbers_base128 (number : Nat) (rest : Bytes) :
    numbers 0 (base128 number ++ rest) = number :: numbers 0 rest := by
  have byte : (UInt8.ofNat (number % 128)).toNat = number % 128 :=
    Bytes.toNat_byte (by omega)
  have last : UInt8.ofNat (number % 128) < 0x80 := by
    rw [UInt8.lt_iff_toNat_lt, byte]
    exact Nat.mod_lt number (by decide)
  rw [base128, List.append_assoc, numbers_go, List.singleton_append, numbers,
    if_pos last, byte, Nat.div_add_mod']

theorem numbers_flatMap_base128 (list : List Nat) :
    numbers 0 (list.flatMap base128) = list := by
  induction list with
  | nil => rfl
  | cons number rest ih => rw [List.flatMap_cons, numbers_base128, ih]

/-! ### Identifiers -/

theorem ofElement?_toElement {identifier : Identifier}
    (packed : identifier.IsPacked) :
    ofElement? identifier.toElement = some identifier := by
  match identifier, packed with
  | ⟨first :: second :: rest⟩, ⟨small, below⟩ =>
      have top : min ((first * 40 + second) / 40) 2 = first := by omega
      rw [ofElement?, toElement, if_pos rfl, contents, numbers_base128,
        numbers_flatMap_base128]
      simp only [top, Nat.mul_comm 40, Nat.add_sub_cancel_left]

/-- An identifier is read from text only if it can be written. -/
theorem isPacked_of_ofText? {text : String} {identifier : Identifier}
    (found : ofText? text = some identifier) : identifier.IsPacked := by
  rw [ofText?] at found
  split at found
  · cases found
  · split at found
    · split at found
      · next a b c rest _ =>
          obtain ⟨fits, same⟩ := Option.ite_none_right_eq_some.1 found
          cases same
          exact ⟨fits.1, fits.2.1⟩
      · cases found
    · cases found

end BoundKey.Der.Identifier
