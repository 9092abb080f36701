import BoundKey.Proofs.Der
import BoundKey.Proofs.Rsa.Key

set_option autoImplicit false

/-!
Public keys in the form that certificates use. What is written for a usable key
is read as one element with nothing after it: the kind of the key with no
parameters, and a bit string that is again one element, the sequence of modulus
and exponent. An encoding is read in one way, so it is one of a single key.
-/

namespace BoundKey.Rsa.PublicKey

open Der (Element Identifier Tag)

/-! ### What an encoding says -/

def IsKey (key : PublicKey) (element : Element) : Prop :=
  ∃ modulus exponent : Element, element.parts? Tag.sequence =
    some [modulus, exponent] ∧
    modulus.WritesNatural key.modulus ∧ exponent.WritesNatural key.exponent

/-- Bytes that are one element: the kind of an RSA key with null for its
parameters, and a bit string that is itself one element, the key. -/
def IsInfo (key : PublicKey) (der : Bytes) : Prop :=
  ∃ (info kind identifier bits inner : Element) (encoded : Bytes),
    Element.decode der = .ok info ∧ info.parts? Tag.sequence = some [kind, bits] ∧
    kind.parts? Tag.sequence = some [identifier, ⟨Tag.null, []⟩] ∧
    Identifier.ofElement? identifier = some ⟨[1, 2, 840, 113549, 1, 1, 1]⟩ ∧
    bits.toBits? = some encoded ∧ Element.decode encoded = .ok inner ∧
      key.IsKey inner

variable {key other : PublicKey}

theorem IsKey.unique {element : Element} (first : key.IsKey element)
    (second : other.IsKey element) : key = other := by
  obtain ⟨modulus, exponent, parts, isModulus, isExponent⟩ := first
  obtain ⟨otherModulus, otherExponent, otherParts, otherIsModulus,
      otherIsExponent⟩ := second
  cases parts.symm.trans otherParts
  have sameModulus : key.modulus = other.modulus :=
    isModulus.value.symm.trans otherIsModulus.value
  have sameExponent : key.exponent = other.exponent :=
    isExponent.value.symm.trans otherIsExponent.value
  cases key with
  | mk modulus exponent => cases sameModulus; cases sameExponent; rfl

theorem IsInfo.unique {der : Bytes} (first : key.IsInfo der)
    (second : other.IsInfo der) : key = other := by
  obtain ⟨info, kind, identifier, bits, inner, encoded, decoded, parts, _, _,
      carried, opened, isKey⟩ := first
  obtain ⟨_, _, _, _, _, _, otherDecoded, otherParts, _, _, otherCarried,
      otherOpened, otherIsKey⟩ := second
  cases decoded.symm.trans otherDecoded
  cases parts.symm.trans otherParts
  cases carried.symm.trans otherCarried
  cases opened.symm.trans otherOpened
  exact isKey.unique otherIsKey

/-! ### Lengths -/

/-- A usable key has an exponent below its modulus, so both are of limited
size. -/
theorem sized_of_ofParts (built : ofParts key.modulus key.exponent = .ok key) :
    bitLength key.modulus ≤ maxModulusBits ∧
      bitLength key.exponent ≤ maxModulusBits := by
  obtain ⟨_, sized, usable⟩ := ofParts_eq_ok_iff.1 built
  obtain ⟨_, _, _, below, _⟩ := check_eq_ok_iff.1 usable
  obtain ⟨_, positive⟩ := pos_of_check usable
  have low := two_pow_bitLength_le positive
  have high := lt_two_pow_bitLength key.modulus
  have fewer : bitLength key.exponent - 1 < bitLength key.modulus :=
    (Nat.pow_lt_pow_iff_right (by decide)).1
      (Nat.lt_of_le_of_lt low (Nat.lt_trans below high))
  exact ⟨sized, by omega⟩

theorem readable_natural {number : Nat}
    (sized : bitLength number ≤ maxModulusBits) :
    (Element.natural number).IsReadable ∧
      (Element.natural number).encode.length ≤ 519 := by
  change bitLength number ≤ 4096 at sized
  have limit : 4096 / 8 < Der.maxLength := by decide
  have readable : (Element.natural number).IsReadable :=
    Element.isReadable_natural (by omega)
  refine ⟨readable, ?_⟩
  have length := readable.length_encode_le
  rw [Element.natural_contents_length] at length
  omega

theorem readable_toElement (built : ofParts key.modulus key.exponent = .ok key) :
    key.toElement.IsReadable ∧ key.toElement.encode.length ≤ 1044 := by
  obtain ⟨modulusSized, exponentSized⟩ := sized_of_ofParts built
  have length :
      ([Element.natural key.modulus, .natural key.exponent].flatMap
        Element.encode).length ≤ 1038 := by
    have modulusLength := (readable_natural modulusSized).2
    have exponentLength := (readable_natural exponentSized).2
    simp only [List.flatMap_cons, List.flatMap_nil, List.length_append,
      List.length_nil]
    omega
  have readable : key.toElement.IsReadable :=
    Element.isReadable_sequence (Nat.le_trans length (by decide))
  exact ⟨readable, Nat.le_trans readable.length_encode_le
    (Nat.add_le_add_right length 6)⟩

theorem readable_kind : (Element.sequence [keyKind.toElement, .null]).IsReadable ∧
    (Element.sequence [keyKind.toElement, .null]).encode.length = 15 :=
  ⟨Element.isReadable_sequence (by decide +kernel), by decide +kernel⟩

theorem readable_toInfo (built : ofParts key.modulus key.exponent = .ok key) :
    (Element.bits key.toElement.encode).IsReadable ∧ key.toInfo.IsReadable := by
  have inner := (readable_toElement built).2
  have limit : 2000 < Der.maxLength := by decide
  have readableBits : (Element.bits key.toElement.encode).IsReadable :=
    Element.isReadable_bits (by omega)
  refine ⟨readableBits, Element.isReadable_sequence ?_⟩
  have outer := readableBits.length_encode_le
  change _ ≤ (0 :: key.toElement.encode).length + 6 at outer
  rw [List.length_cons] at outer
  simp only [List.flatMap_cons, List.flatMap_nil, List.length_append,
    List.length_nil, readable_kind.2]
  omega

/-! ### The encoding of a usable key -/

theorem parts?_toElement (built : ofParts key.modulus key.exponent = .ok key) :
    key.toElement.parts? Tag.sequence =
      some [.natural key.modulus, .natural key.exponent] := by
  obtain ⟨modulusSized, exponentSized⟩ := sized_of_ofParts built
  apply Element.parts?_sequence
  intro element member
  rcases List.mem_pair.1 member with rfl | rfl
  · exact (readable_natural modulusSized).1
  · exact (readable_natural exponentSized).1

theorem isKey_toElement (built : ofParts key.modulus key.exponent = .ok key) :
    key.IsKey key.toElement :=
  ⟨.natural key.modulus, .natural key.exponent, parts?_toElement built,
    Element.natural_writes _, Element.natural_writes _⟩

theorem decode_toElement (built : ofParts key.modulus key.exponent = .ok key) :
    Element.decode key.toElement.encode = .ok key.toElement :=
  Element.decode_eq_ok_iff.2 ⟨(readable_toElement built).1, rfl⟩

theorem ofElement?_keyKind : Identifier.ofElement? keyKind.toElement =
    some ⟨[1, 2, 840, 113549, 1, 1, 1]⟩ := by
  decide +kernel

theorem parts?_kind :
    (Element.sequence [keyKind.toElement, .null]).parts? Tag.sequence =
    some [keyKind.toElement, ⟨Tag.null, []⟩] := by
  decide +kernel

theorem parts?_toInfo (built : ofParts key.modulus key.exponent = .ok key) :
    key.toInfo.parts? Tag.sequence =
    some [.sequence [keyKind.toElement, .null], .bits key.toElement.encode] := by
  apply Element.parts?_sequence
  intro element member
  rcases List.mem_pair.1 member with rfl | rfl
  · exact readable_kind.1
  · exact (readable_toInfo built).1

theorem isInfo_toDer (built : ofParts key.modulus key.exponent = .ok key) :
    key.IsInfo key.toDer := by
  have whole : Element.decode key.toDer = .ok key.toInfo :=
    Element.decode_eq_ok_iff.2 ⟨(readable_toInfo built).2, rfl⟩
  have carried : (Element.bits key.toElement.encode).toBits? =
      some key.toElement.encode := Element.toBits?_bits _
  exact ⟨key.toInfo, .sequence [keyKind.toElement, .null], keyKind.toElement,
    .bits key.toElement.encode, key.toElement, key.toElement.encode, whole,
    parts?_toInfo built, parts?_kind, ofElement?_keyKind, carried,
    decode_toElement built, isKey_toElement built⟩

/-! ### The key read back -/

theorem ofElement?_toElement
    (built : ofParts key.modulus key.exponent = .ok key) :
    ofElement? key.toElement = some key := by
  simp only [ofElement?, parts?_toElement built, Option.bind_eq_bind,
    Option.bind_some, Element.toNatural?_natural]

theorem ofInfo?_toInfo (built : ofParts key.modulus key.exponent = .ok key) :
    ofInfo? key.toInfo = some key := by
  simp only [ofInfo?, parts?_toInfo built, Option.bind_eq_bind,
    Option.bind_some, if_true, Element.toBits?_bits,
    decode_toElement built, Except.toOption, ofElement?_toElement built]

end BoundKey.Rsa.PublicKey
