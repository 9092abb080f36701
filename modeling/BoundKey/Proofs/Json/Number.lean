import BoundKey.Json.Record
import BoundKey.Proofs.Text.Utf8
import Mathlib.Algebra.Group.Int.Defs
import Mathlib.Algebra.Group.Nat.Defs
import Mathlib.Data.List.TakeWhile

set_option autoImplicit false

/-!
Numbers in JSON texts. A number is printed as a sign, digits without a needless
zero in front, and for a fraction a point and more digits, which are the parts
read back from the literal. An integer of 64 bits, with or without sign, is read
back as itself.
-/

namespace BoundKey.Json

def naturalBytes (number : Nat) : Bytes :=
  Utf8.encodeChars (Decimal.digits number)

def signedBytes (negative : Bool) (bytes : Bytes) : Bytes :=
  if negative then 0x2d :: bytes else bytes

/-! ### Digits -/

private theorem digit_bytes {value : Nat} (small : value < 10) :
    Utf8.encodeChars [Decimal.digit value] = [UInt8.ofNat (48 + value)] := by
  have table : ∀ place : Fin 10, Utf8.encodeChars [Decimal.digit place] =
      [UInt8.ofNat (48 + place)] := by
    decide
  exact table ⟨value, small⟩

private theorem isDigit_digit {value : Nat} (small : value < 10) :
    Token.isDigit (UInt8.ofNat (48 + value)) = true := by
  have table : ∀ place : Fin 10,
      Token.isDigit (UInt8.ofNat (48 + place)) = true := by
    decide
  exact table ⟨value, small⟩

theorem naturalBytes_of_lt {number : Nat} (small : number < 10) :
    naturalBytes number = [UInt8.ofNat (48 + number)] := by
  rw [naturalBytes, Decimal.digits, if_pos small, digit_bytes small]

theorem naturalBytes_of_le {number : Nat} (large : 10 ≤ number) :
    naturalBytes number = naturalBytes (number / 10)
      ++ [UInt8.ofNat (48 + number % 10)] := by
  rw [naturalBytes, Decimal.digits, if_neg (Nat.not_lt.2 large),
    Utf8.encodeChars_append, digit_bytes (Nat.mod_lt number (by decide))]
  rfl

theorem isDigit_naturalBytes (number : Nat) :
    ∀ byte ∈ naturalBytes number, Token.isDigit byte = true := by
  induction number using Nat.strongRecOn with
  | ind number ih =>
      intro byte member
      by_cases small : number < 10
      · rw [naturalBytes_of_lt small, List.mem_singleton] at member
        rw [member]
        exact isDigit_digit small
      · rw [naturalBytes_of_le (Nat.not_lt.1 small)] at member
        rcases List.mem_append.1 member with inFront | atEnd
        · exact ih (number / 10) (by omega) byte inFront
        · rw [List.mem_singleton.1 atEnd]
          exact isDigit_digit (Nat.mod_lt number (by decide))

theorem naturalBytes_ne_nil (number : Nat) : naturalBytes number ≠ [] := by
  by_cases small : number < 10
  · rw [naturalBytes_of_lt small]
    exact List.cons_ne_nil _ _
  · rw [naturalBytes_of_le (Nat.not_lt.1 small)]
    exact List.append_ne_nil_of_right_ne_nil _ (List.cons_ne_nil _ _)

theorem head?_naturalBytes {number : Nat} (positive : number ≠ 0) :
    (naturalBytes number).head? ≠ some 0x30 := by
  induction number using Nat.strongRecOn with
  | ind number ih =>
      by_cases small : number < 10
      · rw [naturalBytes_of_lt small, List.head?_cons]
        intro same
        have bytes := congrArg UInt8.toNat (Option.some.inj same)
        rw [Bytes.toNat_byte (by omega)] at bytes
        change 48 + number = 48 at bytes
        omega
      · have large := Nat.not_lt.1 small
        have front := ih (number / 10) (by omega) (by omega)
        rw [naturalBytes_of_le large]
        cases shape : naturalBytes (number / 10) with
        | nil => exact absurd shape (naturalBytes_ne_nil _)
        | cons first rest =>
            rw [shape] at front
            exact front

theorem digitsValue_append_singleton (front : Bytes) (byte : UInt8) :
    digitsValue (front ++ [byte]) =
      digitsValue front * 10 + (byte.toNat - 48) := by
  rw [digitsValue, List.foldl_append]
  rfl

@[simp] theorem digitsValue_naturalBytes (number : Nat) :
    digitsValue (naturalBytes number) = number := by
  induction number using Nat.strongRecOn with
  | ind number ih =>
      by_cases small : number < 10
      · rw [naturalBytes_of_lt small]
        change 0 * 10 + ((UInt8.ofNat (48 + number)).toNat - 48) = number
        rw [Bytes.toNat_byte (by omega)]
        omega
      · have large := Nat.not_lt.1 small
        have lastSmall := Nat.mod_lt number (show 0 < 10 by decide)
        rw [naturalBytes_of_le large, digitsValue_append_singleton,
          ih (number / 10) (by omega), Bytes.toNat_byte (by omega)]
        omega

/-! ### Literals -/

theorem digits?_append {run rest : Bytes}
    (whole : ∀ byte ∈ run, Token.isDigit byte = true) (present : run ≠ [])
    (stops : ∀ byte ∈ rest.head?, Token.isDigit byte = false) :
    Token.digits? (run ++ rest) = some (run, rest) := by
  have taken : rest.takeWhile Token.isDigit = [] := by
    cases rest with
    | nil => rfl
    | cons byte more =>
        rw [List.takeWhile_cons, stops byte rfl, if_neg Bool.false_ne_true]
  have dropped : rest.dropWhile Token.isDigit = rest := by
    cases rest with
    | nil => rfl
    | cons byte more =>
        rw [List.dropWhile_cons, stops byte rfl, if_neg Bool.false_ne_true]
  unfold Token.digits?
  rw [List.takeWhile_append_of_pos whole, List.dropWhile_append_of_pos whole,
    taken, dropped, List.append_nil]
  exact if_neg (by rw [List.isEmpty_iff]; exact present)

private theorem ended : ∀ byte ∈ ([] : Bytes).head?,
    Token.isDigit byte = false := by
  intro byte first
  cases first

private theorem not_leadingZero (number : Nat) :
    ¬ ((naturalBytes number).head? = some 0x30 ∧
      (naturalBytes number).length ≠ 1) := by
  by_cases zero : number = 0
  · subst zero
    rw [naturalBytes_of_lt (by decide)]
    exact fun both => both.2 rfl
  · exact fun both => head?_naturalBytes zero both.1

/-- What is read of a literal after its sign and its whole digits. -/
private def partsAfter? (negative : Bool) (whole rest : Bytes) :
    Option Token.NumberParts :=
  match rest with
  | 0x2e :: afterPoint => do
    let (fraction, after) ← Token.digits? afterPoint
    let (exponentNegative, exponent) ← Token.tailParts? after
    some ⟨negative, whole, fraction, exponentNegative, exponent⟩
  | after => do
    let (exponentNegative, exponent) ← Token.tailParts? after
    some ⟨negative, whole, [], exponentNegative, exponent⟩

private theorem naturalBytes_append_shape (number : Nat) (rest : Bytes) :
    ∃ (first : UInt8) (others : Bytes),
      naturalBytes number ++ rest = first :: others ∧ first ≠ 0x2d := by
  cases shape : naturalBytes number with
  | nil => exact absurd shape (naturalBytes_ne_nil number)
  | cons first others =>
      refine ⟨first, others ++ rest, rfl, ?_⟩
      intro sign
      have digit := isDigit_naturalBytes number first
        (by rw [shape]; exact List.mem_cons_self)
      rw [sign] at digit
      cases digit

private theorem numberParts?_signedBytes_append
    (negative : Bool) (number : Nat) {rest : Bytes}
    (stops : ∀ byte ∈ rest.head?, Token.isDigit byte = false) :
    Token.numberParts? (signedBytes negative (naturalBytes number ++ rest)) =
      partsAfter? negative (naturalBytes number) rest := by
  have read := digits?_append (isDigit_naturalBytes number)
    (naturalBytes_ne_nil number) stops
  unfold Token.numberParts?
  split
  next readNegative unsigned same =>
    have sign : readNegative = negative ∧
        unsigned = naturalBytes number ++ rest := by
      cases negative with
      | true =>
          cases same
          exact ⟨rfl, rfl⟩
      | false =>
          obtain ⟨first, others, shape, notSign⟩ :=
            naturalBytes_append_shape number rest
          simp only [signedBytes, Bool.false_eq_true, if_false, shape] at same ⊢
          split at same
          · next minus => exact absurd (List.cons.inj minus).1 notSign
          · cases same
            exact ⟨rfl, rfl⟩
    rw [sign.1, sign.2, read]
    exact if_neg (not_leadingZero number)

theorem numberParts?_signedBytes (negative : Bool) (number : Nat) :
    Token.numberParts? (signedBytes negative (naturalBytes number)) =
      some ⟨negative, naturalBytes number, [], false, []⟩ := by
  have parts := numberParts?_signedBytes_append negative number ended
  rw [List.append_nil] at parts
  exact parts

theorem numberParts?_fraction (negative : Bool) (number : Nat) {fraction : Bytes}
    (whole : ∀ byte ∈ fraction, Token.isDigit byte = true)
    (present : fraction ≠ []) :
    Token.numberParts?
      (signedBytes negative (naturalBytes number ++ 0x2e :: fraction)) =
      some ⟨negative, naturalBytes number, fraction, false, []⟩ := by
  have stops : ∀ byte ∈ (0x2e :: fraction).head?, Token.isDigit byte = false := by
    intro byte first
    cases first
    rfl
  have read := digits?_append whole present ended
  rw [List.append_nil] at read
  rw [numberParts?_signedBytes_append negative number stops]
  change (do
    let (readFraction, after) ← Token.digits? fraction
    let (exponentNegative, exponent) ← Token.tailParts? after
    some (Token.NumberParts.mk negative _ readFraction
      exponentNegative exponent)) = _
  rw [read]
  rfl

/-! ### Printed numbers -/

def Number.bytes (number : Number) : Bytes :=
  Utf8.encodeChars number.chars

theorem Number.bytes_negSucc (number : Nat) :
    (Number.int (Int.negSucc number)).bytes =
      signedBytes true (naturalBytes (number + 1)) := by
  change Utf8.encodeChars ('-' :: Decimal.digits (number + 1)) = _
  rw [Utf8.encodeChars_cons]
  rfl

theorem Number.bytes_int (value : Int) :
    (Number.int value).bytes = signedBytes (decide (value < 0))
      (naturalBytes value.natAbs) := by
  cases value with
  | ofNat number =>
      have unsigned : decide (Int.ofNat number < 0) = false :=
        decide_eq_false (Int.not_lt.2 (Int.natCast_nonneg number))
      rw [unsigned]
      rfl
  | negSucc number =>
      have signed : decide (Int.negSucc number < 0) = true :=
        decide_eq_true (Int.negSucc_lt_zero number)
      rw [signed]
      exact Number.bytes_negSucc number

private theorem zeros_bytes (count : Nat) :
    Utf8.encodeChars (List.replicate count '0') = List.replicate count 0x30 := by
  induction count with
  | zero => rfl
  | succ count ih =>
      rw [List.replicate_succ, Utf8.encodeChars_cons, ih]
      rfl

theorem Number.bytes_decimal (negative : Bool) (digits : Nat) (exponent : Int) :
    ∃ (whole : Nat) (fraction : Bytes),
      (∀ byte ∈ fraction, Token.isDigit byte = true) ∧ fraction ≠ [] ∧
      (Number.decimal negative digits exponent).bytes =
        signedBytes negative (naturalBytes whole ++ 0x2e :: fraction) := by
  have sign (chars : List Char) :
      Utf8.encodeChars ((if negative then ['-'] else []) ++ chars) =
      signedBytes negative (Utf8.encodeChars chars) := by
    cases negative with
    | true => rfl
    | false => rfl
  unfold Number.bytes Number.chars
  by_cases large : 0 ≤ exponent
  · refine ⟨digits * Nat.pow 10 exponent.toNat, [0x30], ?_,
      List.cons_ne_nil _ _, ?_⟩
    · intro byte member
      rw [List.mem_singleton.1 member]
      rfl
    · simp only [if_pos large]
      rw [List.append_assoc, sign, Utf8.encodeChars_append]
      rfl
  · simp only [if_neg large]
    generalize Nat.pow 10 (-exponent).toNat = scale
    refine ⟨digits / scale,
      List.replicate ((-exponent).toNat -
        (Decimal.digits (digits % scale)).length) 0x30 ++
      naturalBytes (digits % scale), ?_, ?_, ?_⟩
    · intro byte member
      rcases List.mem_append.1 member with zero | digit
      · rw [List.eq_of_mem_replicate zero]
        rfl
      · exact isDigit_naturalBytes _ byte digit
    · exact List.append_ne_nil_of_right_ne_nil _ (naturalBytes_ne_nil _)
    · rw [List.append_assoc, List.append_assoc, sign, Utf8.encodeChars_append,
        List.cons_append, Utf8.encodeChars_cons,
        Utf8.encodeChars_append, zeros_bytes]
      rfl

theorem Number.ofLiteral?_int {value : Int} (low : -2 ^ 63 ≤ value)
    (high : value < 2 ^ 64) :
    Number.ofLiteral? (Number.int value).bytes = some (.int value) := by
  rw [Number.ofLiteral?, Number.bytes_int, numberParts?_signedBytes]
  simp only [Option.bind_eq_bind, Option.bind_some, digitsValue_naturalBytes,
    List.isEmpty_nil, Bool.and_self, Bool.true_and]
  cases value with
  | ofNat number =>
      have unsigned : decide (Int.ofNat number < 0) = false :=
        decide_eq_false (Int.not_lt.2 (Int.natCast_nonneg number))
      have bound : number < Nat.pow 2 64 := by
        have cast : (number : Int) < 2 ^ 64 := high
        change number < 2 ^ 64
        omega
      rw [unsigned]
      simp [bound]
  | negSucc number =>
      have signed : decide (Int.negSucc number < 0) = true :=
        decide_eq_true (Int.negSucc_lt_zero number)
      have bound : number + 1 ≤ Nat.pow 2 63 := by
        change number + 1 ≤ 2 ^ 63
        omega
      rw [signed]
      simp [bound]
      omega

/-! ### Where a literal stands in a text -/

private theorem isNumberByte_of_isDigit
    {byte : UInt8} (digit : Token.isDigit byte = true) :
    Token.isNumberByte byte = true := by
  unfold Token.isNumberByte
  rw [digit]
  rfl

private theorem isNumberByte_signedBytes {negative : Bool} {bytes : Bytes}
    (all : ∀ byte ∈ bytes, Token.isNumberByte byte = true) :
    ∀ byte ∈ signedBytes negative bytes, Token.isNumberByte byte = true := by
  cases negative with
  | false => exact all
  | true =>
      intro byte member
      rcases List.mem_cons.1 member with same | inside
      · rw [same]
        rfl
      · exact all byte inside

private theorem isNumberByte_naturalBytes (number : Nat) :
    ∀ byte ∈ naturalBytes number, Token.isNumberByte byte = true := by
  exact fun byte member =>
    isNumberByte_of_isDigit (isDigit_naturalBytes number byte member)

theorem Number.isNumberByte_bytes (number : Number) :
    ∀ byte ∈ number.bytes, Token.isNumberByte byte = true := by
  cases number with
  | int value =>
      rw [Number.bytes_int]
      exact isNumberByte_signedBytes (isNumberByte_naturalBytes _)
  | decimal negative digits exponent =>
      obtain ⟨whole, fraction, fractionDigits, present, same⟩ :=
        Number.bytes_decimal negative digits exponent
      rw [same]
      apply isNumberByte_signedBytes
      intro byte member
      rcases List.mem_append.1 member with front | behind
      · exact isNumberByte_naturalBytes whole byte front
      · rcases List.mem_cons.1 behind with point | digit
        · rw [point]
          rfl
        · exact isNumberByte_of_isDigit (fractionDigits byte digit)

theorem Number.numberParts?_bytes (number : Number) :
    (Token.numberParts? number.bytes).isSome = true := by
  cases number with
  | int value =>
      rw [Number.bytes_int, numberParts?_signedBytes]
      rfl
  | decimal negative digits exponent =>
      obtain ⟨whole, fraction, fractionDigits, present, same⟩ :=
        Number.bytes_decimal negative digits exponent
      rw [same, numberParts?_fraction negative whole fractionDigits present]
      rfl

theorem Number.bytes_ne_nil (number : Number) : number.bytes ≠ [] := by
  intro empty
  have parts := number.numberParts?_bytes
  rw [empty] at parts
  cases parts

end BoundKey.Json
