import BoundKey.Json.Record
import BoundKey.Proofs.Text.Utf8

set_option autoImplicit false

/-!
Strings of JSON texts. What stands between the quotes of a printed text is
scanned to its closing quote and stands for the text again, whatever characters
the text has. Both scans are followed one character of the text at a time.
-/

namespace BoundKey.Json

def quotedBytes (text : String) : Bytes :=
  Utf8.encodeChars (text.toList.flatMap escape)

/-! ### How a character stands inside a string -/

/-- The forms that `escape` gives a character: a backslash and one letter, a
backslash and a number, or the character itself. -/
inductive Escaped (char : Char) : Bytes → Prop where
  | short (letter : UInt8) (isLetter : Token.isShortEscape letter = true)
      (meant : String.utf8EncodeChar char = [if letter = 0x62 then 0x08
        else if letter = 0x66 then 0x0c
        else if letter = 0x6e then 0x0a else if letter = 0x72 then 0x0d
        else if letter = 0x74 then 0x09 else letter]) :
      Escaped char [0x5c, letter]
  | code (high low : UInt8) (isHigh : Token.isHexDigit high = true)
      (isLow : Token.isHexDigit low = true)
      (meant : hexValue 0x30 0x30 high low = char.toNat)
      (small : char.toNat < 0x20) :
      Escaped char [0x5c, 0x75, 0x30, 0x30, high, low]
  | plain
      (bare : ∀ byte ∈ String.utf8EncodeChar char, 0x20 ≤ byte.toNat ∧
        byte ≠ 0x22 ∧ byte ≠ 0x5c) :
      Escaped char (String.utf8EncodeChar char)

private theorem hexDigit_bytes {value : Nat} (small : value < 16) :
    String.utf8EncodeChar (Hex.digit value) =
      [UInt8.ofNat (Hex.digit value).toNat] ∧
      Token.isHexDigit (UInt8.ofNat (Hex.digit value).toNat) = true ∧
      hexDigitValue (UInt8.ofNat (Hex.digit value).toNat) = value := by
  have table : ∀ place : Fin 16, String.utf8EncodeChar (Hex.digit place) =
      [UInt8.ofNat (Hex.digit place).toNat] ∧
      Token.isHexDigit (UInt8.ofNat (Hex.digit place).toNat) = true ∧
      hexDigitValue (UInt8.ofNat (Hex.digit place).toNat) = place.val := by
    decide
  exact table ⟨value, small⟩

private theorem eq_of_toNat {char other : Char}
    (same : char.toNat = other.toNat) : char = other := by
  rw [← Char.ofNat_toNat char, same, Char.ofNat_toNat]

private theorem escaped_code {char : Char} (small : char.toNat < 0x20) :
    Escaped char (Utf8.encodeChars ['\\', 'u', '0', '0',
      Hex.digit (char.toNat / 16), Hex.digit (char.toNat % 16)]) := by
  obtain ⟨highBytes, isHigh, highValue⟩ :=
    hexDigit_bytes (show char.toNat / 16 < 16 by omega)
  obtain ⟨lowBytes, isLow, lowValue⟩ :=
    hexDigit_bytes (show char.toNat % 16 < 16 by omega)
  have bytes : Utf8.encodeChars ['\\', 'u', '0', '0',
      Hex.digit (char.toNat / 16), Hex.digit (char.toNat % 16)] =
      [0x5c, 0x75, 0x30, 0x30, UInt8.ofNat (Hex.digit (char.toNat / 16)).toNat,
        UInt8.ofNat (Hex.digit (char.toNat % 16)).toNat] := by
    simp only [Utf8.encodeChars_cons, Utf8.encodeChars_nil, highBytes, lowBytes]
    rfl
  have zero : hexDigitValue 0x30 = 0 := rfl
  rw [bytes]
  refine .code _ _ isHigh isLow ?_ small
  rw [hexValue, highValue, lowValue, zero]
  omega

private theorem escaped_plain {char : Char} (notQuote : char.toNat ≠ 0x22)
    (notBackslash : char.toNat ≠ 0x5c)
    (big : 0x20 ≤ char.toNat) : Escaped char (Utf8.encodeChars [char]) := by
  rw [Utf8.encodeChars_cons, Utf8.encodeChars_nil, List.append_nil]
  refine .plain ?_
  intro byte member
  by_cases ascii : char.toNat < 128
  · rw [Utf8.utf8EncodeChar_ascii ascii, List.mem_singleton] at member
    have number : byte.toNat = char.toNat := by
      rw [member]
      exact Bytes.toNat_byte (by omega)
    refine ⟨by omega, ?_, ?_⟩
    · intro same
      rw [same] at number
      exact notQuote number.symm
    · intro same
      rw [same] at number
      exact notBackslash number.symm
  · have high := Utf8.utf8EncodeChar_high (by omega) byte member
    refine ⟨by omega, ?_, ?_⟩
    · intro same
      rw [same] at high
      exact absurd high (by decide)
    · intro same
      rw [same] at high
      exact absurd high (by decide)

theorem escaped_escape (char : Char) :
    Escaped char (Utf8.encodeChars (escape char)) := by
  unfold escape
  split
  · next same =>
      subst same
      exact .short 0x22 rfl rfl
  · split
    · next same =>
        subst same
        exact .short 0x5c rfl rfl
    · split
      · next same =>
          subst same
          exact .short 0x6e rfl rfl
      · split
        · next same =>
            subst same
            exact .short 0x72 rfl rfl
        · split
          · next same =>
              subst same
              exact .short 0x74 rfl rfl
          · split
            · next same =>
                have isBackspace : char = '\x08' := eq_of_toNat same
                subst isBackspace
                exact .short 0x62 rfl rfl
            · split
              · next same =>
                  have isFormFeed : char = '\x0c' := eq_of_toNat same
                  subst isFormFeed
                  exact .short 0x66 rfl rfl
              · split
                · next small => exact escaped_code small
                · next notQuote notBackslash _ _ _ _ _ big =>
                    refine escaped_plain ?_ ?_ (Nat.not_lt.1 big)
                    · exact fun same => notQuote (eq_of_toNat same)
                    · exact fun same => notBackslash (eq_of_toNat same)

/-! ### Scanning -/

private theorem scanString_plain_append {bytes : Bytes}
    (bare : ∀ byte ∈ bytes, 0x20 ≤ byte.toNat ∧ byte ≠ 0x22 ∧ byte ≠ 0x5c)
    (rest : Bytes) : Token.scanString (bytes ++ rest) =
      (Token.scanString rest).map fun (content, tail) =>
        (bytes ++ content, tail) := by
  induction bytes with
  | nil =>
      rw [List.nil_append]
      cases Token.scanString rest <;> rfl
  | cons byte more ih =>
      obtain ⟨visible, notQuote, notBackslash⟩ := bare byte List.mem_cons_self
      have notControl : ¬ byte < 0x20 := by
        rw [UInt8.lt_iff_toNat_lt]
        exact Nat.not_lt.2 visible
      rw [List.cons_append, Token.scanString.eq_def]
      simp only [if_neg notQuote, if_neg notControl, if_neg notBackslash]
      rw [ih fun other member => bare other (List.mem_cons_of_mem byte member),
        Option.map_map]
      rfl

theorem Escaped.scanString_append {char : Char} {bytes : Bytes}
    (escaped : Escaped char bytes) (rest : Bytes) :
    Token.scanString (bytes ++ rest) =
      (Token.scanString rest).map fun (content, tail) =>
        (bytes ++ content, tail) := by
  cases escaped with
  | short letter isLetter meant =>
      rw [List.cons_append, List.cons_append, List.nil_append,
        Token.scanString.eq_def]
      simp only [isLetter, if_true]
      rfl
  | code high low isHigh isLow meant small =>
      have zero : Token.isHexDigit 0x30 = true := rfl
      simp only [List.cons_append, List.nil_append]
      rw [Token.scanString.eq_def]
      simp only [zero, isHigh, isLow, Bool.and_self, if_true]
      rfl
  | plain bare => exact scanString_plain_append bare rest

/-! ### Reading back -/

private theorem unescape_plain_append
    {bytes : Bytes} (bare : ∀ byte ∈ bytes, byte ≠ 0x5c) (rest : Bytes) :
    unescape (bytes ++ rest) = (unescape rest).map (bytes ++ ·) := by
  induction bytes with
  | nil =>
      rw [List.nil_append]
      cases unescape rest <;> rfl
  | cons byte more ih =>
      have notBackslash := bare byte List.mem_cons_self
      rw [List.cons_append, unescape.eq_4 _ _ (fun _ _ _ _ _ same =>
        absurd same notBackslash) (fun _ _ same => absurd same notBackslash),
        ih fun other member => bare other (List.mem_cons_of_mem byte member),
        Option.map_map]
      rfl

private theorem unescape_code_append
    {a b c d : UInt8} (low : hexValue a b c d < 0xd800) (rest : Bytes) :
    unescape (0x5c :: 0x75 :: a :: b :: c :: d :: rest) =
      (unescape rest).map
        (String.utf8EncodeChar (Char.ofNat (hexValue a b c d)) ++ ·) := by
  rw [unescape.eq_def]
  exact if_pos (.inl low)

theorem Escaped.unescape_append {char : Char} {bytes : Bytes}
    (escaped : Escaped char bytes) (rest : Bytes) :
    unescape (bytes ++ rest) = (unescape rest).map
      (String.utf8EncodeChar char ++ ·) := by
  cases escaped with
  | short letter isLetter meant =>
      have notCode : letter ≠ 117 := by
        intro same
        rw [same] at isLetter
        cases isLetter
      rw [List.cons_append, List.cons_append, List.nil_append,
        unescape.eq_3 letter rest (fun _ _ _ _ _ same => absurd same notCode),
        meant]
      rfl
  | code high low isHigh isLow meant small =>
      simp only [List.cons_append, List.nil_append]
      rw [unescape_code_append (by rw [meant]; omega), meant, Char.ofNat_toNat]
  | plain bare =>
      exact unescape_plain_append (fun byte member => (bare byte member).2.2) rest

/-! ### Whole strings -/

theorem quotedBytes_cons (char : Char) (rest : List Char) :
    Utf8.encodeChars ((char :: rest).flatMap escape) =
      Utf8.encodeChars (escape char) ++ Utf8.encodeChars
        (rest.flatMap escape) := by
  rw [List.flatMap_cons, Utf8.encodeChars_append]

theorem scanString_quotedBytes (text : String) (rest : Bytes) :
    Token.scanString (quotedBytes text ++ 0x22 :: rest) =
      some (quotedBytes text, rest) := by
  unfold quotedBytes
  induction text.toList with
  | nil =>
      change Token.scanString (0x22 :: rest) = some ([], rest)
      rw [Token.scanString.eq_def]
      rfl
  | cons char more ih =>
      rw [quotedBytes_cons, List.append_assoc,
        (escaped_escape char).scanString_append, ih]
      rfl

theorem unescape_quotedBytes (text : String) :
    unescape (quotedBytes text) = some (Utf8.encode text) := by
  unfold quotedBytes Utf8.encode
  induction text.toList with
  | nil => rfl
  | cons char more ih =>
      rw [quotedBytes_cons, (escaped_escape char).unescape_append, ih,
        Utf8.encodeChars_cons]
      rfl

@[simp] theorem decodeString_quotedBytes (text : String) :
    decodeString (quotedBytes text) = some text := by
  rw [decodeString, unescape_quotedBytes, Option.bind_some, Utf8.decode?_encode]

end BoundKey.Json
