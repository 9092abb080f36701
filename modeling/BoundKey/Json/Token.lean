import BoundKey.Bytes

set_option autoImplicit false

/-!
JSON text cut into tokens. A string keeps the bytes between its quotes as they
stand, and a number its literal, so that a token says what was written; what it
means is decided where it is used.
-/

namespace BoundKey.Json

inductive Token where
  | openBracket
  | closeBracket
  | openBrace
  | closeBrace
  | comma
  | colon
  | null
  | bool (value : Bool)
  | number (literal : Bytes)
  | string (content : Bytes)
  deriving DecidableEq, Repr

namespace Token

def isBlank (byte : UInt8) : Bool :=
  byte == 0x20 || byte == 0x09 || byte == 0x0a || byte == 0x0d

def punctuation? (byte : UInt8) : Option Token :=
  if byte = 0x5b then some .openBracket
  else if byte = 0x5d then some .closeBracket
  else if byte = 0x7b then some .openBrace
  else if byte = 0x7d then some .closeBrace
  else if byte = 0x2c then some .comma
  else if byte = 0x3a then some .colon
  else none

def isDigit (byte : UInt8) : Bool :=
  0x30 ≤ byte && byte ≤ 0x39

def isHexDigit (byte : UInt8) : Bool :=
  isDigit byte || (0x41 ≤ byte && byte ≤ 0x46) || (0x61 ≤ byte && byte ≤ 0x66)

def isNumberByte (byte : UInt8) : Bool :=
  isDigit byte || byte == 0x2b || byte == 0x2d || byte == 0x2e
    || byte == 0x45 || byte == 0x65

def isShortEscape (byte : UInt8) : Bool :=
  byte == 0x22 || byte == 0x5c || byte == 0x2f || byte == 0x62
    || byte == 0x66 || byte == 0x6e
    || byte == 0x72 || byte == 0x74

/-- The content of a string after its opening quote, and what follows its
closing quote. A backslash must be followed by a letter of its own or by `u` and
four hexadecimal digits, and control characters must not stand in a string. -/
def scanString : Bytes → Option (Bytes × Bytes)
  | [] => none
  | byte :: rest =>
    if byte = 0x22 then some ([], rest)
    else if byte < 0x20 then none
    else if byte = 0x5c then
      match rest with
      | [] => none
      | letter :: after =>
        if isShortEscape letter then
          (scanString after).map fun (content, tail) =>
            (byte :: letter :: content, tail)
        else if letter = 0x75 then
          match after with
          | a :: b :: c :: d :: later =>
            if isHexDigit a && isHexDigit b && isHexDigit c && isHexDigit d then
              (scanString later).map fun (content, tail) =>
                (byte :: letter :: a :: b :: c :: d :: content, tail)
            else none
          | _ => none
        else none
    else (scanString rest).map fun (content, tail) => (byte :: content, tail)

theorem scanString_length {bytes content tail : Bytes}
    (found : scanString bytes = some (content, tail)) :
    tail.length < bytes.length := by
  fun_induction scanString bytes generalizing content tail with
  | case1 | case3 | case4 | case7 | case8 | case9 => simp at found
  | case2 => simp_all
  | case5 _ _ letter after _ shorter =>
    obtain ⟨inner, scanned, same⟩ := Option.map_eq_some_iff.1 found
    cases same
    have bound := shorter scanned
    simp only [List.length_cons]
    omega
  | case6 _ _ _ _ _ _ _ later _ shorter =>
    obtain ⟨inner, scanned, same⟩ := Option.map_eq_some_iff.1 found
    cases same
    have bound := shorter scanned
    simp only [List.length_cons]
    omega
  | case10 _ _ _ _ _ shorter =>
    obtain ⟨inner, scanned, same⟩ := Option.map_eq_some_iff.1 found
    cases same
    have bound := shorter scanned
    simp only [List.length_cons]
    omega

def digits? (bytes : Bytes) : Option (Bytes × Bytes) :=
  let run := bytes.takeWhile isDigit
  if run.isEmpty then none else some (run, bytes.dropWhile isDigit)

structure NumberParts where
  negative : Bool
  whole : Bytes
  fraction : Bytes
  exponentNegative : Bool
  exponent : Bytes
  deriving DecidableEq, Repr

def exponentParts? (bytes : Bytes) : Option (Bool × Bytes) := do
  let (negative, unsigned) := match bytes with
    | 0x2d :: rest => (true, rest)
    | 0x2b :: rest => (false, rest)
    | rest => (false, rest)
  let (run, rest) ← digits? unsigned
  if rest.isEmpty then some (negative, run) else none

def tailParts? (bytes : Bytes) : Option (Bool × Bytes) :=
  match bytes with
  | [] => some (false, [])
  | letter :: rest =>
      if letter = 0x65 ∨ letter = 0x45 then exponentParts? rest else none

/-- The parts of a literal, if it is a number: no leading zero before another
digit, a digit after a point, and a digit in an exponent. -/
def numberParts? (literal : Bytes) : Option NumberParts := do
  let (negative, unsigned) := match literal with
    | 0x2d :: rest => (true, rest)
    | rest => (false, rest)
  let (whole, rest) ← digits? unsigned
  if whole.head? = some 0x30 ∧ whole.length ≠ 1 then none
  else
    match rest with
    | 0x2e :: afterPoint => do
      let (fraction, after) ← digits? afterPoint
      let (exponentNegative, exponent) ← tailParts? after
      some ⟨negative, whole, fraction, exponentNegative, exponent⟩
    | after => do
      let (exponentNegative, exponent) ← tailParts? after
      some ⟨negative, whole, [], exponentNegative, exponent⟩

def word? (bytes : Bytes) : Option (Token × Bytes) :=
  match bytes with
  | 0x6e :: 0x75 :: 0x6c :: 0x6c :: rest => some (.null, rest)
  | 0x74 :: 0x72 :: 0x75 :: 0x65 :: rest => some (.bool true, rest)
  | 0x66 :: 0x61 :: 0x6c :: 0x73 :: 0x65 :: rest => some (.bool false, rest)
  | _ => none

theorem word?_length {bytes rest : Bytes} {token : Token}
    (found : word? bytes = some (token, rest)) :
    rest.length < bytes.length := by
  unfold word? at found
  split at found <;> simp_all only [Option.some.injEq, Prod.mk.injEq,
    List.length_cons, reduceCtorEq] <;> omega

def tokens (bytes : Bytes) : Option (List Token) :=
  match bytes with
  | [] => some []
  | byte :: rest =>
    if isBlank byte then tokens rest
    else
      match punctuation? byte with
      | some token => (tokens rest).map (token :: ·)
      | none =>
        if byte = 0x22 then
          match _found : scanString rest with
          | some (content, after) => (tokens after).map (.string content :: ·)
          | none => none
        else if _isNumber : isNumberByte byte then
          let literal := (byte :: rest).takeWhile isNumberByte
          if (numberParts? literal).isSome then
            (tokens ((byte :: rest).dropWhile isNumberByte)).map
              (.number literal :: ·)
          else none
        else
          match _found : word? (byte :: rest) with
          | some (token, after) => (tokens after).map (token :: ·)
          | none => none
termination_by bytes.length
decreasing_by
  · simp
  · simp
  · have shorter := scanString_length _found
    simp only [List.length_cons]
    omega
  · have shorter := (List.dropWhile_sublist (l := rest) isNumberByte).length_le
    simp only [List.dropWhile_cons, _isNumber, if_true, List.length_cons]
    omega
  · exact word?_length _found

end Token

end BoundKey.Json
