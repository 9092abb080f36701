import BoundKey.Json.Token
import BoundKey.Json.Value
import BoundKey.Text.Utf8

set_option autoImplicit false

/-!
The tree of a JSON text. Tokens are read from left to right by a machine with a
stack of unfinished arrays and objects, so trees of any depth are read.
`Tree.toValue?` gives the value of a tree whose strings are text, whose numbers
are in range and whose depth is limited.
-/

namespace BoundKey.Json

/-- What a JSON text says, its strings and numbers as written. -/
inductive Tree where
  | null
  | bool (value : Bool)
  | number (literal : Bytes)
  | string (content : Bytes)
  | array (items : List Tree)
  | object (members : List (Bytes × Tree))
  deriving Repr

namespace Tree

/-- An array or object that has begun; its parts so far, the last one first. -/
inductive Frame where
  | items (done : List Tree)
  | members (done : List (Bytes × Tree)) (name : Bytes)

inductive Expect where
  | value
  | valueOrEnd
  | name (done : List (Bytes × Tree))
  | nameOrEnd
  | colon (done : List (Bytes × Tree)) (name : Bytes)
  | after (value : Tree)

structure State where
  expect : Expect
  stack : List Frame

def State.begin (stack : List Frame) : Token → Option State
  | .null => some ⟨.after .null, stack⟩
  | .bool value => some ⟨.after (.bool value), stack⟩
  | .number literal => some ⟨.after (.number literal), stack⟩
  | .string content => some ⟨.after (.string content), stack⟩
  | .openBracket => some ⟨.valueOrEnd, .items [] :: stack⟩
  | .openBrace => some ⟨.nameOrEnd, stack⟩
  | _ => none

def State.step (state : State) (token : Token) : Option State :=
  match state.expect with
  | .value => State.begin state.stack token
  | .valueOrEnd =>
    match token, state.stack with
    | .closeBracket, .items done :: outer =>
        some ⟨.after (.array done.reverse), outer⟩
    | _, _ => State.begin state.stack token
  | .nameOrEnd =>
    match token with
    | .string content => some ⟨.colon [] content, state.stack⟩
    | .closeBrace => some ⟨.after (.object []), state.stack⟩
    | _ => none
  | .name done =>
    match token with
    | .string content => some ⟨.colon done content, state.stack⟩
    | _ => none
  | .colon done name =>
    match token with
    | .colon => some ⟨.value, .members done name :: state.stack⟩
    | _ => none
  | .after value =>
    match token, state.stack with
    | .comma, .items done :: outer =>
        some ⟨.value, .items (value :: done) :: outer⟩
    | .closeBracket, .items done :: outer =>
        some ⟨.after (.array (value :: done).reverse), outer⟩
    | .comma, .members done name :: outer =>
        some ⟨.name ((name, value) :: done), outer⟩
    | .closeBrace, .members done name :: outer =>
      some ⟨.after (.object ((name, value) :: done).reverse), outer⟩
    | _, _ => none

def ofTokens? (tokens : List Token) : Option Tree :=
  match tokens.foldlM State.step ⟨.value, []⟩ with
  | some ⟨.after value, []⟩ => some value
  | _ => none

def parse? (bytes : Bytes) : Option Tree :=
  (Token.tokens bytes).bind ofTokens?

end Tree

/-! ### Strings and numbers -/

def hexDigitValue (byte : UInt8) : Nat :=
  if byte ≤ 0x39 then byte.toNat - 0x30
  else if byte ≤ 0x46 then byte.toNat - 0x37
  else byte.toNat - 0x57

def hexValue (a b c d : UInt8) : Nat :=
  ((hexDigitValue a * 16 + hexDigitValue b) * 16 + hexDigitValue c) * 16 +
    hexDigitValue d

/-- The bytes that the content of a string stands for. Of the surrogates only a
leading one followed by a trailing one means a character. -/
def unescape : Bytes → Option Bytes
  | 0x5c :: 0x75 :: a :: b :: c :: d :: rest =>
    let code := hexValue a b c d
    if code < 0xd800 ∨ 0xe000 ≤ code then
      (unescape rest).map (String.utf8EncodeChar (Char.ofNat code) ++ ·)
    else if code < 0xdc00 then
      match rest with
      | 0x5c :: 0x75 :: e :: f :: g :: h :: after =>
        let low := hexValue e f g h
        if 0xdc00 ≤ low ∧ low < 0xe000 then
          let char :=
            Char.ofNat (0x10000 + (code - 0xd800) * 0x400 + (low - 0xdc00))
          (unescape after).map (String.utf8EncodeChar char ++ ·)
        else none
      | _ => none
    else none
  | 0x5c :: letter :: rest =>
    let byte : UInt8 :=
      if letter = 0x62 then 0x08
      else if letter = 0x66 then 0x0c
      else if letter = 0x6e then 0x0a
      else if letter = 0x72 then 0x0d
      else if letter = 0x74 then 0x09
      else letter
    (unescape rest).map (byte :: ·)
  | byte :: rest => (unescape rest).map (byte :: ·)
  | [] => some []

def decodeString (content : Bytes) : Option String :=
  (unescape content).bind Utf8.decode?

def digitsValue (digits : Bytes) : Nat :=
  digits.foldl (fun number digit => number * 10 + (digit.toNat - 48)) 0

def Number.ofDigits (negative : Bool) (digits : Nat) (exponent : Int) : Number :=
  if _more : digits ≠ 0 ∧ digits % 10 = 0 then
    Number.ofDigits negative (digits / 10) (exponent + 1)
  else .decimal negative digits (if digits = 0 then 0 else exponent)
termination_by digits
decreasing_by exact Nat.div_lt_self (Nat.pos_of_ne_zero _more.1) (by decide)

/-- The least magnitude that is out of range for a fraction: half a step above
the largest number with a significand of 53 bits and an exponent of eleven. -/
def magnitudeLimit : Nat := Nat.pow 2 1024 - Nat.pow 2 970

def inRange (digits : Nat) (exponent : Int) : Bool :=
  if digits = 0 then true
  else
    let size : Int := (Nat.toDigits 10 digits).length + exponent
    if size < 309 then true
    else if 309 < size then false
    else if 0 ≤ exponent then digits * Nat.pow 10 exponent.toNat < magnitudeLimit
    else digits < magnitudeLimit * Nat.pow 10 (-exponent).toNat

/-- The number that a literal writes: an integer if it has neither fraction nor
exponent and fits 64 bits, otherwise a fraction if it is in range. -/
def Number.ofLiteral? (literal : Bytes) : Option Number := do
  let parts ← Token.numberParts? literal
  let whole := digitsValue parts.whole
  let plain := parts.fraction.isEmpty && parts.exponent.isEmpty
  if plain && !parts.negative && whole < Nat.pow 2 64 then some (.int whole)
  else if plain && parts.negative && 0 < whole && whole ≤ Nat.pow 2 63 then
    some (.int (-whole))
  else
    let digits := digitsValue (parts.whole ++ parts.fraction)
    let power : Int := digitsValue parts.exponent
    let exponent :=
      (if parts.exponentNegative then -power else power) - parts.fraction.length
    if inRange digits exponent then
      some (Number.ofDigits parts.negative digits exponent) else none

mutual

def Tree.toValue? (depth : Nat) : Tree → Option Value
  | .null => some .null
  | .bool value => some (.bool value)
  | .number literal => (Number.ofLiteral? literal).map .number
  | .string content => (decodeString content).map .string
  | .array items =>
    if depth = 0 then none else (itemValues? (depth - 1) items).map .array
  | .object members =>
    if depth = 0 then none
    else (memberValues? (depth - 1) members).map Value.ofMembers

def itemValues? (depth : Nat) : List Tree → Option (List Value)
  | [] => some []
  | first :: rest => do
    let value ← first.toValue? depth
    let values ← itemValues? depth rest
    some (value :: values)

def memberValues? (depth : Nat) :
    List (Bytes × Tree) → Option (List (String × Value))
  | [] => some []
  | (name, first) :: rest => do
    let text ← decodeString name
    let value ← first.toValue? depth
    let values ← memberValues? depth rest
    some ((text, value) :: values)

end

def maxDepth : Nat := 127

end BoundKey.Json
