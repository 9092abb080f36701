import BoundKey.Bytes

set_option autoImplicit false

/-!
Text as bytes. `encode` writes each character in one to four bytes; `decode` is
its strict inverse and says where and how a byte string fails to be text:
overlong forms, surrogates and values above the last code point are refused at
their first bad byte.
-/

namespace BoundKey.Utf8

def encodeChars (chars : List Char) : Bytes :=
  chars.flatMap String.utf8EncodeChar

def encode (text : String) : Bytes :=
  encodeChars text.toList

inductive Fault where
  /-- `length` bytes from `start` on begin no character. -/
  | malformed (start length : Nat)
  /-- The bytes from `start` on are the beginning of a character that the end
  cuts off. -/
  | incomplete (start : Nat)
  deriving DecidableEq, Repr

namespace Fault

def message : Fault → String
  | malformed start length =>
      s!"invalid utf-8 sequence of {length} bytes from index {start}"
  | incomplete start => s!"incomplete utf-8 byte sequence from index {start}"

end Fault

def isContinuation (byte : UInt8) : Bool :=
  0x80 ≤ byte && byte ≤ 0xbf

def payload (byte : UInt8) : Nat :=
  byte.toNat % 64

/-- The bytes that may stand second after a first byte of a three or four byte
character: the bounds keep out overlong forms, surrogates and values above the
last code point. -/
def secondAllowed (first second : UInt8) : Bool :=
  if first = 0xe0 then 0xa0 ≤ second && second ≤ 0xbf
  else if first = 0xed then 0x80 ≤ second && second ≤ 0x9f
  else if first = 0xf0 then 0x90 ≤ second && second ≤ 0xbf
  else if first = 0xf4 then 0x80 ≤ second && second ≤ 0x8f
  else isContinuation second

inductive Front where
  | char (code width : Nat)
  | malformed (length : Nat)
  | incomplete
  deriving DecidableEq, Repr

def front (first : UInt8) (rest : Bytes) : Front :=
  if first < 0x80 then .char first.toNat 1
  else if 0xc2 ≤ first ∧ first ≤ 0xdf then
    match rest with
    | [] => .incomplete
    | second :: _ =>
      if isContinuation second then
        .char ((first.toNat - 0xc0) * 64 + payload second) 2
      else .malformed 1
  else if 0xe0 ≤ first ∧ first ≤ 0xef then
    match rest with
    | [] => .incomplete
    | second :: after =>
      if secondAllowed first second then
        match after with
        | [] => .incomplete
        | third :: _ =>
          if isContinuation third then
            .char
              (((first.toNat - 0xe0) * 64 + payload second) * 64 +
                payload third) 3
          else .malformed 2
      else .malformed 1
  else if 0xf0 ≤ first ∧ first ≤ 0xf4 then
    match rest with
    | [] => .incomplete
    | second :: after =>
      if secondAllowed first second then
        match after with
        | [] => .incomplete
        | third :: later =>
          if isContinuation third then
            match later with
            | [] => .incomplete
            | fourth :: _ =>
              if isContinuation fourth then
                .char
                  ((((first.toNat - 0xf0) * 64 + payload second) * 64 +
                    payload third) * 64 + payload fourth) 4
              else .malformed 3
          else .malformed 2
      else .malformed 1
  else .malformed 1

def decodeFrom (start : Nat) : Bytes → Except Fault (List Char)
  | [] => .ok []
  | first :: rest =>
    match front first rest with
    | .char code width =>
      match decodeFrom (start + width) (rest.drop (width - 1)) with
      | .ok chars => .ok (Char.ofNat code :: chars)
      | .error fault => .error fault
    | .malformed length => .error (.malformed start length)
    | .incomplete => .error (.incomplete start)
termination_by bytes => bytes.length
decreasing_by
  simp only [List.length_drop, List.length_cons]
  omega

def decode (bytes : Bytes) : Except Fault String :=
  (decodeFrom 0 bytes).map String.ofList

def decode? (bytes : Bytes) : Option String :=
  (decode bytes).toOption

end BoundKey.Utf8
