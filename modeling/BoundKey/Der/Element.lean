import BoundKey.Bytes
import BoundKey.Text.Hex

set_option autoImplicit false

/-!
The distinguished encoding of structured data: a tag byte, the length in the
fewest bytes, and the contents. `Element.decode` is strict: it reads one element
that fills the whole input and says where and why an input is none.
-/

namespace BoundKey.Der

abbrev Tag := UInt8

namespace Tag

def boolean : Tag := 0x01

def integer : Tag := 0x02

def bitString : Tag := 0x03

def octetString : Tag := 0x04

def null : Tag := 0x05

def objectIdentifier : Tag := 0x06

def utf8String : Tag := 0x0c

def printableString : Tag := 0x13

def teletexString : Tag := 0x14

def ia5String : Tag := 0x16

def utcTime : Tag := 0x17

def generalizedTime : Tag := 0x18

def sequence : Tag := 0x30

def set : Tag := 0x31

def universal : List (Tag × String) :=
  [(boolean, "BOOLEAN"), (integer, "INTEGER"), (bitString, "BIT STRING"),
    (octetString, "OCTET STRING"), (null, "NULL"),
    (objectIdentifier, "OBJECT IDENTIFIER"), (0x09, "REAL"),
    (0x0a, "ENUMERATED"), (utf8String, "UTF8String"), (0x12, "NumericString"),
    (printableString, "PrintableString"), (teletexString, "TeletexString"),
    (0x15, "VideotexString"), (ia5String, "IA5String"), (utcTime, "UTCTime"),
    (generalizedTime, "GeneralizedTime"), (0x1a, "VisibleString"),
    (0x1e, "BMPString"), (sequence, "SEQUENCE"), (set, "SET")]

def number (tag : Tag) : Nat :=
  tag.toNat % 32

/-- Whether a tag byte can be read: the number is in the byte, and in the
universal class it is a known one. -/
def isKnown (tag : Tag) : Bool :=
  0x40 ≤ tag || (universal.lookup tag).isSome

def name (tag : Tag) : String :=
  match universal.lookup tag with
  | some found => found
  | none =>
    let kind := if tag < 0x80 then "APPLICATION"
      else if tag < 0xc0 then "CONTEXT-SPECIFIC" else "PRIVATE"
    let form := if tag.toNat / 32 % 2 = 0 then "primitive" else "constructed"
    s!"{kind} [{tag.number}] ({form})"

end Tag

inductive Fault where
  /-- Reading went on to `expected` bytes from `position`, and there are
  `actual`. -/
  | incomplete (expected actual position : Nat)
  | indefiniteLength
  | incorrectLength (tag : Tag)
  | lengthOverflow
  | tagNumberInvalid
  | tagUnknown (tag : Tag)
  | trailingData (decoded remaining : Nat)
  deriving DecidableEq, Repr

def Fault.message : Fault → String
  | incomplete expected actual position =>
    s!"ASN.1 DER message is incomplete: expected {expected}, "
      ++ s!"actual {actual} at DER byte {position}"
  | indefiniteLength => "indefinite length disallowed"
  | incorrectLength tag => s!"incorrect length for {tag.name}"
  | lengthOverflow => "integer overflow"
  | tagNumberInvalid => "invalid tag number"
  | tagUnknown tag =>
    "unknown/unsupported ASN.1 DER tag: 0x" ++ String.ofList (Hex.byteDigits tag)
  | trailingData decoded remaining =>
    s!"trailing data at end of DER message: decoded {decoded} bytes, "
      ++ s!"{remaining} bytes remaining at DER byte {decoded}"

structure Element where
  tag : Tag
  contents : Bytes
  deriving DecidableEq, Repr

def lengthBytes (length : Nat) : Bytes :=
  if length < 0x80 then [UInt8.ofNat length]
  else UInt8.ofNat (0x80 + byteLength length) :: Bytes.ofNat length

def maxLength : Nat := Nat.pow 2 28 - 1

/-- The length at the front of some bytes, which stand at `position` in an input
of `total` bytes, and how many bytes it takes. -/
def readLength (tag : Tag) (position total : Nat) :
    Bytes → Except Fault (Nat × Nat)
  | [] => .error (.incomplete (position + 1) total position)
  | first :: rest =>
    if first < 0x80 then .ok (first.toNat, 1)
    else if first = 0x80 then .error .indefiniteLength
    else if first ≤ 0x84 then
      let count := first.toNat - 0x80
      if rest.length < count then .error (.incomplete (total + 1) total total)
      else
        let length := Bytes.toNat (rest.take count)
        if maxLength < length then .error .lengthOverflow
        else if lengthBytes length = first :: rest.take count then
          .ok (length, count + 1)
        else .error (.incorrectLength tag)
    else .error (.incorrectLength tag)

namespace Element

def encode (element : Element) : Bytes :=
  element.tag :: lengthBytes element.contents.length ++ element.contents

def read : Bytes → Except Fault (Element × Bytes)
  | [] => .error (.incomplete 1 0 0)
  | tag :: rest =>
    if Tag.number tag = 31 then .error .tagNumberInvalid
    else if ¬ Tag.isKnown tag then .error (.tagUnknown tag)
    else
      match readLength tag 1 (rest.length + 1) rest with
      | .error fault => .error fault
      | .ok (length, width) =>
        let after := rest.drop width
        if after.length < length then
          .error (.incomplete (1 + width + length) (rest.length + 1) (1 + width))
        else .ok (⟨tag, after.take length⟩, after.drop length)

def decode (bytes : Bytes) : Except Fault Element :=
  match read bytes with
  | .error fault => .error fault
  | .ok (element, []) => .ok element
  | .ok (_, rest) =>
      .error (.trailingData (bytes.length - rest.length) rest.length)

theorem read_length {bytes rest : Bytes} {element : Element}
    (found : read bytes = .ok (element, rest)) :
    rest.length < bytes.length := by
  unfold read at found
  split at found
  · simp at found
  · split at found
    · simp at found
    · split at found
      · simp at found
      · split at found
        · simp at found
        · simp only at found
          split at found
          · simp at found
          · simp only [Except.ok.injEq, Prod.mk.injEq] at found
            rw [← found.2]
            simp only [List.length_drop, List.length_cons]
            omega

def decodeAll (bytes : Bytes) : Option (List Element) :=
  match bytes with
  | [] => some []
  | first :: tail =>
    match _found : read (first :: tail) with
    | .error _ => none
    | .ok (element, rest) => (decodeAll rest).map (element :: ·)
termination_by bytes.length
decreasing_by exact read_length _found

def parts? (tag : Tag) (element : Element) : Option (List Element) :=
  if element.tag = tag then decodeAll element.contents else none

def group (tag : Tag) (elements : List Element) : Element :=
  ⟨tag, elements.flatMap encode⟩

def sequence (elements : List Element) : Element :=
  group Tag.sequence elements

/-- A natural number: the fewest bytes whose top bit is clear. -/
def natural (number : Nat) : Element :=
  ⟨Tag.integer, Bytes.bigEndian (bitLength number / 8 + 1) number⟩

def toNatural? (element : Element) : Option Nat :=
  let number := Bytes.toNat element.contents
  if element = natural number then some number else none

def null : Element :=
  ⟨Tag.null, []⟩

def truth : Element :=
  ⟨Tag.boolean, [0xff]⟩

def octets (bytes : Bytes) : Element :=
  ⟨Tag.octetString, bytes⟩

def bits (bytes : Bytes) : Element :=
  ⟨Tag.bitString, 0 :: bytes⟩

def toBits? (element : Element) : Option Bytes :=
  if element.tag = Tag.bitString then
    match element.contents with
    | 0 :: bytes => some bytes
    | _ => none
  else none

end Element

end BoundKey.Der
