import BoundKey.Name.AttributeType
import BoundKey.Name.Basic
import BoundKey.Text.Utf8

set_option autoImplicit false

/-!
Distinguished names as text. Parts are separated by commas, the last part of the
encoding first, and the attributes of a part by plus signs; a backslash takes
the next character or two hexadecimal digits as they are, and a number sign
introduces the bytes of an encoded value.
-/

namespace BoundKey.DistinguishedName

open Der (Element Identifier Tag)

inductive Fault where
  /-- An attribute without equals sign, a bad escape, or digits that are not
  hexadecimal. -/
  | failed
  | identifierMalformed
  | duplicate
  | value (cause : Der.Fault)
  deriving DecidableEq, Repr

def Fault.message : Fault → String
  | failed => "operation failed"
  | identifierMalformed => "malformed OID"
  | duplicate => "SET OF contains duplicate"
  | value cause => cause.message

/-! ### Reading -/

/-- Cuts a text at a separator. A separator behind a backslash does not count,
unless that backslash stands behind another one; `last` and `lastButOne` are the
two characters before. -/
def cut (separator : Char) (lastButOne last : Option Char) :
    List Char → List (List Char)
  | [] => [[]]
  | char :: rest =>
    let pieces := cut separator last (some char) rest
    if char = separator ∧ (last ≠ some '\\' ∨ lastButOne = some '\\') then
      [] :: pieces
    else
      match pieces with
      | [] => [[char]]
      | first :: others => (char :: first) :: others

def isEscapable (byte : UInt8) : Bool :=
  [0x20, 0x22, 0x23, 0x3d, 0x5c, 0x2b, 0x2c, 0x3b, 0x3c, 0x3e].contains byte

def hexDigit? (byte : UInt8) : Option Nat :=
  Hex.value? (Char.ofNat byte.toNat)

/-- The bytes of a value with its escapes undone. An escape that the end cuts
off is dropped. -/
def unescape : Bytes → Option Bytes
  | [] => some []
  | 0x5c :: [] => some []
  | 0x5c :: first :: rest =>
    match hexDigit? first with
    | some high =>
      match rest with
      | [] => some []
      | second :: after => do
        let low ← hexDigit? second
        let bytes ← unescape after
        some (UInt8.ofNat (high * 16 + low) :: bytes)
    | none => if isEscapable first then (unescape rest).map (first :: ·) else none
  | byte :: rest => (unescape rest).map (byte :: ·)

def valueTag (kind : Identifier) : Tag :=
  if kind = AttributeType.country ∨ kind = AttributeType.serialNumber then
    Tag.printableString
  else if kind = AttributeType.domainComponent then Tag.ia5String
  else Tag.utf8String

def readValue (kind : Identifier) : List Char → Except Fault Element
  | '#' :: digits =>
    match Hex.decodeChars digits with
    | none => .error .failed
    | some bytes => (Element.decode bytes).mapError .value
  | text =>
    match unescape (Utf8.encodeChars text) with
    | none => .error .failed
    | some bytes => .ok ⟨valueTag kind, bytes⟩

def readAttribute (text : List Char) : Except Fault Attribute :=
  match text.dropWhile (· ≠ '=') with
  | [] => .error .failed
  | _ :: value =>
    let key := String.ofList (text.takeWhile (· ≠ '='))
    match (AttributeType.ofName? key).orElse fun _ => Identifier.ofText? key with
    | none => .error .identifierMalformed
    | some kind => (readValue kind value).map (⟨kind, ·⟩)

def readPart (text : List Char) : Except Fault (List Attribute) := do
  let members ← (cut '+' none none text).mapM readAttribute
  match ordered? members with
  | some part => .ok part
  | none => .error .duplicate

def ofText (text : String) : Except Fault DistinguishedName := do
  let parts ← (cut ',' none none text.toList).mapM readPart
  .ok ⟨parts.reverse⟩

/-! ### Writing -/

def isPrintable (byte : UInt8) : Bool :=
  let char := Char.ofNat byte.toNat
  char.isAlphanum || " '()+,-./:=?".toList.contains char

/-- The text of a value, if it is a valid one of a string type; of the older
types only characters below 128 are read. -/
def valueText? (value : Element) : Option String :=
  if value.tag = Tag.utf8String then Utf8.decode? value.contents
  else if value.tag = Tag.ia5String ∨ value.tag = Tag.teletexString then
    if value.contents.all (· < 0x80) then Utf8.decode? value.contents else none
  else if value.tag = Tag.printableString then
    if value.contents.all isPrintable then Utf8.decode? value.contents else none
  else none

def escapeInner (char : Char) : List Char :=
  if ['"', '+', ',', ';', '<', '>', '\\'].contains char then ['\\', char]
  else if char.toNat < 0x20 ∨ char.toNat = 0x7f then
    '\\' :: Hex.byteDigits (UInt8.ofNat char.toNat)
  else [char]

def escapeTail : List Char → List Char
  | [] => []
  | [' '] => ['\\', ' ']
  | char :: rest => escapeInner char ++ escapeTail rest

def escapeValue : List Char → List Char
  | ' ' :: rest => '\\' :: ' ' :: escapeTail rest
  | '#' :: rest => '\\' :: '#' :: escapeTail rest
  | text => escapeTail text

def attributeText (item : Attribute) : List Char :=
  match AttributeType.shortName? item.kind, valueText? item.value with
  | some name, some text => name.toList ++ '=' :: escapeValue text.toList
  | _, _ =>
    item.kind.toText.toList ++ '=' :: '#' :: (Hex.encode item.value.encode).toList

def toText (name : DistinguishedName) : String :=
  let parts := name.parts.reverse.map fun part =>
    List.intercalate ['+'] (part.map attributeText)
  String.ofList (List.intercalate [','] parts)

end BoundKey.DistinguishedName
