import BoundKey.Der.Element
import BoundKey.Text.Decimal

set_option autoImplicit false

/-!
Object identifiers: numbers separated by dots, the first two packed into one,
each in base 128.
-/

namespace BoundKey.Der

structure Identifier where
  arcs : List Nat
  deriving DecidableEq, Repr

namespace Identifier

def base128 (number : Nat) : Bytes :=
  go (number / 128) ++ [UInt8.ofNat (number % 128)]
where
  go (number : Nat) : Bytes :=
    if number = 0 then []
    else go (number / 128) ++ [UInt8.ofNat (128 + number % 128)]
  termination_by number

def contents (identifier : Identifier) : Bytes :=
  match identifier.arcs with
  | first :: second :: rest =>
      base128 (first * 40 + second) ++ rest.flatMap base128
  | _ => []

def toElement (identifier : Identifier) : Element :=
  ⟨Tag.objectIdentifier, identifier.contents⟩

/-- The numbers that digits in base 128 write; `partly` is what the digits of an
unfinished number have come to. -/
def numbers (partly : Nat) : Bytes → List Nat
  | [] => []
  | byte :: rest =>
    if byte < 0x80 then (partly * 128 + byte.toNat) :: numbers 0 rest
    else numbers (partly * 128 + (byte.toNat - 0x80)) rest

def ofElement? (element : Element) : Option Identifier :=
  if element.tag = Tag.objectIdentifier then
    match numbers 0 element.contents with
    | [] => none
    | first :: rest =>
      let top := min (first / 40) 2
      some ⟨top :: (first - 40 * top) :: rest⟩
  else none

def toText (identifier : Identifier) : String :=
  ".".intercalate (identifier.arcs.map fun arc =>
    String.ofList (Decimal.digits arc))

def maxArc : Nat := Nat.pow 2 32 - 1

def maxContents : Nat := 39

/-- The numbers of a text; between two dots no digits count as zero. -/
def arcsOf (partly : Nat) : List Char → Option (List Nat)
  | [] => some [partly]
  | '.' :: [] => none
  | '.' :: rest => (arcsOf 0 rest).map (partly :: ·)
  | char :: rest =>
    if char.isDigit then
      let number := partly * 10 + (char.toNat - 48)
      if maxArc < number then none else arcsOf number rest
    else none

/-- The identifier of a text: at least three numbers, the first at most two, the
second below forty. -/
def ofText? (text : String) : Option Identifier :=
  match text.toList with
  | [] => none
  | first :: _ =>
    if first.isDigit then
      match arcsOf 0 text.toList with
      | some (a :: b :: c :: rest) =>
        let identifier : Identifier := ⟨a :: b :: c :: rest⟩
        if a ≤ 2 ∧ b < 40 ∧ identifier.contents.length ≤ maxContents then
          some identifier else none
      | _ => none
    else none

end Identifier

end BoundKey.Der
