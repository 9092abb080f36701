import BoundKey.Domain.Basic
import BoundKey.Url.Encoding

set_option autoImplicit false

/-!
The host of a URL: a name or an address. In special URLs a name is a domain
name, and one whose last label is a number must be an address of four bytes; in
other URLs it is any text without certain characters.
-/

namespace BoundKey.Url

inductive Fault where
  | emptyHost
  | invalidDomain
  | invalidPort
  | invalidShortAddress
  | invalidLongAddress
  | invalidCharacter
  | missingScheme
  deriving DecidableEq, Repr

def Fault.message : Fault → String
  | emptyHost => "empty host"
  | invalidDomain => "invalid international domain name"
  | invalidPort => "invalid port number"
  | invalidShortAddress => "invalid IPv4 address"
  | invalidLongAddress => "invalid IPv6 address"
  | invalidCharacter => "invalid domain character"
  | missingScheme => "relative URL without a base"

inductive Host where
  | name (text : List Char)
  | short (address : Nat)
  | long (groups : List Nat)
  deriving DecidableEq, Repr

/-! ### Addresses of four bytes -/

def digitsIn? (base : Nat) (digits : List Char) : Option Nat :=
  digits.foldlM (fun number digit => do
    let value ← Hex.value? digit
    if value < base then some (number * base + value) else none) 0

def addressNumber? : List Char → Option Nat
  | [] => none
  | '0' :: 'x' :: digits | '0' :: 'X' :: digits => digitsIn? 16 digits
  | '0' :: digit :: digits => digitsIn? 8 (digit :: digits)
  | digits => digitsIn? 10 digits

/-- The parts of a text between full stops; an empty last one does not count. -/
def addressParts (text : List Char) : List (List Char) :=
  let parts := Text.pieces '.' text
  if 1 < parts.length ∧ parts.getLast? = some [] then parts.dropLast else parts

/-- Whether a name ends in a number, so that it must be an address. -/
def endsInNumber (text : List Char) : Bool :=
  match (addressParts text).getLast? with
  | some [] => false
  | some last => last.all Char.isDigit || (addressNumber? last).isSome
  | none => false

/-- The address of a text: one to four numbers, of which the last one fills the
bytes that are left. -/
def shortAddress? (text : List Char) : Option Nat := do
  let numbers ← (addressParts text).mapM addressNumber?
  let last ← numbers.getLast?
  let leading := numbers.dropLast
  if leading.length < 4 ∧ leading.all (· < 256) ∧
    last < Nat.pow 256 (4 - leading.length) then
    some (leading.zipIdx.foldl
      (fun sum (number, index) => sum + number * Nat.pow 256 (3 - index)) last)
  else none

def shortText (address : Nat) : List Char :=
  Text.joined '.' ([3, 2, 1, 0].map fun place =>
    Decimal.digits (address / Nat.pow 256 place % 256))

/-! ### Addresses of sixteen bytes -/

def group? (digits : List Char) : Option Nat :=
  if digits.isEmpty ∨ 4 < digits.length then none else digitsIn? 16 digits

def byte? (digits : List Char) : Option Nat :=
  if digits.isEmpty ∨ 3 < digits.length ∨
    (digits.head? = some '0' ∧ 1 < digits.length) then none
  else
    match digitsIn? 10 digits with
    | some value => if value < 256 then some value else none
    | none => none

def dottedGroups? (text : List Char) : Option (List Nat) :=
  match (Text.pieces '.' text).mapM byte? with
  | some [a, b, c, d] => some [a * 256 + b, c * 256 + d]
  | _ => none

def groups? (isEnd : Bool) (text : List Char) : Option (List Nat) :=
  if text.isEmpty then some []
  else do
    let parts := Text.pieces ':' text
    let last ← parts.getLast?
    let leading ← parts.dropLast.mapM group?
    if isEnd ∧ last.contains '.' then some (leading ++ (← dottedGroups? last))
    else some (leading ++ [← group? last])

def splitAtGap : List Char → Option (List Char × List Char)
  | ':' :: ':' :: rest => some ([], rest)
  | char :: rest =>
      (splitAtGap rest).map fun (before, after) => (char :: before, after)
  | [] => none

/-- The address of a text: eight numbers, or fewer with a gap that zeros
fill. -/
def longAddress? (text : List Char) : Option (List Nat) :=
  match splitAtGap text with
  | none => do
    let groups ← groups? true text
    if groups.length = 8 then some groups else none
  | some (before, after) => do
    let leading ← groups? false before
    let trailing ← groups? true after
    let count := leading.length + trailing.length
    if count < 8 then some (leading ++ List.replicate (8 - count) 0 ++ trailing)
    else none

def zeroRuns : List Nat → List Nat
  | [] => []
  | group :: rest =>
    let runs := zeroRuns rest
    (if group = 0 then runs.headD 0 + 1 else 0) :: runs

def groupsText (groups : List Nat) : List Char :=
  Text.joined ':' (groups.map fun group => Nat.toDigits 16 group)

/-- The text of an address: the first of the longest runs of two or more zeros
becomes a gap. -/
def longText (groups : List Nat) : List Char :=
  let runs := zeroRuns groups
  let longest := runs.foldl max 0
  if longest < 2 then groupsText groups
  else
    let start := runs.idxOf longest
    groupsText (groups.take start)
      ++ ':' :: ':' :: groupsText (groups.drop (start + longest))

/-! ### Hosts -/

def Host.text : Host → List Char
  | name text => text
  | short address => shortText address
  | long groups => '[' :: longText groups ++ [']']

def bracketed (text : List Char) : Except Fault Host :=
  match text.getLast? with
  | some ']' =>
    match longAddress? ((text.drop 1).dropLast) with
    | some groups => .ok (.long groups)
    | none => .error .invalidLongAddress
  | _ => .error .invalidLongAddress

def Host.ofSpecial (text : List Char) : Except Fault Host :=
  if text.head? = some '[' then bracketed text
  else
    match (Utf8.decode? (decodeBytes (Utf8.encodeChars text))).bind
      fun decoded => Domain.ofText? decoded.toList with
    | none => .error .invalidDomain
    | some [] => .error .emptyHost
    | some domain =>
      if endsInNumber domain then
        match shortAddress? domain with
        | some address => .ok (.short address)
        | none => .error .invalidShortAddress
      else .ok (.name domain)

def isForbidden (char : Char) : Bool :=
  [0, 9, 10, 13].contains char.toNat || " #/:<>?@[\\]^|".toList.contains char

def Host.ofOther (text : List Char) : Except Fault Host :=
  if text.head? = some '[' then bracketed text
  else if text.any isForbidden then .error .invalidCharacter
  else .ok (.name (encode .opaquePath text))

end BoundKey.Url
