import BoundKey.Json.Printer
import BoundKey.Json.Syntax

set_option autoImplicit false

/-!
Records read from JSON. A record is written as an object, in which unknown
members are skipped and no known one comes twice, or as an array that lists the
members in order. A tagged record names its kind in one of its members, or first
in the array, and everything it holds must be a value.
-/

namespace BoundKey.Json

/-- Reads a thing of type `α` from a tree in which at most so many arrays and
objects may still be nested. -/
abbrev Reader (α : Type) := Nat → Tree → Option α

namespace Reader

def text : Reader String
  | _, .string content => decodeString content
  | _, _ => none

/-- Reads an integer between two bounds; fractions and exponents are refused
even if the value is whole. -/
def integer (low high : Int) : Reader Int
  | _, .number literal =>
    match Number.ofLiteral? literal with
    | some (.int value) => if low ≤ value ∧ value ≤ high then some value else none
    | _ => none
  | _, _ => none

def natural : Reader Nat := fun depth tree =>
  (integer 0 0xffffffffffffffff depth tree).map Int.toNat

def signed : Reader Int :=
  integer (-0x8000000000000000) 0x7fffffffffffffff

def list {α : Type} (item : Reader α) : Reader (List α)
  | depth, .array items =>
      if depth = 0 then none else items.mapM (item (depth - 1))
  | _, _ => none

def value : Reader Value :=
  Tree.toValue?

end Reader

structure Record where
  depth : Nat
  members : List (String × Tree)

namespace Record

def find? (record : Record) (name : String) : Option Tree :=
  record.members.lookup name

def required {α : Type} (record : Record) (name : String) (reader : Reader α) :
    Option α :=
  (record.find? name).bind (reader record.depth)

def optional {α : Type} (record : Record) (name : String) (reader : Reader α) :
    Option (Option α) :=
  match record.find? name with
  | none => some none
  | some .null => some none
  | some tree => (reader record.depth tree).map some

def orElse {α : Type} (record : Record) (name : String) (reader : Reader α)
    (default : α) : Option α :=
  match record.find? name with
  | none => some default
  | some tree => reader record.depth tree

end Record

def namedMembers? : List (Bytes × Tree) → Option (List (String × Tree))
  | [] => some []
  | (name, tree) :: rest => do
    let text ← decodeString name
    let others ← namedMembers? rest
    some ((text, tree) :: others)

def knownMembers? (names : List String) (members : List (String × Tree)) :
    Option (List (String × Tree)) :=
  let known := members.filter fun (name, _) => names.contains name
  if (known.map Prod.fst).Nodup then some known else none

def listedMembers? (names : List String) (items : List Tree) :
    Option (List (String × Tree)) :=
  if items.length ≤ names.length then some (names.zip items) else none

def Tree.record? (names : List String) (depth : Nat) (tree : Tree) :
    Option Record :=
  if depth = 0 then none
  else
    match tree with
    | .object members =>
      ((namedMembers? members).bind (knownMembers? names)).map (⟨depth - 1, ·⟩)
    | .array items => (listedMembers? names items).map (⟨depth - 1, ·⟩)
    | _ => none

def Tree.taggedRecord? (tag : String) (names : List String)
    (depth : Nat) (tree : Tree) : Option (String × Record) :=
  if depth = 0 then none
  else
    match tree with
    | .object members => do
      let named ← namedMembers? members
      let tagged := named.filter fun (name, _) => name == tag
      let others := named.filter fun (name, _) => name != tag
      match tagged with
      | [(_, .string content)] =>
        let kind ← decodeString content
        if others.all fun (_, other) => (other.toValue? (depth - 1)).isSome then
          (knownMembers? names others).map fun known => (kind, ⟨depth - 1, known⟩)
        else none
      | _ => none
    | .array (.string content :: items) => do
      let kind ← decodeString content
      if items.all fun item => (item.toValue? (depth - 1)).isSome then
        (listedMembers? names items).map fun listed => (kind, ⟨depth - 1, listed⟩)
      else none
    | _ => none

class Codec (α : Type) where
  toValue : α → Value
  read? : Reader α

instance : Codec Value where
  toValue value := value
  read? := Reader.value

def encode {α : Type} [Codec α] (thing : α) : String :=
  (Codec.toValue thing).render

def decode? {α : Type} [Codec α] (bytes : Bytes) : Option α :=
  (Tree.parse? bytes).bind (Codec.read? maxDepth)

end BoundKey.Json
