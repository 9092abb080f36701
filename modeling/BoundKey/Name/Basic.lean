import BoundKey.Der.Identifier

set_option autoImplicit false

/-!
Distinguished names: a sequence of parts, each a set of attributes. A set is
kept in the order of its members' encodings and holds no member twice.
-/

namespace BoundKey

open Der (Element Identifier)

structure Attribute where
  kind : Identifier
  value : Element
  deriving DecidableEq, Repr

def Attribute.toElement (item : Attribute) : Element :=
  .sequence [item.kind.toElement, item.value]

def Attribute.ofElement? (element : Element) : Option Attribute := do
  match ← element.parts? Der.Tag.sequence with
  | [kind, value] => some ⟨← Identifier.ofElement? kind, value⟩
  | _ => none

/-- A distinguished name, its parts in the order of their encoding. -/
structure DistinguishedName where
  parts : List (List Attribute)
  deriving DecidableEq, Repr

namespace DistinguishedName

def toElement (name : DistinguishedName) : Element :=
  .sequence (name.parts.map fun part =>
    .group Der.Tag.set (part.map Attribute.toElement))

def ofElement? (element : Element) : Option DistinguishedName := do
  let sets ← element.parts? Der.Tag.sequence
  let parts ← sets.mapM fun part => do
    let members ← part.parts? Der.Tag.set
    members.mapM Attribute.ofElement?
  some ⟨parts⟩

def before (left right : Attribute) : Bool :=
  decide (left.toElement.encode ≤ right.toElement.encode)

def ordered? (members : List Attribute) : Option (List Attribute) :=
  if members.Nodup then some (members.mergeSort before) else none

end DistinguishedName

end BoundKey
