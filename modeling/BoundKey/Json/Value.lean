set_option autoImplicit false

/-!
JSON values. An object is a list of members; `Value.ofMembers` brings members
into the order of their names and lets the last of several members of one name
win.
-/

namespace BoundKey.Json

/-- A number: an integer of 64 bits, or a decimal fraction in scientific
form. -/
inductive Number where
  | int (value : Int)
  | decimal (negative : Bool) (digits : Nat) (exponent : Int)
  deriving DecidableEq, Repr

inductive Value where
  | null
  | bool (value : Bool)
  | number (value : Number)
  | string (value : String)
  | array (items : List Value)
  | object (members : List (String × Value))
  deriving Repr

namespace Value

def int (value : Int) : Value :=
  .number (.int value)

def insert (name : String) (value : Value) :
    List (String × Value) → List (String × Value)
  | [] => [(name, value)]
  | (other, present) :: rest =>
    if name = other then (name, value) :: rest
    else if name < other then (name, value) :: (other, present) :: rest
    else (other, present) :: insert name value rest

/-- The object of some members, ordered by name; of members with one name the
last counts. -/
def ofMembers (members : List (String × Value)) : Value :=
  .object (members.foldl
    (fun ordered (name, value) => insert name value ordered) [])

def ofPresent (members : List (String × Option Value)) : Value :=
  .object (members.filterMap fun (name, value) =>
    value.map fun present => (name, present))

end Value

end BoundKey.Json
