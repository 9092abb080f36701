set_option autoImplicit false

/-!
Markers around the generation of a key, and the window that keeps the latest of
them.
-/

namespace BoundKey

inductive Marker where
  | generationStart
  | generationEnd
  deriving DecidableEq, Repr

namespace Marker

def name : Marker → String
  | generationStart => "GENERATE_AT_POP_ASYMMETRIC_KEYPAIR_START"
  | generationEnd => "GENERATE_AT_POP_ASYMMETRIC_KEYPAIR_END"

def all : List Marker :=
  [generationStart, generationEnd]

def ofName? (name : String) : Option Marker :=
  all.find? (·.name == name)

end Marker

/-- The latest of what is recorded, at most as many as the capacity, in the
order of recording. What is recorded may be a marker alone, or one together with
its time and its thread. -/
structure MarkerWindow (α : Type) where
  capacity : Nat
  recorded : List α
  deriving DecidableEq, Repr

namespace MarkerWindow

variable {α : Type}

def empty (capacity : Nat) : MarkerWindow α :=
  ⟨capacity, []⟩

/-- Records an item; a full window drops its oldest one, and a window without
capacity records nothing. -/
def record (window : MarkerWindow α) (item : α) : MarkerWindow α :=
  if window.capacity = 0 then window
  else if window.recorded.length = window.capacity then
    { window with recorded := window.recorded.drop 1 ++ [item] }
  else { window with recorded := window.recorded ++ [item] }

def clear (window : MarkerWindow α) : MarkerWindow α :=
  { window with recorded := [] }

end MarkerWindow

end BoundKey
