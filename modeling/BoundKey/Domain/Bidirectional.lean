import BoundKey.Unicode.Direction

set_option autoImplicit false

/-!
The rule for labels in domain names that hold characters written from right to
left: every label keeps to one direction, and begins and ends with characters
that show it.
-/

namespace BoundKey.Domain

open Unicode (Direction)

def isRightward (code : Nat) : Bool :=
  match Direction.of code with
  | .rightToLeft | .arabicLetter | .arabicNumber => true
  | _ => false

def isShared : Direction → Bool
  | .europeanNumber | .europeanSeparator | .europeanTerminator
  | .commonSeparator | .nonspacingMark | .boundaryNeutral
  | .otherNeutral => true
  | _ => false

def keepsRightToLeft (classes : List Direction) (last : Direction) : Bool :=
  classes.all (fun kind => isShared kind
      || kind == .rightToLeft || kind == .arabicLetter || kind == .arabicNumber)
    && (last == .rightToLeft || last == .arabicLetter || last == .europeanNumber
      || last == .arabicNumber)
    && !(classes.contains .europeanNumber && classes.contains .arabicNumber)

def keepsLeftToRight (classes : List Direction) (last : Direction) : Bool :=
  classes.all (fun kind => isShared kind || kind == .leftToRight)
    && (last == .leftToRight || last == .europeanNumber)

/-- Whether a label keeps the rule; its last character is the last one that is
not a mark. -/
def keepsDirection (label : List Nat) : Bool :=
  let classes := label.map Direction.of
  match classes, classes.reverse.dropWhile (· == .nonspacingMark) with
  | [], _ => true
  | .leftToRight :: _, last :: _ => keepsLeftToRight classes last
  | .rightToLeft :: _, last :: _ | .arabicLetter :: _, last :: _ =>
      keepsRightToLeft classes last
  | _, _ => false

end BoundKey.Domain
