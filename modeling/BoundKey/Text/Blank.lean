set_option autoImplicit false

/-!
White space and trimming. `isBlank` holds of the twenty-five code points with
the property White_Space; `trim` removes a class of characters from both ends of
a text and nothing in between.
-/

namespace BoundKey.Text

def isBlank (char : Char) : Bool :=
  let code := char.toNat
  (9 ≤ code && code ≤ 13) || code == 0x20 || code == 0x85 || code == 0xa0
    || code == 0x1680 || (0x2000 ≤ code && code ≤ 0x200a)
    || code == 0x2028 || code == 0x2029 || code == 0x202f
    || code == 0x205f || code == 0x3000

def trimChars (drops : Char → Bool) (chars : List Char) : List Char :=
  (((chars.dropWhile drops).reverse).dropWhile drops).reverse

def trim (text : String) : String :=
  String.ofList (trimChars isBlank text.toList)

/-- The part before the first occurrence of a pattern and the part after it. -/
def splitOnce (pattern : List Char) : List Char → Option (List Char × List Char)
  | [] => if pattern.isEmpty then some ([], []) else none
  | char :: rest =>
    if pattern.isPrefixOf (char :: rest) then
      some ([], (char :: rest).drop pattern.length)
    else (splitOnce pattern rest).map fun (before, after) =>
      (char :: before, after)

end BoundKey.Text
