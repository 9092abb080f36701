set_option autoImplicit false

/-!
Cutting a list at every occurrence of a separator. There is always one piece
more than there are separators.
-/

namespace BoundKey.Text

def pieces {α : Type} [DecidableEq α] (separator : α) : List α → List (List α)
  | [] => [[]]
  | item :: rest =>
    if item = separator then [] :: pieces separator rest
    else
      match pieces separator rest with
      | [] => [[item]]
      | first :: others => (item :: first) :: others

def joined {α : Type} (separator : α) : List (List α) → List α
  | [] => []
  | [only] => only
  | first :: rest => first ++ separator :: joined separator rest

end BoundKey.Text
