import BoundKey.Jwk
import BoundKey.Program
import BoundKey.Store.Entry

set_option autoImplicit false

/-!
The calls on a key store. A store holds at most one entry; a generation puts a
new one in its place.
-/

namespace BoundKey

inductive StoreCall where
  | isPresent
  | hasThumbprint (thumbprint : Bytes)
  | generate (parameters : GenerationParameters)
  | entry
  | creationDate
  | certificates
  | clear
  deriving DecidableEq, Repr

abbrev StoreCall.Answer : StoreCall → Type
  | isPresent | hasThumbprint _ | clear => Bool
  | generate _ | entry => Except StoreFault KeyEntry
  | creationDate => Except StoreFault (Option Int)
  | certificates => Except StoreFault (List Certificate)

abbrev StoreInterface : Interface :=
  ⟨StoreCall, StoreCall.Answer⟩

def StoreCall.perform (request : StoreCall) :
    Program StoreInterface request.Answer :=
  Program.perform StoreInterface request

def KeyEntry.hasThumbprint (entry : KeyEntry) (thumbprint : Bytes) : Bool :=
  match entry.publicKey.thumbprint with
  | .ok computed => Utf8.encode computed == thumbprint
  | .error _ => false

end BoundKey
