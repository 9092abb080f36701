import BoundKey.Crypto.Provider
import BoundKey.Text.Utf8

set_option autoImplicit false

/-!
Primitives that always give the same answer, whatever they are asked. A provider
can register them where no real primitive is wanted.
-/

namespace BoundKey

def Hasher.constant (answer : Except HasherFault Bytes) : Hasher where
  hash _ := answer
  hashText _ := do
    match Utf8.decode? (← answer) with
    | some text => .ok text
    | none => .error .couldNotHash

/-- A signer with one signature, which is valid for every message and is the
only valid one. -/
def Signer.constant (answer : Except SignerFault Bytes) : Signer where
  sign _ _ _ := answer
  verify _ signature _ := do
    if signature = (← answer) then .ok () else .error .invalidSignature

def Cipher.constant (answer : Except CipherFault Bytes) : Cipher where
  encrypt _ _ _ _ := answer
  decrypt _ _ _ := answer

end BoundKey
