import BoundKey.Crypto.Fault
import BoundKey.Rsa.Key
import BoundKey.Tape

set_option autoImplicit false

/-!
Hashers, signers and ciphers as interfaces, and the provider that finds them by
name. Whoever uses them relies on nothing but the interface, so a provider may
hold primitives of any kind.
-/

namespace BoundKey

/-- Parameters of an encryption: those of OAEP, with or without a label. The
digests are fixed by the name of the transformation. -/
structure CipherParameters where
  label : Option String
  deriving DecidableEq, Repr

structure Hasher where
  hash : Bytes → Except HasherFault Bytes
  hashText : Bytes → Except HasherFault String

structure Signer where
  sign : Tape → Bytes → Rsa.PrivateKey → Except SignerFault Bytes
  /-- Checks a signature, the second byte string, of a message, the first. -/
  verify : Bytes → Bytes → Rsa.PublicKey → Except SignerFault Unit

structure Cipher where
  encrypt : Tape → Bytes → Rsa.PublicKey → Option CipherParameters →
    Except CipherFault Bytes
  decrypt : Bytes → Rsa.PrivateKey → Option CipherParameters →
    Except CipherFault Bytes

structure CryptoProvider where
  hashers : List (String × Hasher)
  signers : List (String × Signer)
  ciphers : List (String × Cipher)

namespace CryptoProvider

def hasher (provider : CryptoProvider) (name : String) :
    Except ProviderFault Hasher :=
  match provider.hashers.lookup name with
  | some found => .ok found
  | none => .error (.missingHasher name)

def signer (provider : CryptoProvider) (name : String) :
    Except ProviderFault Signer :=
  match provider.signers.lookup name with
  | some found => .ok found
  | none => .error (.missingSigner name)

def cipher (provider : CryptoProvider) (name : String) :
    Except ProviderFault Cipher :=
  match provider.ciphers.lookup name with
  | some found => .ok found
  | none => .error (.missingCipher name)

end CryptoProvider

end BoundKey
