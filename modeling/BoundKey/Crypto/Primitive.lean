import BoundKey.Crypto.Provider
import BoundKey.Rsa.Pkcs1
import BoundKey.Rsa.Pss
import BoundKey.Text.Base64

set_option autoImplicit false

/-!
The SHA-256 hasher and the RSA signers: with a described digest, with the text
taken as it is, and with the probabilistic scheme.
-/

namespace BoundKey

def Hasher.sha256 : Hasher where
  hash message := .ok (Digest.sha256.hash message)
  hashText message := .ok (Base64.encode .url (Digest.sha256.hash message))

def SignerFault.ofRsa (fault : Rsa.Fault) : SignerFault :=
  if fault.concernsKey then .invalidKey fault.message
  else .couldNotSign fault.message

namespace Signer

def answer (valid : Bool) : Except SignerFault Unit :=
  if valid then .ok () else .error .invalidSignature

def pkcs1 (digest : Digest) : Signer where
  sign _ message key :=
    (Rsa.Pkcs1.sign key (Rsa.Pkcs1.digestInfo digest message)).mapError
      SignerFault.ofRsa
  verify message signature key :=
    answer (Rsa.Pkcs1.verify key (Rsa.Pkcs1.digestInfo digest message) signature)

def raw : Signer where
  sign _ message key := (Rsa.Pkcs1.sign key message).mapError SignerFault.ofRsa
  verify message signature key := answer (Rsa.Pkcs1.verify key message signature)

def pss (digest : Digest) : Signer where
  sign tape message key :=
    (Rsa.Pss.sign digest tape key message).mapError SignerFault.ofRsa
  verify message signature key :=
    answer (Rsa.Pss.verify digest key message signature)

end Signer

end BoundKey
