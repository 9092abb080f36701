import BoundKey.Crypto.Algorithm
import BoundKey.Crypto.BlockCipher
import BoundKey.Crypto.Primitive

set_option autoImplicit false

/-!
The provider that registers every supported primitive under its name. Signatures
over MD5 and encryption with SHA-1 have names but no primitives.
-/

namespace BoundKey

def thumbprintHasher : String :=
  "sha-256"

def SigningAlgorithm.signer? : SigningAlgorithm → Option Signer
  | md5 => Option.none
  | none => some .raw
  | sha256 => some (.pkcs1 .sha256)
  | sha256Pss => some (.pss .sha256)
  | sha384 => some (.pkcs1 .sha384)
  | sha384Pss => some (.pss .sha384)
  | sha512 => some (.pkcs1 .sha512)
  | sha512Pss => some (.pss .sha512)

def CipherAlgorithm.cipher? : CipherAlgorithm → Option Cipher
  | pkcs1 => some (.rsa .pkcs1)
  | oaepSha1 | oaepSha1Single => none
  | oaepSha256 => some (.rsa (.oaep .sha256))
  | oaepSha384 => some (.rsa (.oaep .sha384))
  | oaepSha512 => some (.rsa (.oaep .sha512))

def CryptoProvider.standard : CryptoProvider where
  hashers := [(thumbprintHasher, .sha256)]
  signers := SigningAlgorithm.all.filterMap fun algorithm =>
    algorithm.signer?.map fun signer => (algorithm.name, signer)
  ciphers := CipherAlgorithm.all.filterMap fun algorithm =>
    algorithm.cipher?.map fun cipher => (algorithm.name, cipher)

end BoundKey
