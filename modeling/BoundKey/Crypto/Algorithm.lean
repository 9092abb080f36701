import BoundKey.Crypto.Provider

set_option autoImplicit false

/-!
The names of signature algorithms and of cipher transformations. Every member of
a type has one name, and a name is read only if it is exactly one of these.
-/

namespace BoundKey

inductive SigningAlgorithm where
  | md5
  | none
  | sha256
  | sha256Pss
  | sha384
  | sha384Pss
  | sha512
  | sha512Pss
  deriving DecidableEq, Repr

namespace SigningAlgorithm

def name : SigningAlgorithm → String
  | md5 => "MD5withRSA"
  | none => "NONEwithRSA"
  | sha256 => "SHA256withRSA"
  | sha256Pss => "SHA256withRSA/PSS"
  | sha384 => "SHA384withRSA"
  | sha384Pss => "SHA384withRSA/PSS"
  | sha512 => "SHA512withRSA"
  | sha512Pss => "SHA512withRSA/PSS"

def all : List SigningAlgorithm :=
  [md5, none, sha256, sha256Pss, sha384, sha384Pss, sha512, sha512Pss]

def ofName? (name : String) : Option SigningAlgorithm :=
  all.find? (·.name == name)

end SigningAlgorithm

inductive CipherAlgorithm where
  | pkcs1
  | oaepSha1
  | oaepSha1Single
  | oaepSha256
  | oaepSha384
  | oaepSha512
  deriving DecidableEq, Repr

namespace CipherAlgorithm

def name : CipherAlgorithm → String
  | pkcs1 => "RSA/ECB/PKCS1Padding"
  | oaepSha1 => "RSA/ECB/OAEPWithSHA-1AndMGF1Padding"
  | oaepSha1Single => "RSA/NONE/OAEPWithSHA-1AndMGF1Padding"
  | oaepSha256 => "RSA/ECB/OAEPWithSHA-256AndMGF1Padding"
  | oaepSha384 => "RSA/ECB/OAEPWithSHA-384AndMGF1Padding"
  | oaepSha512 => "RSA/ECB/OAEPWithSHA-512AndMGF1Padding"

def all : List CipherAlgorithm :=
  [pkcs1, oaepSha1, oaepSha1Single, oaepSha256, oaepSha384, oaepSha512]

def ofName? (name : String) : Option CipherAlgorithm :=
  all.find? (·.name == name)

end CipherAlgorithm

structure CipherSpec where
  algorithm : CipherAlgorithm
  parameters : Option CipherParameters
  deriving DecidableEq, Repr

inductive PublicKeyFormat where
  /-- Base 64 of the DER form that certificates use. -/
  | subjectPublicKeyInfo
  | jwk
  deriving DecidableEq, Repr

namespace PublicKeyFormat

def name : PublicKeyFormat → String
  | subjectPublicKeyInfo => "X_509_SubjectPublicKeyInfo_ASN_1"
  | jwk => "JWK"

def all : List PublicKeyFormat :=
  [subjectPublicKeyInfo, jwk]

def ofName? (name : String) : Option PublicKeyFormat :=
  all.find? (·.name == name)

end PublicKeyFormat

end BoundKey
