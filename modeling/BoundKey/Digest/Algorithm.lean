import BoundKey.Digest.Sha256
import BoundKey.Digest.Sha512

set_option autoImplicit false

/-!
The digests that signatures and encryption use, as one type with three members.
-/

namespace BoundKey

inductive Digest where
  | sha256
  | sha384
  | sha512
  deriving DecidableEq, Repr

namespace Digest

def size : Digest → Nat
  | sha256 => 32
  | sha384 => 48
  | sha512 => 64

def hash : Digest → Bytes → Bytes
  | sha256 => Sha256.hash
  | sha384 => Sha512.shortHash
  | sha512 => Sha512.hash

def name : Digest → String
  | sha256 => "Sha256"
  | sha384 => "Sha384"
  | sha512 => "Sha512"

def all : List Digest :=
  [sha256, sha384, sha512]

def ofName? (name : String) : Option Digest :=
  all.find? (·.name == name)

end Digest

end BoundKey
