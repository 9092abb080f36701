import BoundKey.Certificate.Basic

set_option autoImplicit false

/-!
What a key store keeps: a key with its certificates, the time of its creation
and where it is kept.
-/

namespace BoundKey

inductive KeySecurity where
  /-- In hardware, which may have attested that. -/
  | hardware (attested : Bool)
  | software
  | unknown
  deriving DecidableEq, Repr

inductive HardwareState where
  | attested
  | unattested
  | absent
  | unknown
  | queryFailed
  deriving DecidableEq, Repr

namespace HardwareState

def name : HardwareState → String
  | attested => "TRUE_ATTESTED"
  | unattested => "TRUE_UNATTESTED"
  | absent => "FALSE"
  | unknown => "UNKNOWN_DOWNLEVEL"
  | queryFailed => "UNKNOWN_QUERY_ERROR"

def ofSecurity : KeySecurity → HardwareState
  | .hardware true => attested
  | .hardware false => unattested
  | .software => absent
  | .unknown => unknown

end HardwareState

structure GenerationParameters where
  keySize : Nat
  commonName : String
  /-- How many seconds the certificate is valid. -/
  validity : Int
  deriving DecidableEq, Repr

structure KeyEntry where
  privateKey : Rsa.PrivateKey
  /-- The certificate of the key, then those that certify it. -/
  certificates : List Certificate
  /-- Seconds since the beginning of the year 1970. -/
  createdAt : Int
  security : KeySecurity
  deriving DecidableEq, Repr

def KeyEntry.publicKey (entry : KeyEntry) : Rsa.PublicKey :=
  entry.privateKey.publicKey

end BoundKey
