import BoundKey.Rsa.Key
import BoundKey.Rsa.Mask
import BoundKey.Tape

set_option autoImplicit false

/-!
The probabilistic signature scheme, with a salt as long as the digest and masks
over the same digest. The encoded text is one bit shorter than the modulus, so
its top bits are zero, and when the modulus has one bit more than whole bytes it
is one byte shorter.
-/

namespace BoundKey.Rsa.Pss

def encodedSize (bits : Nat) : Nat :=
  (bits + 7) / 8

/-- The bits that the first byte of an encoded text may use. -/
def topBits (bits : Nat) : Nat :=
  8 - (8 * encodedSize bits - bits)

def clearTop (bits : Nat) : Bytes → Bytes
  | [] => []
  | first :: rest => UInt8.ofNat (first.toNat % Nat.pow 2 (topBits bits)) :: rest

def bound (digest : Digest) (hashed salt : Bytes) : Bytes :=
  digest.hash (Bytes.zeros 8 ++ hashed ++ salt)

def dataBlock (digest : Digest) (bits : Nat) (salt : Bytes) : Bytes :=
  Bytes.zeros (encodedSize bits - 2 * digest.size - 2) ++ 0x01 :: salt

def encode (digest : Digest) (bits : Nat) (hashed salt : Bytes) : Option Bytes :=
  if encodedSize bits < 2 * digest.size + 2 then none
  else
    let binding := bound digest hashed salt
    let covered := dataBlock digest bits salt
    let masked :=
      clearTop bits (Bytes.xor covered (mask digest binding covered.length))
    some (masked ++ binding ++ [0xbc])

def accepts (digest : Digest) (bits : Nat) (hashed encoded : Bytes) : Bool :=
  let coveredSize := encodedSize bits - digest.size - 1
  let masked := encoded.take coveredSize
  let binding := (encoded.drop coveredSize).take digest.size
  let covered :=
    clearTop bits (Bytes.xor masked (mask digest binding masked.length))
  let salt := covered.drop (covered.length - digest.size)
  2 * digest.size + 2 ≤ encodedSize bits && encoded.getLast? = some 0xbc
    && clearTop bits masked = masked
    && covered = dataBlock digest bits salt && binding = bound digest hashed salt

def sign (digest : Digest) (tape : Tape) (key : PrivateKey) (message : Bytes) :
    Except Fault Bytes :=
  match encode digest (bitLength key.modulus - 1) (digest.hash message)
    (tape.take digest.size) with
  | none => .error .inconsistent
  | some encoded =>
      (key.apply (Bytes.toNat encoded)).map (Bytes.bigEndian key.size)

/-- Whether a byte string is a signature of a message. It must be as long as the
modulus, but its value need not be below it, and of the result only the bytes of
an encoded text are looked at. -/
def verify (digest : Digest) (key : PublicKey) (message signature : Bytes) :
    Bool :=
  let bits := bitLength key.modulus - 1
  let result := Bytes.bigEndian key.size (key.apply (Bytes.toNat signature))
  signature.length = key.size
    && accepts digest bits (digest.hash message)
      (result.drop (key.size - encodedSize bits))

end BoundKey.Rsa.Pss
