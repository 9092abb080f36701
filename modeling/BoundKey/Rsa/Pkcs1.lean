import BoundKey.Digest.Algorithm
import BoundKey.Rsa.Key
import BoundKey.Tape

set_option autoImplicit false

/-!
The paddings of PKCS #1 version 1.5. A signed text stands behind a run of `0xff`
bytes, so it has one padded form; an encrypted message stands behind at least
eight random bytes, none of them zero.
-/

namespace BoundKey.Rsa.Pkcs1

def overhead : Nat := 11

/-- The start of a digest's description, to which the digest itself is appended:
the outer and inner headers, the identifier of the algorithm and no
parameters. -/
def digestPrefix : Digest → Bytes
  | .sha256 => [0x30, 0x31, 0x30, 0x0d, 0x06, 0x09, 0x60, 0x86, 0x48, 0x01,
      0x65, 0x03, 0x04, 0x02, 0x01, 0x05, 0x00, 0x04, 0x20]
  | .sha384 => [0x30, 0x41, 0x30, 0x0d, 0x06, 0x09, 0x60, 0x86, 0x48, 0x01,
      0x65, 0x03, 0x04, 0x02, 0x02, 0x05, 0x00, 0x04, 0x30]
  | .sha512 => [0x30, 0x51, 0x30, 0x0d, 0x06, 0x09, 0x60, 0x86, 0x48, 0x01,
      0x65, 0x03, 0x04, 0x02, 0x03, 0x05, 0x00, 0x04, 0x40]

def digestInfo (digest : Digest) (message : Bytes) : Bytes :=
  digestPrefix digest ++ digest.hash message

def signatureBlock (size : Nat) (text : Bytes) : Option Bytes :=
  if size < text.length + overhead then none
  else some (0x00 :: 0x01 :: List.replicate (size - text.length - 3) 0xff
    ++ 0x00 :: text)

def sign (key : PrivateKey) (text : Bytes) : Except Fault Bytes :=
  match signatureBlock key.size text with
  | none => .error .messageTooLong
  | some block => (key.apply (Bytes.toNat block)).map (Bytes.bigEndian key.size)

/-- Whether a byte string is the signature of a text: as long as the modulus,
below it, and leading back to the block of the text. -/
def verify (key : PublicKey) (text signature : Bytes) : Bool :=
  signature.length = key.size && Bytes.toNat signature < key.modulus &&
    signatureBlock key.size text =
      some (Bytes.bigEndian key.size (key.apply (Bytes.toNat signature)))

def encryptionBlock (tape : Tape) (size : Nat) (message : Bytes) : Option Bytes :=
  if size < message.length + overhead then none
  else some (0x00 :: 0x02 :: tape.takeNonzero (size - message.length - 3)
    ++ 0x00 :: message)

def message? : Bytes → Option Bytes
  | 0x00 :: 0x02 :: rest =>
    match rest.dropWhile (· ≠ 0) with
    | _ :: message =>
        if 8 ≤ (rest.takeWhile (· ≠ 0)).length then some message else none
    | [] => none
  | _ => none

end BoundKey.Rsa.Pkcs1
