import BoundKey.Rsa.Mask
import BoundKey.Tape

set_option autoImplicit false

/-!
Optimal asymmetric encryption padding: the message stands behind the digest of a
label, masked by a random seed, which is masked in turn. One digest serves for
the label and for the masks.
-/

namespace BoundKey.Rsa.Oaep

def overhead (digest : Digest) : Nat :=
  2 * digest.size + 2

/-- What the mask covers: the digest of the label, zeros, a one and the
message. -/
def dataBlock (digest : Digest) (label : Bytes) (size : Nat) (message : Bytes) :
    Bytes :=
  digest.hash label ++ Bytes.zeros (size - message.length - overhead digest)
    ++ 0x01 :: message

def encryptionBlock (digest : Digest) (label : Bytes) (tape : Tape) (size : Nat)
    (message : Bytes) : Option Bytes :=
  if size < message.length + overhead digest then none
  else
    let seed := tape.take digest.size
    let covered := dataBlock digest label size message
    let masked := Bytes.xor covered (mask digest seed covered.length)
    let maskedSeed := Bytes.xor seed (mask digest masked digest.size)
    some (0x00 :: maskedSeed ++ masked)

def dataMessage? (digest : Digest) (label covered : Bytes) : Option Bytes :=
  if covered.take digest.size = digest.hash label then
    match (covered.drop digest.size).dropWhile (· = 0) with
    | 0x01 :: message => some message
    | _ => none
  else none

def message? (digest : Digest) (label : Bytes) : Bytes → Option Bytes
  | 0x00 :: rest =>
    let maskedSeed := rest.take digest.size
    let masked := rest.drop digest.size
    let seed := Bytes.xor maskedSeed (mask digest masked digest.size)
    dataMessage? digest label (Bytes.xor masked (mask digest seed masked.length))
  | _ => none

end BoundKey.Rsa.Oaep
