import BoundKey.Digest.Algorithm

set_option autoImplicit false

/-!
The mask generation function of PSS and OAEP: as many bytes as wanted from a
seed.
-/

namespace BoundKey.Rsa

def mask (digest : Digest) (seed : Bytes) (size : Nat) : Bytes :=
  ((List.range ((size + digest.size - 1) / digest.size)).flatMap fun counter =>
    digest.hash (seed ++ Bytes.bigEndian 4 counter)).take size

end BoundKey.Rsa
