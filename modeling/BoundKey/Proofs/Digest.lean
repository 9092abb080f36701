import BoundKey.Digest.Algorithm
import BoundKey.Proofs.Bytes

set_option autoImplicit false

/-!
The lengths of digests: every message has a digest of the size of its algorithm.
-/

namespace BoundKey.Digest

private theorem stateBytes_length {Word : Type}
    (parameters : Sha2.Parameters Word) (state : Sha2.State Word) :
    (parameters.stateBytes state).length = 8 * parameters.width := by
  simp only [Sha2.Parameters.stateBytes, List.flatMap_cons, List.flatMap_nil,
    List.length_append, Bytes.bigEndian_length, List.length_nil]
  omega

theorem hash_length (digest : Digest) (message : Bytes) :
    (digest.hash message).length = digest.size := by
  cases digest with
  | sha256 => exact stateBytes_length Sha256.parameters _
  | sha384 =>
      have whole := stateBytes_length Sha512.parameters
        ((chunks Sha512.parameters.blockSize
          (Sha512.parameters.padded message)).foldl Sha512.parameters.absorb
          Sha512.shortStart)
      change (List.take 48 (Sha512.parameters.stateBytes _)).length = 48
      rw [List.length_take, whole]
      rfl
  | sha512 => exact stateBytes_length Sha512.parameters _

end BoundKey.Digest
