import BoundKey.Proofs.Rsa.Encryption

set_option autoImplicit false

/-!
Which blocks carry a message. A block from which a message is taken is one that
padding makes of this message with some random choice: the checks on the way
leave nothing open but the filling bytes or the seed.
-/

namespace BoundKey

/-! ### Tapes with given bytes in front -/

def Tape.ofBytes (bytes : Bytes) : Tape :=
  ⟨fun index => bytes.getD index 0⟩

theorem Tape.take_ofBytes {bytes : Bytes} {count : Nat}
    (sized : bytes.length = count) :
    (Tape.ofBytes bytes).take count = bytes := by
  apply List.ext_getElem
  · rw [take_length, sized]
  · intro index _ inside
    simp [take, ofBytes, inside]

theorem Tape.takeNonzero_ofBytes {bytes : Bytes} {count : Nat}
    (sized : bytes.length = count)
    (nonzero : ∀ byte ∈ bytes, byte ≠ 0) :
    (Tape.ofBytes bytes).takeNonzero count = bytes := by
  rw [takeNonzero, take_ofBytes sized]
  exact (List.map_congr_left fun byte member =>
    if_neg (nonzero byte member)).trans (List.map_id bytes)

namespace Rsa

/-! ### PKCS #1 version 1.5 -/

namespace Pkcs1

def Carries (block message : Bytes) : Prop :=
  ∃ filling : Bytes, 8 ≤ filling.length ∧ (∀ byte ∈ filling, byte ≠ 0) ∧
    block = 0x00 :: 0x02 :: filling ++ 0x00 :: message

theorem carries_of_message? {block message : Bytes}
    (found : message? block = some message) : Carries block message := by
  unfold message? at found
  split at found
  · next rest =>
      rcases Text.kept_or_stop (fun byte : UInt8 => decide (byte ≠ 0)) rest with
        whole | ⟨filling, stop, behind, same, nonzero, isZero⟩
      · rw [List.dropWhile_eq_nil_iff.2 whole] at found
        cases found
      · have zero : stop = 0 := of_not_not (of_decide_eq_false isZero)
        subst same zero
        rw [Text.dropWhile_stop nonzero isZero,
          Text.takeWhile_stop nonzero isZero] at found
        dsimp only at found
        split at found
        · next enough =>
            cases found
            exact ⟨filling, enough, fun byte member =>
              of_decide_eq_true (nonzero byte member), rfl⟩
        · cases found
  · cases found

theorem encryptionBlock_eq_some_iff {tape : Tape} {size : Nat}
    {message block : Bytes} : encryptionBlock tape size message = some block ↔
      message.length + overhead ≤ size ∧
      block = 0x00 :: 0x02 :: tape.takeNonzero (size - message.length - 3)
        ++ 0x00 :: message := by
  unfold encryptionBlock
  by_cases fits : message.length + overhead ≤ size
  · simp [fits, eq_comm]
  · simp [fits]

theorem carries_iff_padded {size : Nat} {message block : Bytes} :
    block.length = size ∧ Carries block message ↔
      ∃ tape, encryptionBlock tape size message = some block := by
  constructor
  · intro carried
    obtain ⟨sized, filling, enough, nonzero, same⟩ := carried
    have lengths := congrArg List.length same
    simp only [List.cons_append, List.length_cons, List.length_append] at lengths
    refine ⟨.ofBytes filling, encryptionBlock_eq_some_iff.2 ⟨?_, ?_⟩⟩
    · unfold overhead
      omega
    · rw [Tape.takeNonzero_ofBytes (by omega) nonzero, same]
  · intro padded
    obtain ⟨tape, made⟩ := padded
    obtain ⟨fits, same⟩ := encryptionBlock_eq_some_iff.1 made
    unfold overhead at fits
    refine ⟨?_, tape.takeNonzero (size - message.length - 3), ?_,
      tape.takeNonzero_ne_zero _, same⟩
    · rw [same]
      simp only [List.cons_append, List.length_cons, List.length_append,
        Tape.takeNonzero_length]
      omega
    · rw [Tape.takeNonzero_length]
      omega

theorem message?_eq_some_iff {block message : Bytes} :
    message? block = some message ↔ Carries block message := by
  constructor
  · exact carries_of_message?
  · intro carried
    obtain ⟨tape, made⟩ := carries_iff_padded.1 ⟨rfl, carried⟩
    obtain ⟨rest, padded, _, found⟩ :=
      encryptionBlock_of_fits tape (encryptionBlock_eq_some_iff.1 made).1
    rw [Option.some.inj (made.symm.trans padded)]
    exact found

end Pkcs1

/-! ### OAEP -/

namespace Oaep

variable {digest : Digest} {label : Bytes}

/-- A block that carries a message behind the digest of a label, masked by a
seed. -/
def Carries (digest : Digest) (label block message : Bytes) : Prop :=
  ∃ seed masked : Bytes, seed.length = digest.size ∧
    message.length + overhead digest ≤ block.length ∧
    masked = Bytes.xor (dataBlock digest label block.length message)
      (mask digest seed (dataBlock digest label block.length message).length) ∧
    block = 0x00 :: Bytes.xor seed (mask digest masked digest.size) ++ masked

theorem of_dataMessage? {covered message : Bytes}
    (found : dataMessage? digest label covered = some message) :
    ∃ count, covered = digest.hash label ++ Bytes.zeros count
      ++ 0x01 :: message := by
  unfold dataMessage? at found
  split at found
  · next labelled =>
      rcases Text.kept_or_stop (fun byte : UInt8 => decide (byte = 0))
        (covered.drop digest.size) with
        whole | ⟨front, stop, behind, same, zeros, notZero⟩
      · rw [List.dropWhile_eq_nil_iff.2 whole] at found
        cases found
      · rw [same, Text.dropWhile_stop zeros notZero] at found
        have filled : front = Bytes.zeros front.length :=
          List.eq_replicate_iff.2 ⟨rfl, fun byte member =>
            of_decide_eq_true (zeros byte member)⟩
        split at found
        · next message split =>
            cases found
            cases split
            refine ⟨front.length, ?_⟩
            rw [← filled, ← labelled, List.append_assoc, ← same,
              List.take_append_drop]
        · cases found
  · cases found

theorem carries_of_message? {block message : Bytes}
    (found : message? digest label block = some message) :
    Carries digest label block message := by
  unfold message? at found
  split at found
  · next rest =>
      dsimp only at found
      obtain ⟨count, uncovered⟩ := of_dataMessage? found
      have coversSeed := mask_length digest (rest.drop digest.size) digest.size
      have coversBlock := mask_length digest (Bytes.xor (rest.take digest.size)
        (mask digest (rest.drop digest.size) digest.size))
        (rest.drop digest.size).length
      -- The message leaves room for the seed, so the block is cut into seed and
      -- rest.
      have lengths := congrArg List.length uncovered
      simp only [Bytes.xor_length, mask_length, Nat.min_self,
        List.length_append, Digest.hash_length, Bytes.zeros,
        List.length_replicate, List.length_cons, List.length_drop] at lengths
      have seedSized : (rest.take digest.size).length = digest.size := by
        rw [List.length_take]
        omega
      have block : dataBlock digest label (0x00 :: rest : Bytes).length message =
          Bytes.xor (rest.drop digest.size)
            (mask digest (Bytes.xor (rest.take digest.size)
            (mask digest (rest.drop digest.size) digest.size))
            (rest.drop digest.size).length) := by
        have filling : (0x00 :: rest : Bytes).length - message.length -
            overhead digest = count := by
          unfold overhead
          rw [List.length_cons]
          omega
        rw [uncovered, dataBlock, filling]
      refine ⟨Bytes.xor (rest.take digest.size)
        (mask digest (rest.drop digest.size) digest.size),
        rest.drop digest.size, ?_, ?_, ?_, ?_⟩
      · rw [Bytes.xor_length, coversSeed, seedSized, Nat.min_self]
      · unfold overhead
        rw [List.length_cons]
        omega
      · have whole :
            (dataBlock digest label
              (0x00 :: rest : Bytes).length message).length =
              (rest.drop digest.size).length := by
          rw [block, Bytes.xor_length, coversBlock, Nat.min_self]
        rw [whole, block, Bytes.xor_xor (Nat.le_of_eq coversBlock.symm)]
      · rw [Bytes.xor_xor (Nat.le_of_eq (seedSized.trans coversSeed.symm)),
          List.cons_append, List.take_append_drop]
  · cases found

theorem encryptionBlock_eq_some_iff {tape : Tape} {size : Nat}
    {message block : Bytes} :
    encryptionBlock digest label tape size message = some block ↔
      message.length + overhead digest ≤ size ∧
      ∃ masked, masked = Bytes.xor (dataBlock digest label size message)
        (mask digest (tape.take digest.size)
          (dataBlock digest label size message).length) ∧
      block = 0x00 :: Bytes.xor (tape.take digest.size)
        (mask digest masked digest.size) ++ masked := by
  unfold encryptionBlock
  by_cases fits : message.length + overhead digest ≤ size
  · simp [fits, eq_comm]
  · simp [fits]

theorem carries_iff_padded {size : Nat} {message block : Bytes} :
    block.length = size ∧ Carries digest label block message ↔
      ∃ tape, encryptionBlock digest label tape size message = some block := by
  constructor
  · intro carried
    obtain ⟨sized, seed, masked, seedSized, fits, covered, same⟩ := carried
    subst sized
    refine ⟨.ofBytes seed, encryptionBlock_eq_some_iff.2 ⟨fits, masked, ?_, ?_⟩⟩
    · rw [Tape.take_ofBytes seedSized]
      exact covered
    · rw [Tape.take_ofBytes seedSized]
      exact same
  · intro padded
    obtain ⟨tape, made⟩ := padded
    obtain ⟨fits, masked, covered, same⟩ := encryptionBlock_eq_some_iff.1 made
    obtain ⟨rest, padded, sized, _⟩ :=
      encryptionBlock_of_fits digest label tape fits
    have whole : block.length = size := by
      rw [Option.some.inj (made.symm.trans padded)]
      exact sized
    subst whole
    exact ⟨rfl, tape.take digest.size, masked, tape.take_length _,
      fits, covered, same⟩

theorem message?_eq_some_iff {block message : Bytes} :
    message? digest label block = some message ↔
      Carries digest label block message := by
  constructor
  · exact carries_of_message?
  · intro carried
    obtain ⟨tape, made⟩ := carries_iff_padded.1 ⟨rfl, carried⟩
    obtain ⟨rest, padded, _, found⟩ :=
      encryptionBlock_of_fits digest label tape
        (encryptionBlock_eq_some_iff.1 made).1
    rw [Option.some.inj (made.symm.trans padded)]
    exact found

end Oaep

end Rsa

end BoundKey
