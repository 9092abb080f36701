import BoundKey.Bytes

set_option autoImplicit false

/-!
The SHA-2 construction over words of either size. The message is padded with a
one bit, zeros and its length in bits to whole blocks of sixteen words; each
block is spread over as many words as there are rounds and stirred into eight
words of state. What the members of the family differ in is a record of
parameters.
-/

namespace BoundKey.Sha2

/-- Three distances by which a word is turned or shifted before the results are
combined. -/
structure Distances where
  first : Nat
  second : Nat
  third : Nat
  deriving DecidableEq, Repr

structure Parameters (Word : Type) where
  width : Nat
  ofNat : Nat → Word
  toNat : Word → Nat
  rotateRight : Word → Nat → Word
  shiftRight : Word → Nat → Word
  /-- Two turns and a shift for the word fifteen places back in the schedule. -/
  early : Distances
  /-- Two turns and a shift for the word two places back in the schedule. -/
  late : Distances
  lower : Distances
  upper : Distances
  constants : List Word

structure State (Word : Type) where
  a : Word
  b : Word
  c : Word
  d : Word
  e : Word
  f : Word
  g : Word
  h : Word
  deriving DecidableEq, Repr

variable {Word : Type}

namespace Parameters

def blockSize (parameters : Parameters Word) : Nat :=
  16 * parameters.width

/-- The message, a one bit, zeros and the length in bits, whole blocks in
all. -/
def padded (parameters : Parameters Word) (message : Bytes) : Bytes :=
  let lengthSize := 2 * parameters.width
  let used := (message.length + 1 + lengthSize) % parameters.blockSize
  message ++ 0x80 :: Bytes.zeros
    ((parameters.blockSize - used) % parameters.blockSize)
    ++ Bytes.bigEndian lengthSize (message.length * 8)

def words (parameters : Parameters Word) (block : Bytes) : List Word :=
  (chunks parameters.width block).map fun bytes =>
    parameters.ofNat (Bytes.toNat bytes)

def stateBytes (parameters : Parameters Word) (state : State Word) : Bytes :=
  [state.a, state.b, state.c, state.d, state.e, state.f, state.g,
    state.h].flatMap fun word =>
    Bytes.bigEndian parameters.width (parameters.toNat word)

variable [Add Word] [XorOp Word] [AndOp Word] [Complement Word]

@[specialize] def turned (parameters : Parameters Word) (turns : Distances)
    (word : Word) : Word :=
  parameters.rotateRight word turns.first ^^^
    parameters.rotateRight word turns.second
    ^^^ parameters.rotateRight word turns.third

@[specialize] def mixed (parameters : Parameters Word) (turns : Distances)
    (word : Word) : Word :=
  parameters.rotateRight word turns.first ^^^
    parameters.rotateRight word turns.second
    ^^^ parameters.shiftRight word turns.third

@[specialize] def nextWord (parameters : Parameters Word) :
    List Word → Option Word
  | [w16, w15, _, _, _, _, _, _, _, w7, _, _, _, _, w2, _] =>
    some (parameters.mixed parameters.late w2 + w7 +
      parameters.mixed parameters.early w15 + w16)
  | _ => none

@[specialize] def schedule (parameters : Parameters Word) :
    Nat → List Word → List Word
  | 0, _ => []
  | _ + 1, [] => []
  | count + 1, first :: rest =>
    first :: schedule parameters count
      (rest ++ (parameters.nextWord (first :: rest)).toList)

@[specialize] def round (parameters : Parameters Word) (state : State Word)
    (input : Word × Word) : State Word :=
  let choice := (state.e &&& state.f) ^^^ (~~~state.e &&& state.g)
  let first := state.h + parameters.turned parameters.upper state.e + choice +
    input.2 + input.1
  let majority :=
    (state.a &&& state.b) ^^^ (state.a &&& state.c) ^^^ (state.b &&& state.c)
  let second := parameters.turned parameters.lower state.a + majority
  ⟨first + second, state.a, state.b, state.c, state.d + first, state.e,
    state.f, state.g⟩

@[specialize] def absorb (parameters : Parameters Word) (state : State Word)
    (block : Bytes) : State Word :=
  let inputs :=
    (parameters.schedule parameters.constants.length (parameters.words block)).zip
    parameters.constants
  let stirred := inputs.foldl parameters.round state
  ⟨state.a + stirred.a, state.b + stirred.b, state.c + stirred.c,
    state.d + stirred.d, state.e + stirred.e, state.f + stirred.f,
    state.g + stirred.g, state.h + stirred.h⟩

@[specialize] def run (parameters : Parameters Word) (start : State Word)
    (message : Bytes) : Bytes :=
  parameters.stateBytes
    ((chunks parameters.blockSize (parameters.padded message)).foldl
      parameters.absorb start)

end Parameters

end BoundKey.Sha2
