import BoundKey.Digest.Sha256

set_option autoImplicit false

/-!
The SHA-1 digest. It only names keys inside certificates, where nothing rests on
its strength.
-/

namespace BoundKey.Sha1

structure State where
  a : UInt32
  b : UInt32
  c : UInt32
  d : UInt32
  e : UInt32
  deriving DecidableEq, Repr

def start : State :=
  ⟨0x67452301, 0xefcdab89, 0x98badcfe, 0x10325476, 0xc3d2e1f0⟩

def rotateLeft (word count : UInt32) : UInt32 :=
  (word <<< count) ||| (word >>> (32 - count))

def schedule : Nat → List UInt32 → List UInt32
  | 0, _ => []
  | _ + 1, [] => []
  | count + 1, first :: rest =>
    let next := match first :: rest with
      | [w16, _, w14, _, _, _, _, _, w8, _, _, _, _, w3, _, _] =>
        [rotateLeft (w3 ^^^ w8 ^^^ w14 ^^^ w16) 1]
      | _ => []
    first :: schedule count (rest ++ next)

/-- How three words of the state are combined in a round, and the constant of
the round. -/
def stage (round : Nat) (b c d : UInt32) : UInt32 × UInt32 :=
  if round < 20 then ((b &&& c) ||| (~~~b &&& d), 0x5a827999)
  else if round < 40 then (b ^^^ c ^^^ d, 0x6ed9eba1)
  else if round < 60 then ((b &&& c) ||| (b &&& d) ||| (c &&& d), 0x8f1bbcdc)
  else (b ^^^ c ^^^ d, 0xca62c1d6)

def round (state : State) (input : UInt32 × Nat) : State :=
  let (combined, constant) := stage input.2 state.b state.c state.d
  let next := rotateLeft state.a 5 + combined + state.e + constant + input.1
  ⟨next, state.a, rotateLeft state.b 30, state.c, state.d⟩

def absorb (state : State) (block : Bytes) : State :=
  let inputs := (schedule 80 (Sha256.parameters.words block)).zipIdx
  let stirred := inputs.foldl round state
  ⟨state.a + stirred.a, state.b + stirred.b, state.c + stirred.c,
    state.d + stirred.d, state.e + stirred.e⟩

def hash (message : Bytes) : Bytes :=
  let state := (chunks 64 (Sha256.parameters.padded message)).foldl absorb start
  [state.a, state.b, state.c, state.d, state.e].flatMap fun word =>
    Bytes.bigEndian 4 word.toNat

end BoundKey.Sha1
