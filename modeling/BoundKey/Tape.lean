import BoundKey.Bytes

set_option autoImplicit false

/-!
Random choices as a value. Whatever an operation chooses at random (a salt, a
seed, padding bytes, candidates for a prime) it reads from a tape of bytes, so
that an operation is a function and a statement can range over all its random
choices.
-/

namespace BoundKey

/-- An endless tape of bytes; cell `i` holds the byte that the `i`-th draw
yields. -/
structure Tape where
  cell : Nat → UInt8

namespace Tape

def take (tape : Tape) (count : Nat) : Bytes :=
  (List.range count).map tape.cell

def drop (tape : Tape) (count : Nat) : Tape :=
  ⟨fun index => tape.cell (count + index)⟩

/-- The first `count` bytes of the tape, a zero byte read as one, so that no
byte is zero. -/
def takeNonzero (tape : Tape) (count : Nat) : Bytes :=
  (tape.take count).map fun byte => if byte = 0 then 1 else byte

/-- A tape that is spread over all byte values from a number: each cell mixes
the seed and its own index by multiplication and shifting. It is reproducible
and not meant to be unpredictable. -/
def ofSeed (seed : UInt64) : Tape where
  cell index :=
    let start := seed + UInt64.ofNat index * 0x9e3779b97f4a7c15
    let once := (start ^^^ (start >>> 30)) * 0xbf58476d1ce4e5b9
    let twice := (once ^^^ (once >>> 27)) * 0x94d049bb133111eb
    (twice ^^^ (twice >>> 31)).toUInt8

end Tape

end BoundKey
