import BoundKey.Crypto.Provider
import BoundKey.Rsa.Oaep
import BoundKey.Rsa.Pkcs1
import BoundKey.Text.Quoted
import BoundKey.Text.Utf8

set_option autoImplicit false

/-!
RSA encryption of messages of any length. A message is cut into pieces that fit
a block, every piece is padded and encrypted on its own, and the ciphertext is
the blocks in a row, each as long as the modulus.
-/

namespace BoundKey

inductive RsaPadding where
  | pkcs1
  | oaep (digest : Digest)
  deriving DecidableEq, Repr

namespace RsaPadding

def name : RsaPadding → String
  | pkcs1 => "Pkcs1v15"
  | oaep digest => s!"Oaep({digest.name})"

def overhead : RsaPadding → Nat
  | pkcs1 => Rsa.Pkcs1.overhead
  | oaep digest => Rsa.Oaep.overhead digest

def pad (padding : RsaPadding) (label : Bytes) (tape : Tape) (size : Nat)
    (piece : Bytes) : Option Bytes :=
  match padding with
  | pkcs1 => Rsa.Pkcs1.encryptionBlock tape size piece
  | oaep digest => Rsa.Oaep.encryptionBlock digest label tape size piece

def unpad (padding : RsaPadding) (label : Bytes) (block : Bytes) : Option Bytes :=
  match padding with
  | pkcs1 => Rsa.Pkcs1.message? block
  | oaep digest => Rsa.Oaep.message? digest label block

end RsaPadding

def CipherParameters.describe (parameters : CipherParameters) : String :=
  let label := match parameters.label with
    | some text => "Some(" ++ Text.Quoted.encode text ++ ")"
    | none => "None"
  "Oaep \x7b label: " ++ label ++ " \x7d"

namespace BlockCipher

/-- The longest piece that fits a block of `size` bytes; a modulus that leaves
no room is refused. -/
def pieceSize (padding : RsaPadding) (size : Nat) : Except CipherFault Nat :=
  if size ≤ padding.overhead then
    .error (.invalidKey
      s!"modulus of {size} bytes is too small for {padding.name}")
  else .ok (size - padding.overhead)

def labelBytes (padding : RsaPadding) (parameters : Option CipherParameters) :
    Except CipherFault Bytes :=
  match padding, parameters with
  | _, none => .ok []
  | .oaep _, some given => .ok ((given.label.map Utf8.encode).getD [])
  | .pkcs1, some given =>
    .error (.invalidParameters
      (given.describe ++ " cannot be used with PKCS#1 v1.5 padding"))

/-- The pieces of a message; an empty message is one empty piece. -/
def pieces (size : Nat) (message : Bytes) : List Bytes :=
  if message.isEmpty then [[]] else chunks size message

def encryptFault (fault : Rsa.Fault) : CipherFault :=
  match fault with
  | .messageTooLong => .blockSize fault.message
  | _ => if fault.concernsKey then .invalidKey fault.message
    else .failed fault.message

def decryptFault (fault : Rsa.Fault) : CipherFault :=
  match fault with
  | .notDecryptable => .badPadding
  | _ => if fault.concernsKey then .invalidKey fault.message
    else .failed fault.message

def encryptPiece (padding : RsaPadding) (label : Bytes) (key : Rsa.PublicKey)
    (tape : Tape) (piece : Bytes) : Except Rsa.Fault Bytes :=
  match key.check with
  | .error fault => .error fault
  | .ok () =>
    match padding.pad label tape key.size piece with
    | none => .error .messageTooLong
    | some block => .ok (Bytes.bigEndian key.size (key.apply (Bytes.toNat block)))

def decryptBlock (padding : RsaPadding) (label : Bytes) (key : Rsa.PrivateKey)
    (block : Bytes) : Except Rsa.Fault Bytes :=
  match key.apply (Bytes.toNat block) with
  | .error fault => .error fault
  | .ok value =>
    match padding.unpad label (Bytes.bigEndian key.size value) with
    | some piece => .ok piece
    | none => .error .notDecryptable

/-- Encrypts the pieces one after another, each with the tape from where the one
before it stopped, at one modulus length a piece. -/
def encryptPieces (padding : RsaPadding) (label : Bytes) (key : Rsa.PublicKey) :
    Tape → List Bytes → Except CipherFault Bytes
  | _, [] => .ok []
  | tape, piece :: rest => do
    let block ← (encryptPiece padding label key tape piece).mapError encryptFault
    let blocks ← encryptPieces padding label key (tape.drop key.size) rest
    .ok (block ++ blocks)

def decryptBlocks (padding : RsaPadding) (label : Bytes) (key : Rsa.PrivateKey) :
    List Bytes → Except CipherFault Bytes
  | [] => .ok []
  | block :: rest => do
    let piece ← (decryptBlock padding label key block).mapError decryptFault
    let pieces ← decryptBlocks padding label key rest
    .ok (piece ++ pieces)

/-- Encrypts a message. The modulus is measured first, then the parameters are
looked at, then each piece is encrypted. -/
def encrypt (padding : RsaPadding) (tape : Tape) (message : Bytes)
    (key : Rsa.PublicKey) (parameters : Option CipherParameters) :
    Except CipherFault Bytes := do
  let size ← pieceSize padding key.size
  let label ← labelBytes padding parameters
  encryptPieces padding label key tape (pieces size message)

def decrypt (padding : RsaPadding) (ciphertext : Bytes) (key : Rsa.PrivateKey)
    (parameters : Option CipherParameters) : Except CipherFault Bytes := do
  let _ ← pieceSize padding key.size
  let label ← labelBytes padding parameters
  if ciphertext.isEmpty ∨ ciphertext.length % key.size ≠ 0 then
    .error (.blockSize
      s!"ciphertext of {ciphertext.length} bytes is not a multiple of {key.size}")
  else decryptBlocks padding label key (chunks key.size ciphertext)

end BlockCipher

def Cipher.rsa (padding : RsaPadding) : Cipher where
  encrypt := BlockCipher.encrypt padding
  decrypt := BlockCipher.decrypt padding

end BoundKey
