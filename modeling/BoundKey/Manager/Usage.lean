import BoundKey.Manager.Basic

set_option autoImplicit false

/-!
The use of a key: handing out its public half, signing and verifying, encrypting
and decrypting. The forms on text use base 64: padded for signatures, unpadded
for ciphertexts.
-/

namespace BoundKey.Manager

def publicKey (manager : Manager) (format : String) : StoreOperation String :=
  Operation.reporting .publicKey do
    match PublicKeyFormat.ofName? format with
    | none => throw (.unknownExportFormat format)
    | some format =>
      let entry ← manager.entry
      match format with
      | .subjectPublicKeyInfo =>
          pure (Base64.encode .padded entry.publicKey.toDer)
      | .jwk => pure (Jwk.ofPublicKey entry.publicKey).toJson

def sign (manager : Manager) (algorithm : SigningAlgorithm) (tape : Tape)
    (message : Bytes) : StoreOperation Bytes :=
  Operation.reporting .sign do
    let entry ← manager.entry
    let signer ← Operation.ofExcept (manager.signer algorithm)
    Operation.ofExcept
      ((signer.sign tape message entry.privateKey).mapError .ofSigner)

def signText (manager : Manager) (algorithm : SigningAlgorithm) (tape : Tape)
    (text : String) : StoreOperation String := do
  let signature ← manager.sign algorithm tape (Utf8.encode text)
  pure (Base64.encode .padded signature)

def checkSignature (manager : Manager) (algorithm : SigningAlgorithm)
    (message signature : Bytes) : StoreOperation Unit := do
  let entry ← manager.entry
  let signer ← Operation.ofExcept (manager.signer algorithm)
  Operation.ofExcept
    ((signer.verify message signature entry.publicKey).mapError .ofSigner)

/-- Whether a signature of a message is valid. Whatever prevents the check
counts as no and is logged. -/
def verify (manager : Manager) (algorithm : SigningAlgorithm)
    (message signature : Bytes) : Program StoreInterface Bool := do
  match ← (manager.checkSignature algorithm message signature).run with
  | .ok () => pure true
  | .error (.signingFailure .invalidSignature) => pure false
  | .error failure =>
    Program.log (.verificationFailed failure)
    pure false

def verifyText (manager : Manager) (algorithm : SigningAlgorithm)
    (text signature : String) : Program StoreInterface Bool :=
  match Base64.decode .padded signature with
  | some bytes => manager.verify algorithm (Utf8.encode text) bytes
  | none => do
    Program.log .signatureNotBase64
    pure false

def encrypt (manager : Manager) (spec : CipherSpec) (tape : Tape)
    (message : Bytes) : StoreOperation Bytes :=
  Operation.reporting .encrypt do
    let entry ← manager.entry
    let cipher ← Operation.ofExcept (manager.cipher spec.algorithm)
    Operation.ofExcept
      ((cipher.encrypt tape message entry.publicKey spec.parameters).mapError
        .ofCipher)

def encryptText (manager : Manager) (spec : CipherSpec) (tape : Tape)
    (text : String) : StoreOperation String := do
  let ciphertext ← manager.encrypt spec tape (Utf8.encode text)
  pure (Base64.encode .unpadded ciphertext)

def decrypt (manager : Manager) (spec : CipherSpec) (ciphertext : Bytes) :
    StoreOperation Bytes :=
  Operation.reporting .decrypt do
    let entry ← manager.entry
    let cipher ← Operation.ofExcept (manager.cipher spec.algorithm)
    Operation.ofExcept
      ((cipher.decrypt ciphertext entry.privateKey spec.parameters).mapError
        .ofCipher)

def ciphertextBytes (text : String) : Except Failure Bytes :=
  match Base64.decode .unpadded text with
  | some bytes => .ok bytes
  | none => .error (.blockSizeMismatch Base64.refusal)

def plaintext (message : Bytes) : Except Failure String :=
  (Utf8.decode message).mapError fun fault =>
    .encryptionPaddingViolation fault.message

def decryptText (manager : Manager) (spec : CipherSpec) (text : String) :
    StoreOperation String := do
  let ciphertext ← (Operation.ofExcept (ciphertextBytes text)).reporting
      .decryptText
  let message ← manager.decrypt spec ciphertext
  (Operation.ofExcept (plaintext message)).reporting .decryptText

end BoundKey.Manager
