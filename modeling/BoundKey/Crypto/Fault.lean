set_option autoImplicit false

/-!
What can go wrong in the primitives: a name that is not registered, and the
failures of hashers, signers and ciphers. Each kind has one wording.
-/

namespace BoundKey

inductive ProviderFault where
  | missingHasher (name : String)
  | missingSigner (name : String)
  | missingCipher (name : String)
  deriving DecidableEq, Repr

def ProviderFault.message : ProviderFault → String
  | missingHasher name => s!"Missing hasher: `{name}`"
  | missingSigner name => s!"Missing signer: `{name}`"
  | missingCipher name => s!"Missing cipher: `{name}`"

inductive HasherFault where
  | couldNotHash
  | provider (cause : ProviderFault)
  deriving DecidableEq, Repr

def HasherFault.message : HasherFault → String
  | couldNotHash => "Could not hash"
  | provider cause => s!"Crypto provider error: `{cause.message}`"

inductive SignerFault where
  | provider (cause : ProviderFault)
  | couldNotSign (reason : String)
  | couldNotExtractKeyPair
  | invalidKey (reason : String)
  | couldNotVerify (reason : String)
  | invalidSignature
  | missingAlgorithm (name : String)
  | missingKey
  deriving DecidableEq, Repr

def SignerFault.message : SignerFault → String
  | provider cause => s!"Crypto provider error: `{cause.message}`"
  | couldNotSign reason => s!"Could not sign: `{reason}`"
  | couldNotExtractKeyPair => "Could not extract keypair"
  | invalidKey reason => s!"Invalid key: `{reason}`"
  | couldNotVerify reason => s!"Could not verify: `{reason}`"
  | invalidSignature => "Invalid signature"
  | missingAlgorithm name => s!"Missing algorithm `{name}`"
  | missingKey => "Missing key"

inductive CipherFault where
  | invalidKey (reason : String)
  | invalidParameters (reason : String)
  | blockSize (reason : String)
  | badPadding
  | failed (reason : String)
  deriving DecidableEq, Repr

def CipherFault.message : CipherFault → String
  | invalidKey reason => s!"Invalid key: `{reason}`"
  | invalidParameters reason => s!"Invalid cipher parameters: `{reason}`"
  | blockSize reason => s!"Illegal block size: `{reason}`"
  | badPadding => "Bad padding"
  | failed reason => s!"Cipher failure: `{reason}`"

end BoundKey
