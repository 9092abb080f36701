import BoundKey.Jwk
import BoundKey.Jws
import BoundKey.Store.Fault

set_option autoImplicit false

/-!
The failures that callers see. Each kind has a stable code to branch on and one
wording; faults of the store and of the primitives are classified into them, and
the cause is kept where it says more.
-/

namespace BoundKey

inductive Failure where
  | storageUnavailable (cause : StoreFault)
  | keySizeUnsupported (cause : StoreFault)
  | algorithmUnsupported (detail : String)
  | paddingUnsupported (detail : String)
  | hardwareProviderUnavailable (cause : StoreFault)
  | invalidAlgorithmParameters (detail : String)
  | invalidKey (detail : String)
  | keyMissing (detail : String)
  | protectionParametersInvalid (cause : StoreFault)
  | signingFailure (cause : SignerFault)
  | thumbprintComputationFailure (detail : String)
  | encryptionPaddingViolation (detail : String)
  | blockSizeMismatch (detail : String)
  | cipherFailure (detail : String)
  | jsonConstructionFailed (detail : String)
  | tokenSigningFailure (cause : Jws.Fault)
  | certificateEncodingError (detail : String)
  | unknownExportFormat (name : String)
  | argumentInvalid (detail : String)
  | deviceCertificateSigning (cause : SignerFault)
  | interruptedWhileWaiting
  /-- No operation waits with a deadline; the kind is kept for one that will. -/
  | timedOut
  | workerPoolUnavailable (detail : String)
  deriving DecidableEq, Repr

def SignerFault.sources : SignerFault → List String
  | provider cause => [cause.message]
  | _ => []

def Jws.Fault.sources : Jws.Fault → List String
  | .couldNotSign cause => cause.message :: cause.sources
  | _ => []

namespace Failure

def code : Failure → String
  | storageUnavailable _ => "keystore_not_initialized"
  | keySizeUnsupported _ => "bad_key_size"
  | algorithmUnsupported _ => "no_such_algorithm"
  | paddingUnsupported _ => "no_such_padding"
  | hardwareProviderUnavailable _ => "hardware_keystore_unavailable"
  | invalidAlgorithmParameters _ => "invalid_algorithm_parameter"
  | invalidKey _ => "invalid_key"
  | keyMissing _ => "invalid_key_missing"
  | protectionParametersInvalid _ => "protection_params_invalid"
  | signingFailure _ => "signing_failure"
  | thumbprintComputationFailure _ => "thumbprint_computation_failure"
  | encryptionPaddingViolation _ => "bad_padding"
  | blockSizeMismatch _ => "invalid_block_size"
  | cipherFailure _ => "cipher_failure"
  | jsonConstructionFailed _ => "json_construction_failed"
  | tokenSigningFailure _ => "jwt_signing_failure"
  | certificateEncodingError _ => "certificate_encoding_error"
  | unknownExportFormat _ => "unknown_export_format"
  | argumentInvalid _ => "invalid_argument"
  | deviceCertificateSigning _ => "device_certificate_signing_failure"
  | interruptedWhileWaiting => "operation_interrupted"
  | timedOut => "timed_out"
  | workerPoolUnavailable _ => "worker_pool_unavailable"

def message : Failure → String
  | storageUnavailable cause => s!"Key storage unavailable: `{cause.message}`"
  | keySizeUnsupported cause => s!"Unsupported key size: `{cause.message}`"
  | algorithmUnsupported detail => s!"Algorithm unsupported: `{detail}`"
  | paddingUnsupported detail => s!"Padding unsupported: `{detail}`"
  | hardwareProviderUnavailable cause =>
      s!"Secure hardware provider unavailable: `{cause.message}`"
  | invalidAlgorithmParameters detail =>
      s!"Invalid algorithm parameters: `{detail}`"
  | invalidKey detail => s!"Invalid key: `{detail}`"
  | keyMissing detail => s!"Private key missing: `{detail}`"
  | protectionParametersInvalid cause =>
      s!"Invalid protection parameters: `{cause.message}`"
  | signingFailure cause => s!"Signing failed: `{cause.message}`"
  | thumbprintComputationFailure detail =>
      s!"Thumbprint computation failed: `{detail}`"
  | encryptionPaddingViolation detail => s!"Bad padding: `{detail}`"
  | blockSizeMismatch detail => s!"Illegal block size: `{detail}`"
  | cipherFailure detail => s!"Cipher failure: `{detail}`"
  | jsonConstructionFailed detail => s!"JSON construction failed: `{detail}`"
  | tokenSigningFailure cause => s!"JWT signing failed: `{cause.message}`"
  | certificateEncodingError detail => s!"Certificate encoding error: `{detail}`"
  | unknownExportFormat name =>
      s!"Unrecognized or unsupported key format: `{name}`"
  | argumentInvalid detail => s!"Invalid argument: `{detail}`"
  | deviceCertificateSigning cause =>
      s!"Device certificate signing failed: `{cause.message}`"
  | interruptedWhileWaiting => "Interrupted while waiting on callback"
  | timedOut => "Timed out"
  | workerPoolUnavailable detail => s!"Worker pool unavailable: `{detail}`"

def sources : Failure → List String
  | storageUnavailable cause | keySizeUnsupported cause
  | hardwareProviderUnavailable cause | protectionParametersInvalid cause =>
      [cause.message]
  | signingFailure cause | deviceCertificateSigning cause =>
      cause.message :: cause.sources
  | tokenSigningFailure cause => cause.message :: cause.sources
  | workerPoolUnavailable detail => [detail]
  | _ => []

def ofStore (fault : StoreFault) : Failure :=
  match fault with
  | .notFound keyAlias => .keyMissing keyAlias
  | .unavailable _ => .storageUnavailable fault
  | .protectionInvalid _ => .protectionParametersInvalid fault
  | .keySizeUnsupported _ => .keySizeUnsupported fault
  | .algorithmUnavailable reason => .algorithmUnsupported reason
  | .providerUnavailable _ => .hardwareProviderUnavailable fault
  | .invalidParameters reason => .invalidAlgorithmParameters reason
  | .thumbprint reason => .thumbprintComputationFailure reason

def ofSigner (fault : SignerFault) : Failure :=
  match fault with
  | .invalidKey reason => .invalidKey reason
  | .couldNotExtractKeyPair => .invalidKey fault.message
  | .missingKey => .keyMissing fault.message
  | .missingAlgorithm name => .algorithmUnsupported name
  | .provider cause => .algorithmUnsupported cause.message
  | _ => .signingFailure fault

def ofCipher (fault : CipherFault) : Failure :=
  match fault with
  | .invalidKey reason => .invalidKey reason
  | .failed reason => .cipherFailure reason
  | .invalidParameters reason => .invalidAlgorithmParameters reason
  | .blockSize reason => .blockSizeMismatch reason
  | .badPadding => .encryptionPaddingViolation fault.message

def ofJwk (fault : JwkFault) : Failure :=
  match fault with
  | .json reason => .jsonConstructionFailed reason
  | _ => .thumbprintComputationFailure fault.message

def ofJws (fault : Jws.Fault) : Failure :=
  .tokenSigningFailure fault

end Failure

end BoundKey
