import BoundKey.Failure

set_option autoImplicit false

/-!
Faults as others are told of them: the name of the kind of fault and its
wording. A kind's name together with the particulars also names a fault, for
those who set up what a store or a primitive comes to.
-/

namespace BoundKey

structure FaultReport where
  kind : String
  message : Option String
  deriving DecidableEq, Repr

def FaultReport.members (report : FaultReport) : List (String × Json.Value) :=
  ("error", .string report.kind) ::
    (report.message.map fun message => ("message", .string message)).toList

def FaultReport.toValue (report : FaultReport) : Json.Value :=
  .object report.members

namespace ProviderFault

def report (fault : ProviderFault) : FaultReport :=
  let kind := match fault with
    | missingHasher _ => "MissingHasher"
    | missingSigner _ => "MissingSigner"
    | missingCipher _ => "MissingCipher"
  ⟨kind, some fault.message⟩

def ofKind? (kind detail : String) : Option ProviderFault :=
  match kind with
  | "MissingHasher" => some (missingHasher detail)
  | "MissingSigner" => some (missingSigner detail)
  | "MissingCipher" => some (missingCipher detail)
  | _ => none

end ProviderFault

namespace HasherFault

def report (fault : HasherFault) : FaultReport :=
  let kind := match fault with
    | couldNotHash => "CouldNotHash"
    | provider _ => "CryptoError"
  ⟨kind, some fault.message⟩

def ofKind? (kind detail : String) : Option HasherFault :=
  if kind = "CouldNotHash" then some couldNotHash
  else (ProviderFault.ofKind? kind detail).map provider

end HasherFault

namespace SignerFault

def report (fault : SignerFault) : FaultReport :=
  let kind := match fault with
    | provider _ => "CryptoError"
    | couldNotSign _ => "CouldNotSign"
    | couldNotExtractKeyPair => "CouldNotExtractKeyPair"
    | invalidKey _ => "InvalidKey"
    | couldNotVerify _ => "CouldNotVerify"
    | invalidSignature => "InvalidSignature"
    | missingAlgorithm _ => "MissingAlgorithm"
    | missingKey => "MissingKey"
  ⟨kind, some fault.message⟩

def ofKind? (kind detail : String) : Option SignerFault :=
  match kind with
  | "CouldNotSign" => some (couldNotSign detail)
  | "CouldNotExtractKeyPair" => some couldNotExtractKeyPair
  | "InvalidKey" => some (invalidKey detail)
  | "CouldNotVerify" => some (couldNotVerify detail)
  | "InvalidSignature" => some invalidSignature
  | "MissingAlgorithm" => some (missingAlgorithm detail)
  | "MissingKey" => some missingKey
  | _ => (ProviderFault.ofKind? kind detail).map provider

end SignerFault

namespace CipherFault

def report (fault : CipherFault) : FaultReport :=
  let kind := match fault with
    | invalidKey _ => "InvalidKey"
    | invalidParameters _ => "InvalidParameters"
    | blockSize _ => "BlockSize"
    | badPadding => "BadPadding"
    | failed _ => "Failed"
  ⟨kind, some fault.message⟩

def ofKind? (kind detail : String) : Option CipherFault :=
  match kind with
  | "InvalidKey" => some (invalidKey detail)
  | "InvalidParameters" => some (invalidParameters detail)
  | "BlockSize" => some (blockSize detail)
  | "BadPadding" => some badPadding
  | "Failed" => some (failed detail)
  | _ => none

end CipherFault

def JwkFault.report (fault : JwkFault) : FaultReport :=
  let kind := match fault with
    | encoding _ => "Encoding"
    | invalidKey _ => "InvalidKey"
    | json _ => "Json"
    | hasher _ => "Hasher"
  ⟨kind, some fault.message⟩

/-- The report of a fault of a token. Faults of JSON are not told apart. -/
def Jws.Fault.report (fault : Jws.Fault) : FaultReport :=
  match fault with
  | .couldNotFormat _ => ⟨"CouldNotFormat", some fault.message⟩
  | .couldNotSign _ => ⟨"CouldNotSign", some fault.message⟩
  | .couldNotExtract reason =>
    let shown :=
      if reason = Jws.unreadable then Jws.Fault.couldNotExtract "<json>"
      else fault
    ⟨"CouldNotExtract", some shown.message⟩

namespace StoreFault

def report (fault : StoreFault) : FaultReport :=
  let kind := match fault with
    | notFound _ => "NotFound"
    | unavailable _ => "Unavailable"
    | protectionInvalid _ => "ProtectionParamsInvalid"
    | keySizeUnsupported _ => "KeySizeUnsupported"
    | algorithmUnavailable _ => "AlgorithmUnavailable"
    | providerUnavailable _ => "ProviderUnavailable"
    | invalidParameters _ => "InvalidParameters"
    | thumbprint _ => "Thumbprint"
  ⟨kind, some fault.message⟩

/-- The store's fault of a kind; the size counts where the fault is about
one. -/
def ofKind? (size : Nat) (kind detail : String) : Option StoreFault :=
  match kind with
  | "NotFound" => some (notFound detail)
  | "Unavailable" => some (unavailable detail)
  | "ProtectionParamsInvalid" => some (protectionInvalid detail)
  | "KeySizeUnsupported" => some (keySizeUnsupported size)
  | "AlgorithmUnavailable" => some (algorithmUnavailable detail)
  | "ProviderUnavailable" => some (providerUnavailable detail)
  | "InvalidParameters" => some (invalidParameters detail)
  | "Thumbprint" => some (thumbprint detail)
  | _ => none

end StoreFault

namespace Failure

def report (failure : Failure) : FaultReport :=
  ⟨failure.code, some failure.message⟩

def kind : Failure → String
  | storageUnavailable _ => "StorageUnavailable"
  | keySizeUnsupported _ => "KeySizeUnsupported"
  | algorithmUnsupported _ => "AlgorithmUnsupported"
  | paddingUnsupported _ => "PaddingUnsupported"
  | hardwareProviderUnavailable _ => "HardwareProviderUnavailable"
  | invalidAlgorithmParameters _ => "InvalidAlgorithmParameters"
  | invalidKey _ => "InvalidKey"
  | keyMissing _ => "KeyMissing"
  | protectionParametersInvalid _ => "ProtectionParametersInvalid"
  | signingFailure _ => "SigningFailure"
  | thumbprintComputationFailure _ => "ThumbprintComputationFailure"
  | encryptionPaddingViolation _ => "EncryptionPaddingViolation"
  | blockSizeMismatch _ => "BlockSizeMismatch"
  | cipherFailure _ => "CipherFailure"
  | jsonConstructionFailed _ => "JsonConstructionFailed"
  | tokenSigningFailure _ => "JwtSigningFailure"
  | certificateEncodingError _ => "CertificateEncodingError"
  | unknownExportFormat _ => "UnknownExportFormat"
  | argumentInvalid _ => "ArgumentInvalid"
  | deviceCertificateSigning _ => "DeviceCertificateSigning"
  | interruptedWhileWaiting => "InterruptedWhileWaiting"
  | timedOut => "TimedOut"
  | workerPoolUnavailable _ => "WorkerPoolUnavailable"

def ofKind? (kind detail : String) : Option Failure :=
  match kind with
  | "AlgorithmUnsupported" => some (algorithmUnsupported detail)
  | "PaddingUnsupported" => some (paddingUnsupported detail)
  | "InvalidAlgorithmParameters" => some (invalidAlgorithmParameters detail)
  | "InvalidKey" => some (invalidKey detail)
  | "KeyMissing" => some (keyMissing detail)
  | "ThumbprintComputationFailure" => some (thumbprintComputationFailure detail)
  | "EncryptionPaddingViolation" => some (encryptionPaddingViolation detail)
  | "BlockSizeMismatch" => some (blockSizeMismatch detail)
  | "CipherFailure" => some (cipherFailure detail)
  | "JsonConstructionFailed" => some (jsonConstructionFailed detail)
  | "CertificateEncodingError" => some (certificateEncodingError detail)
  | "UnknownExportFormat" => some (unknownExportFormat detail)
  | "ArgumentInvalid" => some (argumentInvalid detail)
  | "InterruptedWhileWaiting" => some interruptedWhileWaiting
  | "TimedOut" => some timedOut
  | "WorkerPoolUnavailable" => some (workerPoolUnavailable detail)
  | _ => none

end Failure

end BoundKey
