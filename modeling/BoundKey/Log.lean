import BoundKey.Failure
import BoundKey.Marker

set_option autoImplicit false

/-!
What is logged. An event says which thing happened and holds its particulars;
its level, its wording and its named fields follow from the kind of event.
-/

namespace BoundKey

inductive Method where
  | generateKey
  | creationDate
  | hardwareState
  | thumbprint
  | certificateChain
  | publicKey
  | sign
  | encrypt
  | decrypt
  | decryptText
  | mintAccessToken
  | mintRequest
  | requestConfirmation
  | challengeResponse
  deriving DecidableEq, Repr

def Method.name : Method → String
  | generateKey => "generate_asymmetric_key"
  | creationDate => "get_asymmetric_key_creation_date"
  | hardwareState => "get_secure_hardware_state"
  | thumbprint => "get_asymmetric_key_thumbprint"
  | certificateChain => "get_certificate_chain"
  | publicKey => "get_public_key"
  | sign => "sign"
  | encrypt => "encrypt"
  | decrypt => "decrypt"
  | decryptText => "decrypt_string"
  | mintAccessToken => "mint_signed_access_token"
  | mintRequest => "mint_signed_http_request"
  | requestConfirmation => "get_request_confirmation"
  | challengeResponse => "challenge_response_sign"

inductive Level where
  | debug
  | info
  | warn
  | error
  deriving DecidableEq, Repr

def Level.name : Level → String
  | debug => "DEBUG"
  | info => "INFO"
  | warn => "WARN"
  | error => "ERROR"

inductive LogEvent where
  | operationFailed (method : Method) (failure : Failure)
  | entryNotReadable (keyAlias : String) (fault : StoreFault)
  | verificationFailed (failure : Failure)
  | signatureNotBase64
  | keyGenerated (keyAlias : String)
  | keyCleared (keyAlias : String) (cleared : Bool)
  | entryInstalled (keyAlias : String) (keySize : Nat)
  | marked (marker : Marker)
  | poolStarted (size : Nat)
  | poolShuttingDown (size : Nat)
  | poolStillShared
  | taskDropped
  | answeringChallenge (audience : String)
  deriving DecidableEq, Repr

inductive FieldValue where
  | text (value : String)
  | number (value : Nat)
  | flag (value : Bool)
  deriving DecidableEq, Repr

namespace LogEvent

def level : LogEvent → Level
  | operationFailed .. => .error
  | entryNotReadable .. | verificationFailed .. | signatureNotBase64
  | poolStillShared | taskDropped => .warn
  | keyGenerated .. | keyCleared .. => .info
  | entryInstalled .. | marked .. | poolStarted .. | poolShuttingDown ..
  | answeringChallenge .. => .debug

def message : LogEvent → String
  | operationFailed .. => "Device key operation failed"
  | entryNotReadable .. => "Device key entry not readable"
  | verificationFailed .. => "Signature verification failed"
  | signatureNotBase64 => "Signature is not valid base64"
  | keyGenerated .. => "Device key generated"
  | keyCleared .. => "Device key cleared"
  | entryInstalled .. => "Installed device key entry"
  | marked .. => "Perf marker"
  | poolStarted .. => "Worker pool started"
  | poolShuttingDown .. => "Worker pool shutting down"
  | poolStillShared => "Worker pool still shared, not shut down"
  | taskDropped => "Task dropped before completion"
  | answeringChallenge .. => "Signing client certificate challenge response"

def fields : LogEvent → List (String × FieldValue)
  | operationFailed method failure =>
    [("method", .text method.name), ("code", .text failure.code),
      ("error", .text failure.message)]
  | entryNotReadable keyAlias fault =>
      [("alias", .text keyAlias), ("error", .text fault.message)]
  | verificationFailed failure =>
      [("code", .text failure.code), ("error", .text failure.message)]
  | signatureNotBase64 => [("error", .text Base64.refusal)]
  | keyGenerated keyAlias => [("alias", .text keyAlias)]
  | keyCleared keyAlias cleared =>
      [("alias", .text keyAlias), ("cleared", .flag cleared)]
  | entryInstalled keyAlias keySize =>
      [("alias", .text keyAlias), ("key_size", .number keySize)]
  | marked marker => [("marker", .text marker.name)]
  | poolStarted size | poolShuttingDown size => [("size", .number size)]
  | poolStillShared | taskDropped => []
  | answeringChallenge audience => [("audience", .text audience)]

end LogEvent

/-- What an operation lets others see while it runs: a log event, or a marker
for the marker sink. -/
inductive Signal where
  | log (event : LogEvent)
  | mark (marker : Marker)
  deriving DecidableEq, Repr

end BoundKey
