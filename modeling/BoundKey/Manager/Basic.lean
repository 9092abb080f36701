import BoundKey.Crypto.Registry
import BoundKey.Store.Interface

set_option autoImplicit false

/-!
The manager of a device's key. It owns no key itself: every operation asks the
store for the entry once and works on the answer.
-/

namespace BoundKey

structure Manager where
  keyAlias : String
  provider : CryptoProvider
  parameters : GenerationParameters

abbrev StoreOperation (α : Type) :=
  Operation StoreInterface α

namespace Manager

def ask {α : Type} (request : StoreCall)
    (answered : StoreCall.Answer request → Except StoreFault α) :
    StoreOperation α :=
  ExceptT.mk do
    let answer ← request.perform
    pure ((answered answer).mapError Failure.ofStore)

/-- The entry of the store; that it cannot be read is logged. -/
def entry (manager : Manager) : StoreOperation KeyEntry :=
  ExceptT.mk do
    match ← StoreCall.entry.perform with
    | .ok found => pure (.ok found)
    | .error fault =>
      Program.log (.entryNotReadable manager.keyAlias fault)
      pure (.error (.ofStore fault))

def hasher (manager : Manager) : Except Failure Hasher :=
  (manager.provider.hasher thumbprintHasher).mapError fun fault =>
    .algorithmUnsupported fault.message

def signer (manager : Manager) (algorithm : SigningAlgorithm) :
    Except Failure Signer :=
  (manager.provider.signer algorithm.name).mapError fun fault =>
    .algorithmUnsupported fault.message

def cipher (manager : Manager) (algorithm : CipherAlgorithm) :
    Except Failure Cipher :=
  (manager.provider.cipher algorithm.name).mapError fun fault =>
    .paddingUnsupported fault.message

def thumbprintOf (manager : Manager) (entry : KeyEntry) :
    Except Failure String := do
  let hasher ← manager.hasher
  ((Jwk.ofPublicKey entry.publicKey).thumbprint hasher).mapError .ofJwk

end Manager

end BoundKey
