import BoundKey.Config
import BoundKey.Manager.Lifecycle
import BoundKey.Manager.Request
import BoundKey.Manager.Usage
import BoundKey.Pool.Basic

set_option autoImplicit false

/-!
The whole: a manager and the pool on which its deferred operations run. A
deferred operation ends in one call of its callback, or in one answer to whoever
waits for it, also when it breaks off.
-/

namespace BoundKey

variable {interface : Interface} {α : Type}

def Program.orElse : Program interface α → Program interface α →
    Program interface α
  | .done value, _ => .done value
  | .abort, other => other
  | .emit signal rest, other => .emit signal (rest.orElse other)
  | .call request rest, other =>
      .call request fun answer => (rest answer).orElse other

namespace Operation

/-- What a callback gets of an operation. That it broke off is logged. -/
def withCallback (operation : Operation interface α) : Operation interface α :=
  ExceptT.mk (operation.run.orElse do
    Program.log .taskDropped
    pure (Job.told none))

def awaited (operation : Operation interface α) : Operation interface α :=
  ExceptT.mk (operation.run.orElse (pure (Job.told none)))

end Operation

structure Service where
  manager : Manager
  poolSize : Nat

namespace Service

/-- Sets a service up: first the pool, then the manager. It breaks off when the
configured validity has too many seconds. -/
def start (config : Config) (provider : CryptoProvider) :
    Operation interface Service := do
  let _ ← Operation.ofExcept (Pool.start (α := Unit) config.poolSize)
  Operation.log (.poolStarted config.poolSize)
  match config.generationParameters with
  | some parameters =>
      pure ⟨⟨config.keyAlias, provider, parameters⟩, config.poolSize⟩
  | none => ExceptT.mk .abort

def generateWithCallback (service : Service) : StoreOperation String :=
  service.manager.generate.withCallback

def confirmationWithCallback (service : Service) : StoreOperation String :=
  service.manager.requestConfirmation.withCallback

def awaitConfirmation (service : Service) : StoreOperation String :=
  service.manager.requestConfirmation.awaited

def shutdown (service : Service) (isShared : Bool) : Program interface Unit :=
  Program.log (if isShared then .poolStillShared
    else .poolShuttingDown service.poolSize)

end Service

end BoundKey
