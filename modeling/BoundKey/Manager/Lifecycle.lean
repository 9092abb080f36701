import BoundKey.Manager.Basic

set_option autoImplicit false

/-!
The life of a key: generation, presence, identity, age, certificates and
removal.
-/

namespace BoundKey.Manager

def isPresent : Program StoreInterface Bool :=
  StoreCall.isPresent.perform

def isPresentWithThumbprint (thumbprint : String) : Program StoreInterface Bool :=
  (StoreCall.hasThumbprint (Utf8.encode thumbprint)).perform

/-- Generates a key and yields its thumbprint. Markers stand at the beginning
and at the end, also when the generation breaks off. -/
def generate (manager : Manager) : StoreOperation String :=
  ExceptT.mk (.emit (.mark .generationStart)
    (Program.ensuring (.mark .generationEnd) (ExceptT.run do
      let entry ← (ask (.generate manager.parameters) id).reporting .generateKey
      Operation.log (.keyGenerated manager.keyAlias)
      (Operation.ofExcept (manager.thumbprintOf entry)).reporting .generateKey)))

def creationDate : StoreOperation (Option Int) :=
  (ask .creationDate id).reporting .creationDate

def clear (manager : Manager) : Program StoreInterface Bool := do
  let cleared ← StoreCall.clear.perform
  Program.log (.keyCleared manager.keyAlias cleared)
  pure cleared

def hardwareState (manager : Manager) : StoreOperation HardwareState :=
  Operation.reporting .hardwareState do
    let entry ← manager.entry
    pure (.ofSecurity entry.security)

def thumbprint (manager : Manager) : StoreOperation String :=
  Operation.reporting .thumbprint do
    let entry ← manager.entry
    Operation.ofExcept (manager.thumbprintOf entry)

def certificates : StoreOperation (List Certificate) :=
  (ask .certificates id).reporting .certificateChain

end BoundKey.Manager
