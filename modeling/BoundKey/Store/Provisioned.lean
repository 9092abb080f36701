import BoundKey.Store.Interface

set_option autoImplicit false

/-!
A key store whose keys are made elsewhere. A generation takes the next item of a
list that was provided beforehand, which may also be a failure; while a reading
fault is set, the entry is there but cannot be read.
-/

namespace BoundKey

inductive Provision where
  | entry (entry : KeyEntry)
  | fault (fault : StoreFault)
  | breakOff
  deriving DecidableEq, Repr

structure ProvisionedStore where
  keyAlias : String
  entry : Option KeyEntry
  provisions : List Provision
  readingFault : Option StoreFault
  lastParameters : Option GenerationParameters
  deriving DecidableEq, Repr

namespace ProvisionedStore

def empty (keyAlias : String) (provisions : List Provision) : ProvisionedStore :=
  ⟨keyAlias, none, provisions, none, none⟩

def exhausted : StoreFault :=
  .providerUnavailable "script exhausted"

def takeProvision (store : ProvisionedStore) : Provision × ProvisionedStore :=
  match store.provisions with
  | [] => (.fault exhausted, store)
  | next :: rest => (next, { store with provisions := rest })

/-- Generates a key: the parameters are remembered, and a new entry replaces the
old one. -/
def generate (store : ProvisionedStore) (parameters : GenerationParameters) :
    Option (Except StoreFault KeyEntry) × ProvisionedStore :=
  match ({ store with
      lastParameters := some parameters } : ProvisionedStore).takeProvision with
  | (.entry entry, rest) => (some (.ok entry), { rest with entry := some entry })
  | (.fault fault, rest) => (some (.error fault), rest)
  | (.breakOff, rest) => (none, rest)

def read (store : ProvisionedStore) : Except StoreFault (Option KeyEntry) :=
  match store.readingFault with
  | some fault => .error fault
  | none => .ok store.entry

def visible (store : ProvisionedStore) : Option KeyEntry :=
  store.read.toOption.join

def handler : Program.Handler StoreInterface ProvisionedStore
  | store, .isPresent => (some store.visible.isSome, store, [])
  | store, .hasThumbprint thumbprint =>
      (some (store.visible.any (·.hasThumbprint thumbprint)), store, [])
  | store, .generate parameters =>
    let (answer, rest) := store.generate parameters
    (answer, rest, [])
  | store, .entry =>
    let answer := do
      match ← store.read with
      | some entry => .ok entry
      | none => .error (.notFound store.keyAlias)
    (some answer, store, [])
  | store, .creationDate =>
      (some (store.read.map (·.map (·.createdAt))), store, [])
  | store, .certificates =>
      (some (store.read.map fun entry => (entry.map (·.certificates)).getD []),
        store, [])
  | store, .clear =>
    if store.readingFault.isSome then (some false, store, [])
    else (some store.entry.isSome, { store with entry := none }, [])

end ProvisionedStore

end BoundKey
