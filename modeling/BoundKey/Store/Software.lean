import BoundKey.Certificate.SelfSigned
import BoundKey.Rsa.Generation
import BoundKey.Store.Interface

set_option autoImplicit false

/-!
A key store in memory. It makes real keys, each with a certificate signed by
itself, and holds the latest one until it is cleared. A generation that fails
leaves the entry as it was.
-/

namespace BoundKey.SoftwareStore

def minKeySize : Nat := 2048

def maxKeySize : Nat := 4096

/-- What the surroundings supply for a generation: random choices and the
time. -/
structure Supply where
  tape : Tape
  now : Instant

/-- How a fault of a certificate shows; nothing when the generation breaks
off. -/
def certificateFault (fault : Certificate.Fault) : Option StoreFault :=
  match fault with
  | .beyondClock => none
  | .signing _ => some (.providerUnavailable fault.message)
  | _ => some (.invalidParameters fault.message)

/-- A fresh entry, the fault that prevents it, or nothing when the generation
breaks off. The size is looked at first, then the key is made, then its
certificate. -/
def freshEntry (supply : Supply) (parameters : GenerationParameters) :
    Option (Except StoreFault KeyEntry) :=
  if parameters.keySize < minKeySize ∨ maxKeySize < parameters.keySize then
    some (.error (.keySizeUnsupported parameters.keySize))
  else
    match Rsa.PrivateKey.generate supply.tape parameters.keySize with
    | .error fault => some (.error (.invalidParameters fault.message))
    | .ok key =>
      match Certificate.selfSigned key parameters.commonName parameters.validity
        supply.now with
      | .error fault => (certificateFault fault).map .error
      | .ok certificate =>
          some (.ok ⟨key, [certificate], supply.now.seconds, .software⟩)

def handler (keyAlias : String) (supply : Supply) :
    Program.Handler StoreInterface (Option KeyEntry)
  | present, .isPresent => (some present.isSome, present, [])
  | present, .hasThumbprint thumbprint =>
    (some (present.any (·.hasThumbprint thumbprint)), present, [])
  | present, .generate parameters =>
    match freshEntry supply parameters with
    | some (.ok entry) =>
      (some (.ok entry), some entry,
        [.log (.entryInstalled keyAlias parameters.keySize)])
    | answer => (answer, present, [])
  | present, .entry =>
    match present with
    | some entry => (some (.ok entry), present, [])
    | none => (some (.error (.notFound keyAlias)), present, [])
  | present, .creationDate =>
      (some (.ok (present.map (·.createdAt))), present, [])
  | present, .certificates =>
      (some (.ok ((present.map (·.certificates)).getD [])), present, [])
  | present, .clear => (some present.isSome, none, [])

end BoundKey.SoftwareStore
