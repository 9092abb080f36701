import BoundKey.Proofs.Jwk.RoundTrip
import BoundKey.Proofs.Manager.Work
import BoundKey.Proofs.Rsa.PublicKeyInfo

set_option autoImplicit false

/-!
Public keys handed out. Either format is read as the key that the store holds,
and as no other; so two managers hand out one text for two keys only if these
are the same key.
-/

namespace BoundKey.Manager

/-- What a text says in each format: the JSON form of a key without use and
identifier, or the base 64 text of the encoding that certificates use. -/
def Denotes (text : String) (key : Rsa.PublicKey) : PublicKeyFormat → Prop
  | .jwk => ∃ form : Jwk, Json.decode? (Utf8.encode text) = some form ∧
      form.use = none ∧ form.keyId = none ∧
      form.toPublicKey = .ok key
  | .subjectPublicKeyInfo =>
      ∃ der, text = Base64.encode .padded der ∧ key.IsInfo der

theorem Denotes.unique {text : String} {key other : Rsa.PublicKey}
    {format : PublicKeyFormat} (first : Denotes text key format)
    (second : Denotes text other format) : key = other := by
  cases format with
  | jwk =>
      obtain ⟨form, read, _, _, denotes⟩ := first
      obtain ⟨otherForm, otherRead, _, _, otherDenotes⟩ := second
      cases read.symm.trans otherRead
      exact Except.ok.inj (denotes.symm.trans otherDenotes)
  | subjectPublicKeyInfo =>
      obtain ⟨der, written, isInfo⟩ := first
      obtain ⟨otherDer, otherWritten, otherIsInfo⟩ := second
      have same : der = otherDer :=
        Base64.encode_inj.1 (written.symm.trans otherWritten)
      rw [← same] at otherIsInfo
      exact isInfo.unique otherIsInfo

theorem denotes_exported {entry : KeyEntry}
    (usable : Rsa.PublicKey.ofParts entry.publicKey.modulus
      entry.publicKey.exponent = .ok entry.publicKey)
    (format : PublicKeyFormat) :
    Denotes (exported format entry) entry.publicKey format := by
  cases format with
  | jwk =>
      exact ⟨_, Jwk.decode?_toJson _, rfl, rfl,
        Jwk.toPublicKey_ofPublicKey usable⟩
  | subjectPublicKeyInfo => exact ⟨_, rfl, Rsa.PublicKey.isInfo_toDer usable⟩

theorem ofName?_name (format : PublicKeyFormat) :
    PublicKeyFormat.ofName? format.name = some format := by
  cases format with
  | _ => rfl

theorem run_publicKey {σ : Type} {handler : Program.Handler StoreInterface σ}
    {state : σ} {entry : KeyEntry}
    (held : (handler state .entry).1 = some (.ok entry)) (manager : Manager)
    (format : PublicKeyFormat) :
    (Program.run handler state (manager.publicKey format.name).run).1 =
      some (.ok (exported format entry)) := by
  rw [(manager.works_publicKey (ofName?_name format)).value, held]
  rfl

/-- A store that holds a usable key hands it out in both formats, and in neither
hands out the text of another key. -/
theorem exported_denotes_key {σ : Type}
    {handler : Program.Handler StoreInterface σ} {state : σ} {entry : KeyEntry}
    (held : (handler state .entry).1 = some (.ok entry))
    (usable : Rsa.PublicKey.ofParts entry.publicKey.modulus
      entry.publicKey.exponent = .ok entry.publicKey)
    (manager : Manager) :
    (∀ format : PublicKeyFormat, ∃ text,
      (Program.run handler state (manager.publicKey format.name).run).1 =
        some (.ok text) ∧
      Denotes text entry.publicKey format) ∧
    ∀ (τ : Type) (otherHandler : Program.Handler StoreInterface τ)
      (otherState : τ) (other : KeyEntry)
      (otherManager : Manager), (otherHandler otherState .entry).1 =
        some (.ok other) →
      Rsa.PublicKey.ofParts other.publicKey.modulus other.publicKey.exponent =
        .ok other.publicKey →
      ∀ format : PublicKeyFormat,
        (Program.run handler state (manager.publicKey format.name).run).1 =
            (Program.run otherHandler otherState
              (otherManager.publicKey format.name).run).1 ↔
          entry.publicKey = other.publicKey := by
  constructor
  · intro format
    exact ⟨_, run_publicKey held manager format, denotes_exported usable format⟩
  · intro τ otherHandler otherState other otherManager otherHeld
      otherUsable format
    rw [run_publicKey held, run_publicKey otherHeld]
    constructor
    · intro same
      have text : exported format entry = exported format other :=
        Except.ok.inj (Option.some.inj same)
      have otherDenotes := denotes_exported otherUsable format
      rw [← text] at otherDenotes
      exact (denotes_exported usable format).unique otherDenotes
    · intro same
      cases format with
      | _ => rw [exported, exported, same]

def smallEntry : KeyEntry :=
  ⟨⟨3, 5, 3, 3⟩, [], 0, .software⟩

/-- The case of two stores, one with a key of two Mersenne primes and one with a
small key. -/
theorem exported_denotes_key_mersenne :
    (ProvisionedStore.handler mersenneStore .entry).1 = some (.ok mersenneEntry) ∧
    Rsa.PublicKey.ofParts Rsa.mersenneKey.publicKey.modulus
      Rsa.mersenneKey.publicKey.exponent = .ok Rsa.mersenneKey.publicKey ∧
    ∀ format : PublicKeyFormat, ∃ text,
      (Program.run ProvisionedStore.handler mersenneStore
        (standardManager.publicKey format.name).run).1 =
        some (.ok text) ∧
      Denotes text Rsa.mersenneKey.publicKey format ∧
      (Program.run ProvisionedStore.handler
        { mersenneStore with entry := some smallEntry }
        (standardManager.publicKey format.name).run).1 ≠ some (.ok text) := by
  have held : (ProvisionedStore.handler mersenneStore .entry).1 =
      some (.ok mersenneEntry) := rfl
  have usable : Rsa.PublicKey.ofParts Rsa.mersenneKey.publicKey.modulus
      Rsa.mersenneKey.publicKey.exponent = .ok Rsa.mersenneKey.publicKey := by
    decide +kernel
  have otherUsable : Rsa.PublicKey.ofParts smallEntry.publicKey.modulus
      smallEntry.publicKey.exponent = .ok smallEntry.publicKey := by
    decide +kernel
  obtain ⟨denotes, apart⟩ := exported_denotes_key held usable standardManager
  refine ⟨held, usable, ?_⟩
  intro format
  obtain ⟨text, written, denoted⟩ := denotes format
  refine ⟨text, written, denoted, ?_⟩
  intro same
  have equal :=
    (apart _ ProvisionedStore.handler
      { mersenneStore with entry := some smallEntry } smallEntry
    standardManager rfl otherUsable format).1 (written.trans same.symm)
  exact absurd (congrArg Rsa.PublicKey.exponent equal) (by decide)

end BoundKey.Manager
