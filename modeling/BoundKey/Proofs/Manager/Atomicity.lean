import BoundKey.Proofs.Log
import BoundKey.Proofs.Manager.Recognition
import BoundKey.Proofs.Rsa.Fresh

set_option autoImplicit false

/-!
Generation, all or nothing. The store writes its slot after everything that may
fail there, so a generation that it refuses or that breaks off leaves the slot
and announces nothing. After the write only the thumbprint may fail, with a
provider that has no hasher for it or one that fails; then the fresh entry stays
in the slot although the operation fails. The two marks enclose all of it.
-/

namespace BoundKey

/-! ### Fresh entries -/

/-- An entry that the store made in one generation: a key by the random choices
that were supplied, with a modulus of the size that was asked for, and the
certificate of this key. -/
structure SoftwareStore.Makes (supply : Supply)
    (parameters : GenerationParameters) (entry : KeyEntry) : Prop where
  key : Rsa.PrivateKey.generate supply.tape parameters.keySize =
    .ok entry.privateKey
  sized : bitLength entry.privateKey.modulus = parameters.keySize
  certificate : ∃ certificate, entry.certificates = [certificate] ∧
    Certificate.selfSigned entry.privateKey parameters.commonName
      parameters.validity supply.now = .ok certificate
  createdAt : entry.createdAt = supply.now.seconds
  security : entry.security = .software

theorem SoftwareStore.makes_of_freshEntry
    {supply : Supply} {parameters : GenerationParameters} {entry : KeyEntry}
    (made : freshEntry supply parameters = some (.ok entry)) :
    Makes supply parameters entry := by
  rcases freshEntry_eq_ok_iff.1 made with ⟨least, _, generated, certificate,
    certified, whole⟩
  have enough : 4 ≤ parameters.keySize := Nat.le_trans (by decide) least
  rw [whole]
  exact ⟨generated, Rsa.PrivateKey.bitLength_of_generate enough generated,
    ⟨certificate, rfl, certified⟩, rfl, rfl⟩

def Announced (signals : List Signal) : Prop :=
  ∃ event, Signal.log event ∈ signals ∧ event.level = .info ∧
    event.message = "Device key generated"

namespace Manager

variable {manager : Manager}

/-- No thumbprint is made of a key: the provider has no hasher for it, or the
one it has fails. -/
def ThumbprintFails (manager : Manager) (key : Rsa.PublicKey)
    (failure : Failure) : Prop :=
  (∃ cause, manager.provider.hasher "sha-256" = .error cause ∧
    failure = .algorithmUnsupported cause.message) ∨
    ∃ hasher cause, manager.provider.hasher "sha-256" = .ok hasher ∧
      hasher.hashText (Utf8.encode (Jwk.ofPublicKey key).canonicalText) =
        .error cause ∧
      failure = .thumbprintComputationFailure (JwkFault.hasher cause).message

theorem thumbprintFails_of_error {entry : KeyEntry} {failure : Failure}
    (failed : manager.thumbprintOf entry = .error failure) :
    manager.ThumbprintFails entry.publicKey failure := by
  rw [thumbprintOf, hasher] at failed
  change Except.bind (Except.mapError _ (manager.provider.hasher "sha-256")) _ =
    _ at failed
  cases found : manager.provider.hasher "sha-256" with
  | error cause =>
      rw [found] at failed
      exact .inl ⟨cause, found, (Except.error.inj failed).symm⟩
  | ok hasher =>
      rw [found] at failed
      change Except.mapError _ (Except.mapError _ (hasher.hashText _)) =
        _ at failed
      cases hashed : hasher.hashText
        (Utf8.encode (Jwk.ofPublicKey entry.publicKey).canonicalText) with
      | error cause =>
          rw [hashed] at failed
          exact .inr ⟨hasher, cause, found, hashed,
            (Except.error.inj failed).symm⟩
      | ok text =>
          rw [hashed] at failed
          cases failed

/-! ### What is seen of a generation -/

def generated (manager : Manager) (supply : SoftwareStore.Supply)
    (slot : Option KeyEntry) :
    Option (Except Failure String) × Option KeyEntry × List Signal :=
  Program.run (SoftwareStore.handler manager.keyAlias supply) slot
    manager.generate.run

def generationSignals (manager : Manager) :
    Option (Except StoreFault KeyEntry) → List Signal
  | none => []
  | some (.error fault) => [.log (.operationFailed .generateKey (.ofStore fault))]
  | some (.ok entry) =>
    .log (.entryInstalled manager.keyAlias manager.parameters.keySize) ::
      .log (.keyGenerated manager.keyAlias) ::
      match manager.thumbprintOf entry with
      | .ok _ => []
      | .error failure => [.log (.operationFailed .generateKey failure)]

private theorem run_asked (manager : Manager) (supply : SoftwareStore.Supply)
    (slot : Option KeyEntry) :
    Program.run (SoftwareStore.handler manager.keyAlias supply) slot
        ((ask (.generate manager.parameters) id).reporting .generateKey).run =
      match SoftwareStore.freshEntry supply manager.parameters with
      | none => (none, slot, [])
      | some (.error fault) =>
        (some (.error (.ofStore fault)), slot,
          [.log (.operationFailed .generateKey (.ofStore fault))])
      | some (.ok entry) =>
        (some (.ok entry), some entry,
          [.log (.entryInstalled manager.keyAlias
            manager.parameters.keySize)]) := by
  change Program.run (SoftwareStore.handler manager.keyAlias supply) slot
    (.call (.generate manager.parameters) _) = _
  rw [Program.run_call, SoftwareStore.handler]
  cases SoftwareStore.freshEntry supply manager.parameters with
  | none => rfl
  | some made =>
      cases made with
      | error fault => rfl
      | ok entry => rfl

private theorem signals_announced (manager : Manager) {σ : Type}
    (handler : Program.Handler StoreInterface σ)
    (state : σ) (entry : KeyEntry) :
    Program.signals handler state
      (Operation.log (.keyGenerated manager.keyAlias) >>= fun _ =>
        (Operation.ofExcept (manager.thumbprintOf entry)).reporting
          .generateKey).run =
      .log (.keyGenerated manager.keyAlias) ::
        match manager.thumbprintOf entry with
        | .ok _ => []
        | .error failure => [.log (.operationFailed .generateKey failure)] := by
  cases manager.thumbprintOf entry with
  | ok thumbprint => rfl
  | error failure => rfl

theorem signals_generate (manager : Manager) (supply : SoftwareStore.Supply)
    (slot : Option KeyEntry) :
    (manager.generated supply slot).2.2 = .mark .generationStart ::
      (manager.generationSignals (SoftwareStore.freshEntry supply
        manager.parameters) ++ [.mark .generationEnd]) := by
  change Signal.mark .generationStart ::
    Program.signals (SoftwareStore.handler manager.keyAlias supply) slot
    (Program.ensuring (.mark .generationEnd)
      (((ask (.generate manager.parameters) id).reporting .generateKey).run >>=
        ExceptT.bindCont fun entry =>
        Operation.log (.keyGenerated manager.keyAlias) >>= fun _ =>
          (Operation.ofExcept (manager.thumbprintOf entry)).reporting
            .generateKey)) = _
  rw [Program.signals_ensuring, Program.signals, Program.run_bind, run_asked]
  cases SoftwareStore.freshEntry supply manager.parameters with
  | none => rfl
  | some made =>
      cases made with
      | error fault => rfl
      | ok entry =>
          exact congrArg (fun later => Signal.mark .generationStart ::
            (.log (.entryInstalled manager.keyAlias
              manager.parameters.keySize) :: later ++ [.mark .generationEnd]))
            (manager.signals_announced
              (SoftwareStore.handler manager.keyAlias supply)
              (some entry) entry)

/-- A fresh key is announced exactly if the store has made an entry. -/
theorem announced_iff (manager : Manager) (supply : SoftwareStore.Supply)
    (slot : Option KeyEntry) : Announced (manager.generated supply slot).2.2 ↔
      ∃ entry, SoftwareStore.freshEntry supply manager.parameters =
        some (.ok entry) := by
  rw [signals_generate]
  cases SoftwareStore.freshEntry supply manager.parameters with
  | none =>
      constructor
      · rintro ⟨event, listed, _⟩
        simp [generationSignals] at listed
      · exact nofun
  | some made =>
      cases made with
      | error fault =>
          constructor
          · rintro ⟨event, listed, serious, _⟩
            simp [generationSignals] at listed
            subst listed
            cases serious
          · exact nofun
      | ok entry =>
          constructor
          · exact fun _ => ⟨entry, rfl⟩
          · intro _
            exact ⟨.keyGenerated manager.keyAlias, by simp [generationSignals],
              rfl, rfl⟩

theorem unmarked_generationSignals
    (manager : Manager) (answer : Option (Except StoreFault KeyEntry))
    (marker : Marker) :
    Signal.mark marker ∉ manager.generationSignals answer := by
  rcases answer with _ | ⟨fault | entry⟩
  · simp [generationSignals]
  · simp [generationSignals]
  · simp only [generationSignals]
    cases manager.thumbprintOf entry <;> simp

/-- A generation either writes a fresh entry and goes on to its thumbprint, or
ends without one and leaves the slot. -/
theorem generated_cases (manager : Manager) (supply : SoftwareStore.Supply)
    (slot : Option KeyEntry) :
    (∃ entry, SoftwareStore.freshEntry supply manager.parameters =
      some (.ok entry) ∧
      (manager.generated supply slot).1 = some (manager.thumbprintOf entry) ∧
      (manager.generated supply slot).2.1 = some entry ∧
      Announced (manager.generated supply slot).2.2) ∨
    ((∀ thumbprint, (manager.generated supply slot).1 ≠ some (.ok thumbprint)) ∧
      (manager.generated supply slot).2.1 = slot ∧
      ¬ Announced (manager.generated supply slot).2.2) := by
  have announced := manager.announced_iff supply slot
  rcases SoftwareStore.run_generate supply slot manager with ⟨value, left⟩
  change (manager.generated supply slot).1 = _ at value
  change (manager.generated supply slot).2.1 = _ at left
  rw [ManagerCall.leaves] at left
  rw [announced, value, left]
  cases SoftwareStore.freshEntry supply manager.parameters with
  | none =>
      refine .inr ⟨?_, rfl, ?_⟩
      · intro thumbprint same
        cases same
      · rintro ⟨entry, same⟩
        cases same
  | some answer =>
      cases answer with
      | error fault =>
          refine .inr ⟨?_, rfl, ?_⟩
          · intro thumbprint same
            cases same
          · rintro ⟨entry, same⟩
            cases same
      | ok entry => exact .inl ⟨entry, rfl, rfl, rfl, entry, rfl⟩

/-- A generation is all or nothing up to its write. Where it yields a
thumbprint, this is the one of the fresh key in the slot. Where it fails, either
the slot is as it was and no fresh key was announced, or the entry was made,
announced and put into the slot, and only its thumbprint failed; with the
standard provider this does not happen. Where it breaks off, the slot is as it
was. In each case one mark is sent before everything else and one after it. -/
theorem generation_atomic (manager : Manager) (supply : SoftwareStore.Supply)
    (slot : Option KeyEntry) :
    (∀ thumbprint, (manager.generated supply slot).1 = some (.ok thumbprint) →
      ∃ entry, (manager.generated supply slot).2.1 = some entry ∧
        SoftwareStore.Makes supply manager.parameters entry ∧
        manager.Hashes entry.publicKey thumbprint ∧
        Announced (manager.generated supply slot).2.2) ∧
    (∀ failure, (manager.generated supply slot).1 = some (.error failure) →
      ((manager.generated supply slot).2.1 = slot ∧
        ¬ Announced (manager.generated supply slot).2.2) ∨
      ∃ entry, (manager.generated supply slot).2.1 = some entry ∧
        SoftwareStore.Makes supply manager.parameters entry ∧
        manager.ThumbprintFails entry.publicKey failure ∧
        Announced (manager.generated supply slot).2.2) ∧
    ((manager.generated supply slot).1 = none →
      (manager.generated supply slot).2.1 = slot ∧
        ¬ Announced (manager.generated supply slot).2.2) ∧
    (manager.provider = .standard →
      ∀ failure, (manager.generated supply slot).1 = some (.error failure) →
      (manager.generated supply slot).2.1 = slot ∧
        ¬ Announced (manager.generated supply slot).2.2) ∧
    ∃ middle, (manager.generated supply slot).2.2 =
        .mark .generationStart :: (middle ++ [.mark .generationEnd]) ∧
      ∀ marker, Signal.mark marker ∉ middle := by
  refine ⟨?_, ?_, ?_, ?_, _, manager.signals_generate supply slot,
    manager.unmarked_generationSignals _⟩
  · intro thumbprint answered
    rcases manager.generated_cases supply slot with ⟨entry, made, value, stands,
      announced⟩ | ⟨unnamed, _⟩
    · rw [value] at answered
      exact ⟨entry, stands, SoftwareStore.makes_of_freshEntry made,
        thumbprintOf_eq_ok_iff.1 (Option.some.inj answered), announced⟩
    · exact absurd answered (unnamed thumbprint)
  · intro failure answered
    rcases manager.generated_cases supply slot with ⟨entry, made, value, stands,
      announced⟩ | ⟨_, kept⟩
    · rw [value] at answered
      exact .inr ⟨entry, stands, SoftwareStore.makes_of_freshEntry made,
        thumbprintFails_of_error (Option.some.inj answered), announced⟩
    · exact .inl kept
  · intro abandoned
    rcases manager.generated_cases supply slot with ⟨entry, _,
      value, _⟩ | ⟨_, kept⟩
    · rw [value] at abandoned
      cases abandoned
    · exact kept
  · intro standard failure answered
    rcases manager.generated_cases supply slot with ⟨entry, _,
      value, _⟩ | ⟨_, kept⟩
    · rw [value, thumbprintOf_standard standard] at answered
      cases answered
    · exact kept

def hashingManager : Manager :=
  { bareManager with provider := .standard }

def shortManager : Manager :=
  { standardManager with parameters := ⟨1024, "CN=device", 3600⟩ }

/-- The case of three generations by one tape over a slot that holds a key.
Without a hasher the generation fails after the write, with the standard
provider it succeeds, and with too few bits it fails before the write. -/
theorem generation_atomic_device :
    ∃ (supply : SoftwareStore.Supply) (failure : Failure) (thumbprint : String)
    (entry other : KeyEntry),
    (bareManager.generated supply (some mersenneEntry)).1 =
      some (.error failure) ∧
    (bareManager.generated supply (some mersenneEntry)).2.1 = some entry ∧
    bareManager.ThumbprintFails entry.publicKey failure ∧
    (hashingManager.generated supply (some mersenneEntry)).1 =
      some (.ok thumbprint) ∧
    (hashingManager.generated supply (some mersenneEntry)).2.1 = some other ∧
    bitLength other.privateKey.modulus = 2048 ∧
    (shortManager.generated supply (some mersenneEntry)).1 =
      some (.error (.ofStore (.keySizeUnsupported 1024))) ∧
    (shortManager.generated supply (some mersenneEntry)).2.1 =
      some mersenneEntry := by
  obtain ⟨fresh, made⟩ := SoftwareStore.freshEntry_primeTape
  -- From here on the supply has a name only, so that no step runs the
  -- generation again.
  generalize (⟨Rsa.primeTape, ⟨0⟩⟩ : SoftwareStore.Supply) = supply at made
  have bare : (bareManager.generated supply (some mersenneEntry)).1 =
      some (bareManager.thumbprintOf fresh) :=
    (SoftwareStore.run_generate supply _ bareManager).1.trans
      (congrArg (Option.map _) made)
  have hashing : (hashingManager.generated supply (some mersenneEntry)).1 =
      some (hashingManager.thumbprintOf fresh) :=
    (SoftwareStore.run_generate supply _ hashingManager).1.trans
      (congrArg (Option.map _) made)
  have short : (shortManager.generated supply (some mersenneEntry)).1 =
      some (.error (.ofStore (.keySizeUnsupported 1024))) :=
    (SoftwareStore.run_generate supply _ shortManager).1
  rw [thumbprintOf_standard rfl] at hashing
  rcases (generation_atomic bareManager supply (some mersenneEntry)).2.1
    _ bare with ⟨_, silent⟩ | ⟨entry, stands, _, fails, _⟩
  · exact absurd ((bareManager.announced_iff supply _).2 ⟨fresh, made⟩) silent
  · rcases (generation_atomic hashingManager supply (some mersenneEntry)).1
      _ hashing with ⟨other, holds, makes, _⟩
    have kept :=
      (generation_atomic shortManager supply (some mersenneEntry)).2.2.2.1 rfl
        _ short
    exact ⟨supply, _, _, entry, other, bare, stands, fails, hashing, holds,
      makes.sized, short, kept.1⟩

end Manager

end BoundKey
