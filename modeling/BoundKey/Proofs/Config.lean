import BoundKey.Proofs.Certificate.SelfSigned
import BoundKey.Proofs.Manager.Atomicity
import BoundKey.Service

set_option autoImplicit false

/-!
What a configuration comes to. Setting up and generating end with a value or a
failure, except where the span of the validity is converted: days that have too
many seconds break off the setup, and an end of validity that no clock can show
breaks off every generation that has made its key.
-/

namespace BoundKey

namespace Config

def wholeDays (config : Config) : GenerationParameters :=
  ⟨config.keySize, config.commonName, config.validityDays * daySeconds⟩

def HasSpan (config : Config) : Prop :=
  -2 ^ 63 ≤ config.wholeDays.validity ∧ config.wholeDays.validity < 2 ^ 63

variable {config : Config} {parameters : GenerationParameters}

/-- The limits are not a whole number of days, so the same number of days fits
either way. -/
theorem hasSpan_iff :
    config.HasSpan ↔ -maxValidityDays ≤ config.validityDays ∧
      config.validityDays ≤ maxValidityDays := by
  have limit : maxValidityDays = 106751991167300 := by decide
  rw [limit]
  change -2 ^ 63 ≤ config.validityDays * 86400 ∧
    config.validityDays * 86400 < 2 ^ 63 ↔ _
  omega

theorem generationParameters_eq_some_iff :
    config.generationParameters = some parameters ↔
      config.HasSpan ∧ parameters = config.wholeDays := by
  rw [generationParameters, Option.ite_none_right_eq_some,
    ← hasSpan_iff, Option.some_inj]
  exact and_congr_right fun _ => eq_comm

theorem generationParameters_eq_none_iff : config.generationParameters = none ↔
    ¬ config.HasSpan := by
  rw [generationParameters, ite_eq_right_iff,
    imp_iff_not (Option.some_ne_none _), ← hasSpan_iff]

end Config

/-! ### Generations -/

namespace SoftwareStore

variable {supply : Supply} {parameters : GenerationParameters}

/-- A key of a size within the limits is made, and its validity ends behind all
that a clock can show. -/
def Overruns (supply : Supply) (parameters : GenerationParameters) : Prop :=
  minKeySize ≤ parameters.keySize ∧ parameters.keySize ≤ maxKeySize ∧
    (∃ key, Rsa.PrivateKey.generate supply.tape parameters.keySize = .ok key) ∧
    0 ≤ parameters.validity ∧ (Certificate.maxClock : Int) <
      supply.now.seconds + parameters.validity

theorem certificateFault_eq_none_iff {fault : Certificate.Fault} :
    certificateFault fault = none ↔ fault = .beyondClock := by
  cases fault with
  | beyondClock => exact iff_of_true rfl rfl
  | _ => exact iff_of_false nofun nofun

/-- The generation of an entry breaks off in this case and in no other. -/
theorem freshEntry_eq_none_iff : freshEntry supply parameters = none ↔
    Overruns supply parameters := by
  rw [freshEntry]
  by_cases sized : parameters.keySize < minKeySize ∨
    maxKeySize < parameters.keySize
  · rw [if_pos sized]
    refine iff_of_false (Option.some_ne_none _) ?_
    rintro ⟨least, most, _⟩
    omega
  · obtain ⟨least, most⟩ := not_or.1 sized
    rw [if_neg sized]
    cases made : Rsa.PrivateKey.generate supply.tape parameters.keySize with
    | error fault =>
        refine iff_of_false (Option.some_ne_none _) ?_
        rintro ⟨_, _, ⟨key, generated⟩, _⟩
        cases made.symm.trans generated
    | ok key =>
        have late : Certificate.selfSigned key parameters.commonName
            parameters.validity supply.now = .error .beyondClock ↔
              0 ≤ parameters.validity ∧ (Certificate.maxClock : Int) <
                supply.now.seconds + parameters.validity :=
          Certificate.selfSigned_beyondClock_iff
        have settled : Overruns supply parameters ↔
            0 ≤ parameters.validity ∧ (Certificate.maxClock : Int) <
              supply.now.seconds + parameters.validity :=
          ⟨fun overruns => overruns.2.2.2, fun ends =>
            ⟨Nat.not_lt.1 least, Nat.not_lt.1 most, ⟨key, made⟩, ends⟩⟩
        rw [settled, ← late]
        dsimp only
        cases Certificate.selfSigned key parameters.commonName
          parameters.validity supply.now with
        | error fault =>
            dsimp only
            rw [Option.map_eq_none_iff, certificateFault_eq_none_iff,
              Except.error.injEq]
        | ok certificate =>
            refine iff_of_false (Option.some_ne_none _) ?_
            intro same
            cases same

end SoftwareStore

theorem Manager.generated_eq_none_iff {manager : Manager}
    {supply : SoftwareStore.Supply} {slot : Option KeyEntry} :
    (manager.generated supply slot).1 = none ↔
      SoftwareStore.Overruns supply manager.parameters := by
  rw [generated, (SoftwareStore.run_generate supply slot manager).1,
    Option.map_eq_none_iff, SoftwareStore.freshEntry_eq_none_iff]

/-! ### Setting up -/

namespace Service

variable {interface : Interface} {σ : Type}

def started (handler : Program.Handler interface σ) (state : σ)
    (config : Config) (provider : CryptoProvider) :
    Option (Except Failure Service) :=
  (Program.run handler state (start config provider).run).1

theorem started_eq (handler : Program.Handler interface σ) (state : σ)
    (config : Config) (provider : CryptoProvider) :
    started handler state config provider =
      if config.poolSize = 0 then some (.error Pool.noWorkers)
      else config.generationParameters.map fun parameters =>
        .ok ⟨⟨config.keyAlias, provider, parameters⟩, config.poolSize⟩ := by
  rw [started, start, Pool.start]
  by_cases empty : config.poolSize = 0
  · rw [if_pos empty, if_pos empty]
    rfl
  · rw [if_neg empty, if_neg empty]
    cases config.generationParameters with
    | none => rfl
    | some parameters => rfl

/-- Where a configuration breaks off. It has no parameters exactly if its days
have too many seconds. A setup without workers fails, whatever else is
configured; with workers it breaks off exactly if there are no parameters, and
is ready otherwise. A generation of a service that was set up breaks off exactly
if the key is made and its validity, which is the configured number of whole
days, ends behind all that a clock can show. -/
theorem breaks_off_exactly (handler : Program.Handler interface σ) (state : σ)
    (config : Config) (provider : CryptoProvider)
    (supply : SoftwareStore.Supply) (slot : Option KeyEntry) :
    (config.generationParameters = none ↔ ¬ config.HasSpan) ∧
    (started handler state config provider = none ↔
      config.poolSize ≠ 0 ∧ ¬ config.HasSpan) ∧
    (∀ failure, started handler state config provider = some (.error failure) ↔
      config.poolSize = 0 ∧ failure = Pool.noWorkers) ∧
    (∀ service, started handler state config provider = some (.ok service) ↔
      config.poolSize ≠ 0 ∧ config.HasSpan ∧
        service = ⟨⟨config.keyAlias, provider, config.wholeDays⟩,
          config.poolSize⟩) ∧
    ∀ service, started handler state config provider = some (.ok service) →
      ((service.manager.generated supply slot).1 = none ↔
        SoftwareStore.Overruns supply config.wholeDays) := by
  have ready : ∀ service, started handler state config provider =
      some (.ok service) ↔
      config.poolSize ≠ 0 ∧ config.HasSpan ∧
        service = ⟨⟨config.keyAlias, provider, config.wholeDays⟩,
          config.poolSize⟩ := by
    intro service
    rw [started_eq]
    by_cases empty : config.poolSize = 0
    · simp [empty]
    · by_cases spans : config.HasSpan
      · simp [empty, spans, Config.generationParameters_eq_some_iff.2
          ⟨spans, rfl⟩, eq_comm]
      · simp [empty, spans, Config.generationParameters_eq_none_iff.2 spans]
  refine ⟨Config.generationParameters_eq_none_iff, ?_, ?_, ready, ?_⟩
  · rw [started_eq]
    by_cases empty : config.poolSize = 0
    · simp [empty]
    · simp [empty, Config.generationParameters_eq_none_iff]
  · intro failure
    rw [started_eq]
    by_cases empty : config.poolSize = 0
    · simp [empty, eq_comm]
    · simp [empty]
  · intro service came
    obtain ⟨-, -, rfl⟩ := (ready service).1 came
    exact Manager.generated_eq_none_iff

/-- Two texts of configurations that break off: with a day more than there are
seconds for, the setup; with a day less, the first generation, by a tape that
holds two primes. -/
theorem started_breaks_off :
    ∃ (config late : Config) (service : Service) (supply : SoftwareStore.Supply),
    Json.decode? (Utf8.encode
      "\x7b\"certificateValidityDays\":106751991167301\x7d") = some config ∧
    started (SoftwareStore.handler config.keyAlias supply) none config
      .standard = none ∧
    Json.decode? (Utf8.encode
      "\x7b\"certificateValidityDays\":106751991167300\x7d") = some late ∧
    started (SoftwareStore.handler late.keyAlias supply) none late .standard =
      some (.ok service) ∧
    (service.manager.generated supply none).1 = none := by
  obtain ⟨entry, made⟩ := SoftwareStore.freshEntry_primeTape
  obtain ⟨least, most, generated, -⟩ := SoftwareStore.freshEntry_eq_ok_iff.1 made
  refine ⟨{ Config.default with validityDays := 106751991167301 },
    { Config.default with validityDays := 106751991167300 },
    ⟨⟨Config.default.keyAlias, .standard, _⟩, Config.default.poolSize⟩,
    ⟨Rsa.primeTape, ⟨1700000000⟩⟩,
    by decide +kernel, rfl, by decide +kernel, rfl, ?_⟩
  exact Manager.generated_eq_none_iff.2 ⟨least, most,
    ⟨entry.privateKey, generated⟩, by decide, by decide⟩

end Service

end BoundKey
