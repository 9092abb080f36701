import BoundKey.Json.Record
import BoundKey.Store.Entry

set_option autoImplicit false

/-!
The configuration. Every setting has a default; what is configured about
certificates becomes the parameters of a generation.
-/

namespace BoundKey

structure Config where
  keyAlias : String
  keySize : Nat
  commonName : String
  validityDays : Int
  poolSize : Nat
  deriving DecidableEq, Repr

namespace Config

def default : Config where
  keyAlias := "microsoft-device-pop"
  keySize := 2048
  commonName := "CN=device-pop"
  validityDays := 365
  poolSize := 5

def memberNames : List String :=
  ["keyAlias", "keySize", "certificateCommonName", "certificateValidityDays",
    "workerPoolSize"]

instance : Json.Codec Config where
  toValue config := .ofPresent [
    ("keyAlias", some (.string config.keyAlias)),
    ("keySize", some (.int config.keySize)),
    ("certificateCommonName", some (.string config.commonName)),
    ("certificateValidityDays", some (.int config.validityDays)),
    ("workerPoolSize", some (.int config.poolSize))]
  read? depth tree := do
    let record ← tree.record? memberNames depth
    let keyAlias ← record.orElse "keyAlias" Json.Reader.text default.keyAlias
    let keySize ← record.orElse "keySize" Json.Reader.natural default.keySize
    let commonName ← record.orElse "certificateCommonName" Json.Reader.text
        default.commonName
    let validityDays ← record.orElse "certificateValidityDays"
        Json.Reader.signed default.validityDays
    let poolSize ← record.orElse "workerPoolSize" Json.Reader.natural
        default.poolSize
    some ⟨keyAlias, keySize, commonName, validityDays, poolSize⟩

def daySeconds : Int := 86400

/-- The greatest number of days, either way, whose seconds fit 64 bits. -/
def maxValidityDays : Int := 0x7fffffffffffffff / daySeconds

/-- The parameters of a generation; there are none when the validity has too
many seconds. -/
def generationParameters (config : Config) : Option GenerationParameters :=
  if -maxValidityDays ≤ config.validityDays ∧
    config.validityDays ≤ maxValidityDays then
    some ⟨config.keySize, config.commonName, config.validityDays * daySeconds⟩
  else none

end Config

end BoundKey
