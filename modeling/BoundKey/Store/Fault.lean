set_option autoImplicit false

/-!
What can go wrong in a key store.
-/

namespace BoundKey

inductive StoreFault where
  | notFound (keyAlias : String)
  | unavailable (reason : String)
  | protectionInvalid (reason : String)
  | keySizeUnsupported (size : Nat)
  | algorithmUnavailable (reason : String)
  | providerUnavailable (reason : String)
  | invalidParameters (reason : String)
  | thumbprint (reason : String)
  deriving DecidableEq, Repr

def StoreFault.message : StoreFault → String
  | notFound keyAlias => s!"No key entry under alias `{keyAlias}`"
  | unavailable reason => s!"Key storage unavailable: `{reason}`"
  | protectionInvalid reason => s!"Invalid protection parameters: `{reason}`"
  | keySizeUnsupported size => s!"Unsupported key size: {size}"
  | algorithmUnavailable reason => s!"Key algorithm unavailable: `{reason}`"
  | providerUnavailable reason => s!"Key storage provider unavailable: `{reason}`"
  | invalidParameters reason => s!"Invalid key generation parameters: `{reason}`"
  | thumbprint reason => s!"Thumbprint computation failed: `{reason}`"

end BoundKey
