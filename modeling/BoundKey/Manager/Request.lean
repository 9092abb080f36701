import BoundKey.Manager.Basic
import BoundKey.Manager.RequestTarget

set_option autoImplicit false

/-!
Signed requests: tokens that bind a request, and an access token if there is
one, to the device's key. The key itself is part of what is signed, under its
thumbprint.
-/

namespace BoundKey

structure Confirmation where
  key : Jwk
  deriving DecidableEq, Repr

instance : Json.Codec Confirmation where
  toValue confirmation :=
    .ofPresent [("jwk", some (Json.Codec.toValue confirmation.key))]
  read? depth tree := do
    let record ← tree.record? ["jwk"] depth
    let key ← record.required "jwk" Json.Codec.read?
    some ⟨key⟩

structure RequestClaims where
  accessToken : Option String
  timestamp : Int
  authority : String
  confirmation : Confirmation
  path : Option String
  method : Option String
  nonce : Option String
  clientClaims : Option String
  deriving DecidableEq, Repr

namespace RequestClaims

def memberNames : List String :=
  ["at", "ts", "u", "cnf", "p", "m", "nonce", "client_claims"]

instance : Json.Codec RequestClaims where
  toValue claims := .ofPresent [
    ("at", claims.accessToken.map .string),
    ("ts", some (.int claims.timestamp)),
    ("u", some (.string claims.authority)),
    ("cnf", some (Json.Codec.toValue claims.confirmation)),
    ("p", claims.path.map .string),
    ("m", claims.method.map .string),
    ("nonce", claims.nonce.map .string),
    ("client_claims", claims.clientClaims.map .string)]
  read? depth tree := do
    let record ← tree.record? memberNames depth
    let accessToken ← record.optional "at" Json.Reader.text
    let timestamp ← record.required "ts" Json.Reader.signed
    let authority ← record.required "u" Json.Reader.text
    let confirmation ← record.required "cnf" Json.Codec.read?
    let path ← record.optional "p" Json.Reader.text
    let method ← record.optional "m" Json.Reader.text
    let nonce ← record.optional "nonce" Json.Reader.text
    let clientClaims ← record.optional "client_claims" Json.Reader.text
    some ⟨accessToken, timestamp, authority, confirmation, path, method,
      nonce, clientClaims⟩

end RequestClaims

structure Request where
  url : String
  timestamp : Int
  method : Option String
  nonce : Option String
  clientClaims : Option String
  accessToken : Option String
  deriving DecidableEq, Repr

def nonEmpty (value : Option String) : Option String :=
  value.filter (¬ ·.isEmpty)

/-- The claims of a request to a target with a key and its thumbprint; empty
values are left out. -/
def Request.claims (request : Request) (target : RequestTarget)
    (key : Rsa.PublicKey) (thumbprint : String) :
    RequestClaims where
  accessToken := nonEmpty request.accessToken
  timestamp := request.timestamp
  authority := target.authority
  confirmation := ⟨(Jwk.ofPublicKey key).withKeyId thumbprint⟩
  path := nonEmpty (some target.path)
  method := nonEmpty request.method
  nonce := nonEmpty request.nonce
  clientClaims := nonEmpty request.clientClaims

def Request.header (thumbprint : String) : Jws.Header where
  algorithm := "RS256"
  kind := some "JWT"
  keyId := some thumbprint
  certificates := none

namespace Manager

/-- Makes the token of a request. The URL is read first, then the entry and its
thumbprint; the signer is looked up last. -/
def tokenFor (manager : Manager) (tape : Tape) (request : Request) :
    StoreOperation String := do
  let target ← Operation.ofExcept (RequestTarget.parse request.url)
  let entry ← manager.entry
  let thumbprint ← Operation.ofExcept (manager.thumbprintOf entry)
  let signer ← Operation.ofExcept (manager.signer .sha256)
  let claims := request.claims target entry.publicKey thumbprint
  let token :=
    Id.run (Jws.tokenize (Request.header thumbprint) claims fun message =>
    pure (signer.sign tape message entry.privateKey))
  Operation.ofExcept (token.mapError .ofJws)

/-- Signs a request; with an access token it counts as another operation in the
log. -/
def mint (manager : Manager) (tape : Tape) (request : Request) :
    StoreOperation String :=
  (manager.tokenFor tape request).reporting
    (if request.accessToken.isSome then .mintAccessToken else .mintRequest)

/-- The text by which a token issuer is told the key: the thumbprint as a JSON
object in base 64. -/
def requestConfirmation (manager : Manager) : StoreOperation String :=
  Operation.reporting .requestConfirmation do
    let entry ← manager.entry
    let thumbprint ← Operation.ofExcept (manager.thumbprintOf entry)
    pure (Jws.segment (Json.Value.object [("kid", .string thumbprint)]).render)

end Manager

end BoundKey
