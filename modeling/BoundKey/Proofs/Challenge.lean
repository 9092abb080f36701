import BoundKey.Challenge
import BoundKey.Proofs.Jws
import BoundKey.Proofs.Program

set_option autoImplicit false

/-!
Answers to challenges. The arguments are looked at before anything is asked of
the certificate of the device; then it is asked for its encoded form and, once
it has that, for one signature. What it answers decides, and a token that comes
of it is taken apart into the challenge, the certificate and the signature.
-/

namespace BoundKey

variable {σ : Type}

/-! ### Claims read back -/

namespace ChallengeClaims

private def members (claims : ChallengeClaims) :
    List (String × Option Json.Value) :=
  [("aud", some (.string claims.audience)),
    ("iat", some (.int claims.issuedAt)), ("nonce", some (.string claims.nonce))]

theorem read?_toValue {claims : ChallengeClaims}
    (lower : -2 ^ 63 ≤ claims.issuedAt) (upper : claims.issuedAt < 2 ^ 63)
    (depth : Nat) :
    Json.Codec.read? (depth + 1) (Json.Codec.toValue claims).tree =
      some claims := by
  have distinct : (claims.members.map Prod.fst).Nodup := by
    change memberNames.Nodup
    decide
  have record : (Json.Codec.toValue claims).tree.record? memberNames (depth + 1) =
      some (Json.printedRecord depth claims.members) :=
    Json.record?_ofPresent distinct (fun _ listed => listed) depth
  have audience : (Json.printedRecord depth claims.members).required "aud"
      Json.Reader.text = some claims.audience :=
    Json.required_text distinct depth rfl
  have issuedAt : (Json.printedRecord depth claims.members).required "iat"
      Json.Reader.signed = some claims.issuedAt := by
    have printed : claims.members.lookup "iat" =
        some (some (.int claims.issuedAt)) := rfl
    rw [Json.required_printed distinct depth printed,
      Json.Reader.signed_tree depth lower upper]
  have nonce : (Json.printedRecord depth claims.members).required "nonce"
      Json.Reader.text = some claims.nonce :=
    Json.required_text distinct depth rfl
  change ((Json.Codec.toValue claims).tree.record? memberNames
    (depth + 1)).bind _ = _
  rw [record, Option.bind_some, audience, issuedAt, nonce]
  rfl

end ChallengeClaims

namespace Challenge

variable {nonce audience : String} {now : Int}
  {handler : Program.Handler CertificateInterface σ} {state : σ}

def message (certificate : Certificate) (claims : ChallengeClaims) : Bytes :=
  Utf8.encode (Jws.signingInput (header certificate) claims)

/-- The parts of an answer: they say what was asked, under the certificate and
the signature over them. -/
structure Answers (certificate : Certificate) (claims : ChallengeClaims)
    (signature : Bytes) (parts : Jws.Parts ChallengeClaims) : Prop where
  algorithm : parts.header.algorithm = "RS256"
  kind : parts.header.kind = some "JWT"
  keyId : parts.header.keyId = none
  certificates : ∃ text, parts.header.certificates = some [text] ∧
    Base64.decode .padded text = some certificate.der
  audience : parts.payload.audience = claims.audience
  issuedAt : parts.payload.issuedAt = claims.issuedAt
  nonce : parts.payload.nonce = claims.nonce
  signingInput : Utf8.encode parts.signingInput = message certificate claims
  signature : parts.signature = signature

theorem answers_of_token (certificate : Certificate) (claims : ChallengeClaims)
    (lower : -2 ^ 63 ≤ claims.issuedAt)
    (upper : claims.issuedAt < 2 ^ 63) {signature : Bytes}
    (present : signature ≠ []) :
    ∃ parts, Jws.decompose ChallengeClaims
      (Jws.token (header certificate) claims signature) = .ok parts ∧
      Answers certificate claims signature parts := by
  have read : Json.Codec.read? Json.maxDepth (Json.Codec.toValue claims).tree =
      some claims :=
    ChallengeClaims.read?_toValue lower upper 126
  refine ⟨_, Jws.decompose_token (header certificate) read present, ?_⟩
  exact {
    algorithm := rfl
    kind := rfl
    keyId := rfl
    certificates := ⟨_, rfl, Base64.decode_encode .padded certificate.der⟩
    audience := rfl
    issuedAt := rfl
    nonce := rfl
    signingInput := rfl
    signature := rfl }

/-! ### The calls of an answer -/

theorem demand_of_present {name value : String} (present : value ≠ "") :
    demand name value = pure () := by
  rw [demand, if_neg]
  simpa using present

theorem tokenFor_nonce_empty (audience : String) (now : Int) :
    tokenFor "" audience now = Operation.ofExcept
      (.error (.argumentInvalid "nonce must not be empty")) := rfl

theorem tokenFor_audience_empty (present : nonce ≠ "") (now : Int) :
    tokenFor nonce "" now = Operation.ofExcept
      (.error (.argumentInvalid "audience must not be empty")) := by
  rw [tokenFor, demand_of_present present]
  rfl

/-- With both arguments an answer is a program of at most two calls, and ends
where one of them breaks off. -/
theorem tokenFor_present (asked : nonce ≠ "")
    (addressed : audience ≠ "") (now : Int) :
    (tokenFor nonce audience now).run = .call .certificate fun
      | none => .abort
      | some (.error reason) => .done (.error (.certificateEncodingError reason))
      | some (.ok certificate) =>
        .emit (.log (.answeringChallenge audience))
          (.call (.sign "SHA256withRSA"
            (message certificate ⟨audience, now, nonce⟩)) fun
            | none => .abort
            | some answer => .done ((answer.map (Jws.token (header certificate)
                (⟨audience, now, nonce⟩ : ChallengeClaims))).mapError
                .deviceCertificateSigning)) := by
  rw [tokenFor, demand_of_present asked, demand_of_present addressed]
  change (.call .certificate _ :
    Program CertificateInterface (Except Failure String)) = _
  congr 1
  funext encoded
  cases encoded with
  | none => rfl
  | some encoded =>
      cases encoded with
      | error reason => rfl
      | ok certificate =>
          change (.emit _ (.call
            (.sign "SHA256withRSA"
              (message certificate ⟨audience, now, nonce⟩)) _) :
            Program CertificateInterface (Except Failure String)) = _
          congr 2
          funext answer
          cases answer with
          | none => rfl
          | some answer =>
              cases answer with
              | error cause => rfl
              | ok signature => rfl

/-- What comes of a challenge: the answer, unless a call broke off, and the
calls that were made. -/
def exchange (handler : Program.Handler CertificateInterface σ) (state : σ)
    (nonce audience : String) (now : Int) :
    Option (Except Failure String) × List CertificateCall :=
  ((Program.run handler state (answer nonce audience now).run).1,
    Program.calls handler state (answer nonce audience now).run)

theorem exchange_eq (handler : Program.Handler CertificateInterface σ)
    (state : σ) (nonce audience : String)
    (now : Int) : exchange handler state nonce audience now =
      ((Program.run handler state (tokenFor nonce audience now).run).1,
        Program.calls handler state (tokenFor nonce audience now).run) := by
  rw [exchange, answer, (Operation.run_reporting handler state _ _).1,
    Operation.calls_reporting]

theorem exchange_refused {failure : Failure}
    (refused : tokenFor nonce audience now =
      Operation.ofExcept (.error failure)) :
    exchange handler state nonce audience now = (some (.error failure), []) := by
  rw [exchange_eq, refused, (Operation.quiet_ofExcept _).calls_eq]
  rfl

theorem exchange_unencodable (asked : nonce ≠ "") (addressed : audience ≠ "")
    {reason : String}
    (failed : (handler state .certificate).1 = some (.error reason)) :
    exchange handler state nonce audience now =
      (some (.error (.certificateEncodingError reason)), [.certificate]) := by
  rw [exchange_eq, tokenFor_present asked addressed,
    Program.run_call, Program.calls]
  simp only [failed]
  rfl

theorem exchange_encoded (asked : nonce ≠ "") (addressed : audience ≠ "")
    {certificate : Certificate}
    (held : (handler state .certificate).1 = some (.ok certificate)) :
    exchange handler state nonce audience now =
      (((handler (handler state .certificate).2.1
          (.sign "SHA256withRSA"
            (message certificate ⟨audience, now, nonce⟩))).1).map fun answer =>
        (answer.map (Jws.token (header certificate) (⟨audience, now, nonce⟩ :
          ChallengeClaims))).mapError Failure.deviceCertificateSigning,
      [.certificate, .sign "SHA256withRSA"
        (message certificate ⟨audience, now, nonce⟩)]) := by
  rw [exchange_eq, tokenFor_present asked addressed,
    Program.run_call, Program.calls]
  simp only [held, Program.run_emit, Program.run_call, Program.calls]
  cases (handler (handler state .certificate).2.1
    (.sign "SHA256withRSA" (message certificate ⟨audience, now, nonce⟩))).1 with
  | none => rfl
  | some answer => rfl

/-- Without a nonce or an audience nothing is asked of the device. Otherwise it
is asked for the certificate, and if this cannot be encoded, for nothing else;
if it can, for one signature, of header and claims with the dot between them. A
device that fails to sign is reported with its cause, and a signature that is
not empty makes a token that is taken apart into an answer to the challenge. -/
theorem exchange_answers (handler : Program.Handler CertificateInterface σ)
    (state : σ) (nonce audience : String)
    {now : Int} (lower : -2 ^ 63 ≤ now) (upper : now < 2 ^ 63) :
    (nonce = "" → exchange handler state nonce audience now =
      (some (.error (.argumentInvalid "nonce must not be empty")), [])) ∧
    (nonce ≠ "" → audience = "" → exchange handler state nonce audience now =
      (some (.error (.argumentInvalid "audience must not be empty")), [])) ∧
    (nonce ≠ "" → audience ≠ "" →
      (∀ reason, (handler state .certificate).1 = some (.error reason) →
        exchange handler state nonce audience now =
        (some (.error (.certificateEncodingError reason)), [.certificate])) ∧
      ∀ certificate, (handler state .certificate).1 = some (.ok certificate) →
        let claims : ChallengeClaims := ⟨audience, now, nonce⟩
        let signed := (handler (handler state .certificate).2.1
          (.sign "SHA256withRSA" (message certificate claims))).1
        (exchange handler state nonce audience now).2 =
          [.certificate, .sign "SHA256withRSA" (message certificate claims)] ∧
        (∀ cause, signed = some (.error cause) →
          (exchange handler state nonce audience now).1 =
            some (.error (.deviceCertificateSigning cause))) ∧
        ∀ signature, signed = some (.ok signature) →
          signature ≠ [] → ∃ token parts,
          (exchange handler state nonce audience now).1 = some (.ok token) ∧
          Jws.decompose ChallengeClaims token = .ok parts ∧
          Answers certificate claims signature parts) := by
  refine ⟨?_, ?_, ?_⟩
  · intro empty
    rw [empty]
    exact exchange_refused (tokenFor_nonce_empty audience now)
  · intro asked empty
    rw [empty]
    exact exchange_refused (tokenFor_audience_empty asked now)
  · intro asked addressed
    refine ⟨fun reason => exchange_unencodable asked addressed, ?_⟩
    intro certificate held claims signed
    rw [exchange_encoded asked addressed held]
    refine ⟨rfl, ?_, ?_⟩
    · intro cause failed
      exact congrArg (Option.map _) failed
    · intro signature made present
      obtain ⟨parts, read, answers⟩ :=
        answers_of_token certificate claims lower upper present
      exact ⟨_, parts, congrArg (Option.map _) made, read, answers⟩

def numberingDevice : Program.Handler CertificateInterface Nat
  | count, .certificate => (some (.ok ⟨[48, 0]⟩), count + 1, [])
  | count, .sign _ _ => (some (.ok [UInt8.ofNat count]), count + 1, [])

theorem exchange_answers_numbered : -2 ^ 63 ≤ (-1 : Int) ∧ (-1 : Int) < 2 ^ 63 ∧
    ∃ token parts, exchange numberingDevice 0 "\"\u0000\"" "login" (-1) =
      (some (.ok token), [.certificate, .sign "SHA256withRSA"
        (message ⟨[48, 0]⟩ ⟨"login", -1, "\"\u0000\""⟩)]) ∧
    Jws.decompose ChallengeClaims token = .ok parts ∧
    Answers ⟨[48, 0]⟩ ⟨"login", -1, "\"\u0000\""⟩ [1] parts := by
  have lower : -2 ^ 63 ≤ (-1 : Int) := by decide
  have upper : (-1 : Int) < 2 ^ 63 := by decide
  obtain ⟨_, _, present⟩ :=
    exchange_answers numberingDevice 0 "\"\u0000\"" "login" lower upper
  obtain ⟨_, encoded⟩ := present (by decide) (by decide)
  obtain ⟨calls, _, signed⟩ := encoded ⟨[48, 0]⟩ rfl
  obtain ⟨token, parts, made, read, answers⟩ :=
    signed [1] rfl (List.cons_ne_nil _ _)
  exact ⟨lower, upper, token, parts, Prod.ext made calls, read, answers⟩

end Challenge

end BoundKey
