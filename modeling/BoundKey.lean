import BoundKey.Bytes
import BoundKey.Certificate.Basic
import BoundKey.Certificate.Instant
import BoundKey.Certificate.PublicKeyInfo
import BoundKey.Certificate.SelfSigned
import BoundKey.Challenge
import BoundKey.Config
import BoundKey.Crypto.Algorithm
import BoundKey.Crypto.BlockCipher
import BoundKey.Crypto.Constant
import BoundKey.Crypto.Fault
import BoundKey.Crypto.Primitive
import BoundKey.Crypto.Provider
import BoundKey.Crypto.Registry
import BoundKey.Der.Element
import BoundKey.Der.Identifier
import BoundKey.Digest.Algorithm
import BoundKey.Digest.Sha1
import BoundKey.Digest.Sha2
import BoundKey.Digest.Sha256
import BoundKey.Digest.Sha512
import BoundKey.Domain.Basic
import BoundKey.Domain.Bidirectional
import BoundKey.Domain.Punycode
import BoundKey.Domain.Repertoire
import BoundKey.Failure
import BoundKey.Json.Printer
import BoundKey.Json.Record
import BoundKey.Json.Syntax
import BoundKey.Json.Token
import BoundKey.Json.Value
import BoundKey.Jwk
import BoundKey.Jws
import BoundKey.Log
import BoundKey.Manager.Basic
import BoundKey.Manager.Lifecycle
import BoundKey.Manager.Request
import BoundKey.Manager.RequestTarget
import BoundKey.Manager.Usage
import BoundKey.Marker
import BoundKey.Name.AttributeType
import BoundKey.Name.Basic
import BoundKey.Name.Text
import BoundKey.Pool.Basic
import BoundKey.Pool.Job
import BoundKey.Pool.Workload
import BoundKey.Program
import BoundKey.Proofs.Bytes
import BoundKey.Proofs.Crypto.BlockCipher
import BoundKey.Proofs.Digest
import BoundKey.Proofs.Domain
import BoundKey.Proofs.Json.Members
import BoundKey.Proofs.Json.Number
import BoundKey.Proofs.Json.Plain
import BoundKey.Proofs.Json.Printed
import BoundKey.Proofs.Json.Quoted
import BoundKey.Proofs.Jwk
import BoundKey.Proofs.Jws
import BoundKey.Proofs.Jws.RoundTrip
import BoundKey.Proofs.Manager.Answers
import BoundKey.Proofs.Manager.Calls
import BoundKey.Proofs.Manager.Encryption
import BoundKey.Proofs.Manager.Entry
import BoundKey.Proofs.Manager.Interleaving
import BoundKey.Proofs.Manager.Missing
import BoundKey.Proofs.Manager.Signature
import BoundKey.Proofs.Manager.SignedRequest
import BoundKey.Proofs.Manager.SignedTarget
import BoundKey.Proofs.Manager.Slot
import BoundKey.Proofs.Manager.Snapshot
import BoundKey.Proofs.Manager.Work
import BoundKey.Proofs.Pool.Completion
import BoundKey.Proofs.Pool.Job
import BoundKey.Proofs.Program
import BoundKey.Proofs.Rsa.Arithmetic
import BoundKey.Proofs.Rsa.Encryption
import BoundKey.Proofs.Rsa.Generation
import BoundKey.Proofs.Rsa.Key
import BoundKey.Proofs.Rsa.Pkcs1
import BoundKey.Proofs.Text.Base64
import BoundKey.Proofs.Text.Blank
import BoundKey.Proofs.Text.Pieces
import BoundKey.Proofs.Text.Utf8
import BoundKey.Proofs.Unicode.Composition
import BoundKey.Proofs.Url.Area
import BoundKey.Proofs.Url.Host
import BoundKey.Proofs.Url.Path
import BoundKey.Proofs.Url.Place
import BoundKey.Proofs.Url.Scheme
import BoundKey.Report.Fault
import BoundKey.Report.Key
import BoundKey.Report.Log
import BoundKey.Report.Token
import BoundKey.Rsa.Arithmetic
import BoundKey.Rsa.Generation
import BoundKey.Rsa.Key
import BoundKey.Rsa.Mask
import BoundKey.Rsa.Oaep
import BoundKey.Rsa.Pkcs1
import BoundKey.Rsa.Prime
import BoundKey.Rsa.Pss
import BoundKey.Service
import BoundKey.Session
import BoundKey.Store.Entry
import BoundKey.Store.Fault
import BoundKey.Store.Interface
import BoundKey.Store.Provisioned
import BoundKey.Store.Software
import BoundKey.Tape
import BoundKey.Text.Base64
import BoundKey.Text.Blank
import BoundKey.Text.Decimal
import BoundKey.Text.Hex
import BoundKey.Text.Pieces
import BoundKey.Text.Quoted
import BoundKey.Text.Utf8
import BoundKey.Unicode.CombiningClass
import BoundKey.Unicode.Composition
import BoundKey.Unicode.Decomposition
import BoundKey.Unicode.Direction
import BoundKey.Unicode.Joining
import BoundKey.Unicode.Mark
import BoundKey.Unicode.Table
import BoundKey.Url.Basic
import BoundKey.Url.Encoding
import BoundKey.Url.Host
import BoundKey.Url.Path
import BoundKey.Proofs.Jws.Canonical
import BoundKey.Proofs.Jwk.Thumbprint
import BoundKey.Proofs.Manager.Identity
import BoundKey.Proofs.Rsa.Fresh
import BoundKey.Proofs.Rsa.Pss
import BoundKey.Proofs.Manager.Causes
import BoundKey.Proofs.Manager.Failures
import BoundKey.Proofs.Jwk.RoundTrip
import BoundKey.Proofs.Manager.Recognition
import BoundKey.Proofs.Manager.AccessToken
import BoundKey.Proofs.Challenge
import BoundKey.Proofs.Log
import BoundKey.Proofs.Manager.Reports
import BoundKey.Proofs.Crypto.Signer
import BoundKey.Proofs.Crypto.UncheckedKey
import BoundKey.Proofs.Manager.Discretion
import BoundKey.Proofs.Der
import BoundKey.Proofs.Rsa.PublicKeyInfo
import BoundKey.Proofs.Manager.Export
import BoundKey.Proofs.Crypto.SaltedSigner
import BoundKey.Proofs.Rsa.Padding
import BoundKey.Proofs.Crypto.Ciphertext
import BoundKey.Proofs.Manager.Marks
import BoundKey.Proofs.Manager.Pairs
import BoundKey.Proofs.Pool.Deferred
import BoundKey.Proofs.Pool.Live
import BoundKey.Proofs.Pool.Progress
import BoundKey.Proofs.Pool.Facades
import BoundKey.Proofs.Json.ObjectText
import BoundKey.Proofs.Jwk.CanonicalText
import BoundKey.Proofs.Manager.ClaimText
import BoundKey.Proofs.Manager.Atomicity
import BoundKey.Proofs.Marker
import BoundKey.Proofs.Manager.TargetParts
import BoundKey.Proofs.Config
import BoundKey.Proofs.Der.Identifier
import BoundKey.Proofs.Name
import BoundKey.Proofs.Certificate.Body
import BoundKey.Proofs.Store.Certified
import BoundKey.Proofs.Store.Redaction
