import CircleVault.Armor
import CircleVault.Base64
import CircleVault.Bytes
import CircleVault.Cbor
import CircleVault.Checksum
import CircleVault.Cipher.Aead
import CircleVault.Cipher.ChaCha20
import CircleVault.Cipher.Poly1305
import CircleVault.Ciphertext
import CircleVault.Circle
import CircleVault.Curve.Ed25519
import CircleVault.Curve.Edwards
import CircleVault.Curve.Field
import CircleVault.Curve.Montgomery
import CircleVault.Description
import CircleVault.Entropy
import CircleVault.Failure
import CircleVault.Grant
import CircleVault.Hash.Argon2
import CircleVault.Hash.Blake2b
import CircleVault.Hash.Blake3
import CircleVault.Hash.Sha512
import CircleVault.Id
import CircleVault.Json
import CircleVault.Json.Decode
import CircleVault.Json.Lexer
import CircleVault.Json.Parser
import CircleVault.Json.Records
import CircleVault.Json.Request
import CircleVault.Json.Settings
import CircleVault.Keys
import CircleVault.Member
import CircleVault.Outcome
import CircleVault.Program
import CircleVault.Rehearsal
import CircleVault.Salt
import CircleVault.SealedKey
import CircleVault.SealedKey.Cbor
import CircleVault.SelfTest
import CircleVault.Service
import CircleVault.Settings
import CircleVault.SignedRecord
import CircleVault.Store
import CircleVault.Store.Call
import CircleVault.Suite
import CircleVault.Suite.Standard
import CircleVault.Table
import CircleVault.Text
import CircleVault.Timestamp
import CircleVault.TrustLevel
import CircleVault.Words
import CircleVault.Work
import CircleVault.Proofs.Acceptance
import CircleVault.Proofs.AccessMatrix
import CircleVault.Proofs.ActiveKey
import CircleVault.Proofs.Aead
import CircleVault.Proofs.Armor
import CircleVault.Proofs.Base64
import CircleVault.Proofs.Binding
import CircleVault.Proofs.Calls
import CircleVault.Proofs.Cbor
import CircleVault.Proofs.Cbor.Stopping
import CircleVault.Proofs.Coalition
import CircleVault.Proofs.Effect
import CircleVault.Proofs.Entries
import CircleVault.Proofs.Envelope
import CircleVault.Proofs.Failures
import CircleVault.Proofs.Footprint
import CircleVault.Proofs.Granting
import CircleVault.Proofs.History
import CircleVault.Proofs.Integrity
import CircleVault.Proofs.Interleaving
import CircleVault.Proofs.Json.Decoding
import CircleVault.Proofs.Json.Lexing
import CircleVault.Proofs.Json.Parsing
import CircleVault.Proofs.Json.Records
import CircleVault.Proofs.LastSysop
import CircleVault.Proofs.LegacySalts
import CircleVault.Proofs.Listings
import CircleVault.Proofs.Opening
import CircleVault.Proofs.PassphraseChanges
import CircleVault.Proofs.Program
import CircleVault.Proofs.Readability
import CircleVault.Proofs.Records
import CircleVault.Proofs.Refusal
import CircleVault.Proofs.Rehearsal
import CircleVault.Proofs.SaltTexts
import CircleVault.Proofs.Sealing
import CircleVault.Proofs.SignatureLife
import CircleVault.Proofs.Signatures
import CircleVault.Proofs.SingleWrite
import CircleVault.Proofs.Timestamps
import CircleVault.Proofs.Transparent
import CircleVault.Proofs.TrustLevel
import CircleVault.Proofs.VerificationChain
import CircleVault.Proofs.Verifications
import CircleVault.Proofs.Vouching
import CircleVault.Proofs.WellFormed
import CircleVault.Proofs.Work
import CircleVault.Proofs.Writes
