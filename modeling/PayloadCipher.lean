import PayloadCipher.Json.Reader
import PayloadCipher.Proofs.Encryption
import PayloadCipher.Proofs.Fingerprint
import PayloadCipher.Proofs.Startup
import PayloadCipher.Proofs.Line
import PayloadCipher.Proofs.CaseMap
import PayloadCipher.Proofs.Boot
import PayloadCipher.Proofs.Redaction
import PayloadCipher.Proofs.Selection
import PayloadCipher.Proofs.Secrecy
import PayloadCipher.Proofs.Scopes
import PayloadCipher.Proofs.Creation
import PayloadCipher.Proofs.Request
import PayloadCipher.Proofs.Registrations
import PayloadCipher.Proofs.Snapshot
import PayloadCipher.Proofs.Escapes
import PayloadCipher.Proofs.Reading
import PayloadCipher.Proofs.ReadBack
import PayloadCipher.Proofs.Attribution
import PayloadCipher.Proofs.Context
import PayloadCipher.Proofs.Configuration
import PayloadCipher.Proofs.Construction
import PayloadCipher.Proofs.Refusal
import PayloadCipher.Proofs.Capacity
import PayloadCipher.Proofs.Announcement
import PayloadCipher.Proofs.Failure
import PayloadCipher.Proofs.Precedence
import PayloadCipher.Proofs.Filters
import PayloadCipher.Proofs.Shape
import PayloadCipher.Proofs.Discretion
import PayloadCipher.Proofs.DistinguishedForm
import PayloadCipher.Proofs.Wrapping
