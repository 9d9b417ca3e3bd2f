import IamLogin.Claims
import IamLogin.Credential
import IamLogin.Draft
import IamLogin.Entries
import IamLogin.Failure.Basic
import IamLogin.Failure.Kind
import IamLogin.Field.Checked
import IamLogin.Field.Problem
import IamLogin.Field.Reading
import IamLogin.Http.Client
import IamLogin.Http.Message
import IamLogin.Http.Status
import IamLogin.Identity
import IamLogin.Journal
import IamLogin.Json.Basic
import IamLogin.Json.Bytes
import IamLogin.Json.Notation
import IamLogin.Json.Reader
import IamLogin.Json.Writer
import IamLogin.Log.Desk
import IamLogin.Log.Event
import IamLogin.Log.Line
import IamLogin.Log.Threshold
import IamLogin.Number.Decimal
import IamLogin.Number.Double
import IamLogin.Number.Grouped
import IamLogin.Number.Literal
import IamLogin.Number.Shortest
import IamLogin.Options
import IamLogin.Proofs.Action
import IamLogin.Proofs.Assembly
import IamLogin.Proofs.BlankMount
import IamLogin.Proofs.Confinement
import IamLogin.Proofs.Coupling
import IamLogin.Proofs.Course
import IamLogin.Proofs.Drafting
import IamLogin.Proofs.Entries
import IamLogin.Proofs.Exchange
import IamLogin.Proofs.Fields
import IamLogin.Proofs.Foreseen
import IamLogin.Proofs.Granting
import IamLogin.Proofs.Inspection
import IamLogin.Proofs.Json.Containers
import IamLogin.Proofs.Json.Grammar
import IamLogin.Proofs.Json.Nesting
import IamLogin.Proofs.Json.Notation
import IamLogin.Proofs.Json.Numerals
import IamLogin.Proofs.Json.RoundTrip
import IamLogin.Proofs.Json.Strings
import IamLogin.Proofs.Keeping
import IamLogin.Proofs.KeyFile
import IamLogin.Proofs.Log.FirstUse
import IamLogin.Proofs.Log.LevelWords
import IamLogin.Proofs.Log.Lines
import IamLogin.Proofs.Log.Members
import IamLogin.Proofs.LogView
import IamLogin.Proofs.MountPath
import IamLogin.Proofs.Number.Rounding
import IamLogin.Proofs.Number.Shortest
import IamLogin.Proofs.Number.WholePart
import IamLogin.Proofs.Opening
import IamLogin.Proofs.Order
import IamLogin.Proofs.Posting
import IamLogin.Proofs.Precedence
import IamLogin.Proofs.Presence
import IamLogin.Proofs.Refusal
import IamLogin.Proofs.Run
import IamLogin.Proofs.Secrecy
import IamLogin.Proofs.Secrets
import IamLogin.Proofs.SigningAnswers
import IamLogin.Proofs.SigningFailures
import IamLogin.Proofs.SigningTarget
import IamLogin.Proofs.Text.Quoted
import IamLogin.Proofs.Text.Utf8
import IamLogin.Proofs.Time.Expiry
import IamLogin.Proofs.Time.Timestamp
import IamLogin.Proofs.Trail
import IamLogin.Proofs.Twins
import IamLogin.Proofs.Url.Authority
import IamLogin.Proofs.Url.Base
import IamLogin.Proofs.Url.Host
import IamLogin.Proofs.Url.Path
import IamLogin.Proofs.Url.Percent
import IamLogin.Proofs.Url.Server
import IamLogin.Proofs.Wire
import IamLogin.Proofs.Wiring
import IamLogin.Session
import IamLogin.Settings.Basic
import IamLogin.Settings.Store
import IamLogin.Setup
import IamLogin.Signer
import IamLogin.Supplier
import IamLogin.Text.Base64
import IamLogin.Text.Basic
import IamLogin.Text.Blank
import IamLogin.Text.Digit
import IamLogin.Text.Hex
import IamLogin.Text.Pieces
import IamLogin.Text.Printable
import IamLogin.Text.Quoted
import IamLogin.Text.Utf8
import IamLogin.Time.Duration
import IamLogin.Time.Moment
import IamLogin.Url.Address
import IamLogin.Url.Basic
import IamLogin.Url.Percent
import IamLogin.Url.Reader
import IamLogin.Url.Reference
import IamLogin.Vault
