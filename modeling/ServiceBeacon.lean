import ServiceBeacon.Main
import ServiceBeacon.Registration.OfText
import ServiceBeacon.Registry.Session
import ServiceBeacon.Proofs.Registry.SingleRequest
import ServiceBeacon.Proofs.Text.Ascii
import ServiceBeacon.Proofs.Text.Decimal
import ServiceBeacon.Proofs.Url.PlainHost
import ServiceBeacon.Proofs.Url.Escape
import ServiceBeacon.Proofs.Url.Extension
import ServiceBeacon.Proofs.Json.Strings
import ServiceBeacon.Proofs.Registry.Withdrawal
import ServiceBeacon.Proofs.Registry.Destination
import ServiceBeacon.Proofs.History
import ServiceBeacon.Proofs.Fixture.Course
import ServiceBeacon.Proofs.Fixture.Serving
import ServiceBeacon.Proofs.Fixture.Pairing
import ServiceBeacon.Proofs.Fixture.Stopping
import ServiceBeacon.Proofs.Identity.Collisions
import ServiceBeacon.Proofs.Shutdown.Record
import ServiceBeacon.Proofs.Shutdown.Latch
import ServiceBeacon.Proofs.Registry.Reports
import ServiceBeacon.Proofs.Registry.Plan
import ServiceBeacon.Proofs.Registry.Ledger
import ServiceBeacon.Proofs.Fixture.Independence
import ServiceBeacon.Proofs.Fixture.Protection
import ServiceBeacon.Proofs.CommandLine.Precedence
import ServiceBeacon.Proofs.Json.Numbers
import ServiceBeacon.Proofs.Json.Trees
import ServiceBeacon.Proofs.Json.Exactness
import ServiceBeacon.Proofs.Registration.RoundTrip
import ServiceBeacon.Proofs.Registration.Decoding
import ServiceBeacon.Proofs.Config.Overlay
import ServiceBeacon.Proofs.Config.Repairs
import ServiceBeacon.Proofs.Address.Spelling
import ServiceBeacon.Proofs.Text.Hexadecimal
import ServiceBeacon.Proofs.Address.ZeroRun
import ServiceBeacon.Proofs.Address.RoundTrip
import ServiceBeacon.Proofs.Text.Composition
import ServiceBeacon.Proofs.Url.Separators
import ServiceBeacon.Proofs.Url.HostAndPort
import ServiceBeacon.Proofs.Fixture.Accounting
import ServiceBeacon.Proofs.Tls.Material
import ServiceBeacon.Proofs.Tls.Precedence
import ServiceBeacon.Proofs.Registry.Endpoints
import ServiceBeacon.Proofs.Http.Identifier
import ServiceBeacon.Proofs.Http.Form
import ServiceBeacon.Proofs.Http.Greeting
import ServiceBeacon.Proofs.Issuer.TempFiles
import ServiceBeacon.Proofs.Fixture.Files
import ServiceBeacon.Proofs.Calendar
import ServiceBeacon.Proofs.Certificate.AltName
import ServiceBeacon.Proofs.Certificate.Reading
import ServiceBeacon.Proofs.Issuer.Issuance
