import DriverUplift.Checksums
import DriverUplift.CommandLine.Flag
import DriverUplift.CommandLine.ManPage
import DriverUplift.CommandLine.Parse
import DriverUplift.CommandLine.Usage
import DriverUplift.Dependency
import DriverUplift.Disk
import DriverUplift.Failure
import DriverUplift.Github.Client
import DriverUplift.Github.Records
import DriverUplift.Http.Exchange
import DriverUplift.Http.Host
import DriverUplift.Http.Message
import DriverUplift.Http.Percent
import DriverUplift.Http.Status
import DriverUplift.Http.Url
import DriverUplift.Json.Basic
import DriverUplift.Json.Fault
import DriverUplift.Json.Parser
import DriverUplift.Json.Printer
import DriverUplift.Json.Reader
import DriverUplift.Json.Record
import DriverUplift.Json.Scan
import DriverUplift.Json.Skip
import DriverUplift.Log.Directive
import DriverUplift.Log.Event
import DriverUplift.Log.Filter
import DriverUplift.Log.Line
import DriverUplift.Main
import DriverUplift.Manifest
import DriverUplift.Members
import DriverUplift.Number.Binary64
import DriverUplift.Number.Decimal
import DriverUplift.Pattern.Atom
import DriverUplift.Pattern.Class
import DriverUplift.Pattern.Usable
import DriverUplift.Platform
import DriverUplift.Program
import DriverUplift.Project
import DriverUplift.Session
import DriverUplift.Tag
import DriverUplift.Text.Alphanumeric
import DriverUplift.Text.Blank
import DriverUplift.Text.Composed
import DriverUplift.Text.Composed.Rows
import DriverUplift.Text.Folding
import DriverUplift.Text.Folding.Rows
import DriverUplift.Text.Graphic
import DriverUplift.Text.Hexadecimal
import DriverUplift.Text.Occurrence
import DriverUplift.Text.Printable
import DriverUplift.Text.Punycode
import DriverUplift.Text.Quoted
import DriverUplift.Text.Similarity
import DriverUplift.Text.Split
import DriverUplift.Text.Styled
import DriverUplift.Text.Table
import DriverUplift.Text.Utf8
import DriverUplift.Timestamp
import DriverUplift.Transport
import DriverUplift.Uplift.InPlace
import DriverUplift.Uplift.Run
import DriverUplift.Uplift.Steps
import DriverUplift.Proofs.Checksums
import DriverUplift.Proofs.CommandLine.Arrangement
import DriverUplift.Proofs.CommandLine.Named
import DriverUplift.Proofs.CommandLine.Said
import DriverUplift.Proofs.Dependency
import DriverUplift.Proofs.Disk
import DriverUplift.Proofs.Github.Client
import DriverUplift.Proofs.Github.Lookup
import DriverUplift.Proofs.Github.Parts
import DriverUplift.Proofs.Github.Request
import DriverUplift.Proofs.Github.Written
import DriverUplift.Proofs.Integers
import DriverUplift.Proofs.Json.Adequacy
import DriverUplift.Proofs.Json.Alike
import DriverUplift.Proofs.Json.Decoding
import DriverUplift.Proofs.Json.Integer
import DriverUplift.Proofs.Json.Outline
import DriverUplift.Proofs.Json.Place
import DriverUplift.Proofs.Json.Printed
import DriverUplift.Proofs.Json.Reading
import DriverUplift.Proofs.Json.Real
import DriverUplift.Proofs.Json.RoundTrip
import DriverUplift.Proofs.Json.Rule
import DriverUplift.Proofs.Json.Scalar
import DriverUplift.Proofs.Json.Unambiguous
import DriverUplift.Proofs.Json.Value
import DriverUplift.Proofs.Manifest
import DriverUplift.Proofs.Members
import DriverUplift.Proofs.Order
import DriverUplift.Proofs.Platform
import DriverUplift.Proofs.Program
import DriverUplift.Proofs.Revision
import DriverUplift.Proofs.Section
import DriverUplift.Proofs.Session
import DriverUplift.Proofs.Shadow
import DriverUplift.Proofs.Store
import DriverUplift.Proofs.Tag
import DriverUplift.Proofs.Text.Interruption
import DriverUplift.Proofs.Text.Pieces
import DriverUplift.Proofs.Text.Removal
import DriverUplift.Proofs.Text.Seam
import DriverUplift.Proofs.Uplift.Assignment
import DriverUplift.Proofs.Uplift.Blank
import DriverUplift.Proofs.Uplift.Completion
import DriverUplift.Proofs.Uplift.Course
import DriverUplift.Proofs.Uplift.Exchange
import DriverUplift.Proofs.Uplift.Findings
import DriverUplift.Proofs.Uplift.Independence
import DriverUplift.Proofs.Uplift.InPlace
import DriverUplift.Proofs.Uplift.Itinerary
import DriverUplift.Proofs.Uplift.Listings
import DriverUplift.Proofs.Uplift.Partial
import DriverUplift.Proofs.Uplift.Placement
import DriverUplift.Proofs.Uplift.Policy
import DriverUplift.Proofs.Uplift.Refusal
import DriverUplift.Proofs.Uplift.Repeated
import DriverUplift.Proofs.Uplift.Stage
import DriverUplift.Proofs.Uplift.Steps
