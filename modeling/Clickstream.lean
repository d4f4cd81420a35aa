import Clickstream.Action.Basic
import Clickstream.Action.Keys
import Clickstream.Action.Record
import Clickstream.Capture.Draft
import Clickstream.Capture.Interpret
import Clickstream.Capture.Recorder
import Clickstream.Capture.Sanitise
import Clickstream.Capture.Settings
import Clickstream.Capture.Timers
import Clickstream.Configuration
import Clickstream.Css.Identifier
import Clickstream.Css.Quoted
import Clickstream.Element.Attributes
import Clickstream.Element.Basic
import Clickstream.Element.Facts
import Clickstream.Element.Locate
import Clickstream.Element.Normal
import Clickstream.Element.Path
import Clickstream.Element.Record
import Clickstream.Event.Basic
import Clickstream.Event.Record
import Clickstream.Frame
import Clickstream.Json.Basic
import Clickstream.Json.Reader
import Clickstream.Json.Record
import Clickstream.Json.Shape
import Clickstream.Json.Skip
import Clickstream.Json.Writer
import Clickstream.Language
import Clickstream.Plan.Build
import Clickstream.Plan.Cleanup
import Clickstream.Plan.Operation
import Clickstream.Plan.Page
import Clickstream.Plan.Settings
import Clickstream.Plan.Step
import Clickstream.Proofs.Capture.Candidates
import Clickstream.Proofs.Capture.Password
import Clickstream.Proofs.Capture.Redaction
import Clickstream.Proofs.Capture.Replay
import Clickstream.Proofs.Capture.Run
import Clickstream.Proofs.Capture.Secrecy
import Clickstream.Proofs.Capture.Timers
import Clickstream.Proofs.Plan.Cleanup
import Clickstream.Proofs.Plan.Deeds
import Clickstream.Proofs.Plan.Entries
import Clickstream.Proofs.Script.Composed
import Clickstream.Proofs.Script.Legible
import Clickstream.Proofs.Script.Lines
import Clickstream.Proofs.Script.Outline
import Clickstream.Proofs.Script.Rows
import Clickstream.Proofs.Script.Sketch
import Clickstream.Proofs.Script.Vocabulary
import Clickstream.Proofs.Text.Alphanumeric
import Clickstream.Proofs.Text.Apart
import Clickstream.Proofs.Text.Literal
import Clickstream.Proofs.Text.Parts
import Clickstream.Proofs.Text.Plain
import Clickstream.Proofs.Text.UnicodeEscape
import Clickstream.Script.Call
import Clickstream.Script.Dialect
import Clickstream.Script.Dialects
import Clickstream.Script.File
import Clickstream.Script.Layout
import Clickstream.Script.Names
import Clickstream.Script.Roles
import Clickstream.Selector.Basic
import Clickstream.Selector.Record
import Clickstream.Service.Body
import Clickstream.Service.Listeners
import Clickstream.Service.Message
import Clickstream.Service.Request
import Clickstream.Service.Route
import Clickstream.Service.Server
import Clickstream.Session
import Clickstream.Studio.Basic
import Clickstream.Studio.Fault
import Clickstream.Studio.Feed
import Clickstream.Studio.Outlet
import Clickstream.Studio.Station
import Clickstream.Text.Ascii
import Clickstream.Text.Blank
import Clickstream.Text.Decimal
import Clickstream.Text.Lines
import Clickstream.Text.Quoted
import Clickstream.Text.Split
import Clickstream.Text.Words
import Clickstream.Proofs.Capture.Origins
import Clickstream.Proofs.Capture.Readings
import Clickstream.Proofs.Capture.LastCandidate
import Clickstream.Proofs.Capture.LastState
import Clickstream.Proofs.Capture.Succession
import Clickstream.Proofs.Capture.Location
import Clickstream.Proofs.Capture.Isolation
import Clickstream.Proofs.Studio.Logs
import Clickstream.Proofs.Studio.Calls
import Clickstream.Proofs.Studio.Delivery
import Clickstream.Proofs.Studio.Growth
import Clickstream.Proofs.Studio.Audience
import Clickstream.Proofs.Studio.Overlap
import Clickstream.Proofs.Capture.FileNames
import Clickstream.Proofs.Plan.Captured
import Clickstream.Proofs.Json.Fields
import Clickstream.Proofs.Action.RoundTrip
import Clickstream.Proofs.Plan.Uploads
import Clickstream.Proofs.Script.Listings
import Clickstream.Proofs.Script.Framed
import Clickstream.Proofs.Plan.Sieving
import Clickstream.Proofs.Plan.Recleaning
import Clickstream.Proofs.Plan.Scrolling
import Clickstream.Proofs.Plan.Noise
import Clickstream.Proofs.Plan.LastAim
import Clickstream.Proofs.Capture.Chronology
import Clickstream.Proofs.Capture.Delays
import Clickstream.Proofs.Capture.Overlay
import Clickstream.Proofs.Capture.Separation
import Clickstream.Proofs.Capture.Burst
import Clickstream.Proofs.Capture.Ledger
import Clickstream.Proofs.Plan.Segments
import Clickstream.Proofs.Plan.Settling
import Clickstream.Proofs.Script.Leads
import Clickstream.Proofs.Script.Blocks
import Clickstream.Proofs.Script.Opening
import Clickstream.Proofs.Script.Identifiers
import Clickstream.Proofs.Css.Quoted
import Clickstream.Proofs.Css.Attributes
import Clickstream.Proofs.Selector.Attributes
import Clickstream.Proofs.Element.Trust
import Clickstream.Proofs.Element.Pieces
import Clickstream.Proofs.Capture.Sanitising
import Clickstream.Proofs.Text.Trimmed
import Clickstream.Proofs.Element.Normal
import Clickstream.Proofs.Capture.Normal
import Clickstream.Proofs.Css.Identifier
import Clickstream.Proofs.Studio.Refusals
import Clickstream.Proofs.Text.Pattern
import Clickstream.Proofs.Text.WordBreaks
