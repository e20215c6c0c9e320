import Scriptorium.Account
import Scriptorium.Api
import Scriptorium.Api.Assistance
import Scriptorium.Api.Cabinet
import Scriptorium.Api.Documentation
import Scriptorium.Api.Projects
import Scriptorium.Api.Sheets
import Scriptorium.Api.Templates
import Scriptorium.Api.Users
import Scriptorium.Assistant
import Scriptorium.Cabinet
import Scriptorium.Comment.Block
import Scriptorium.Comment.Docstring
import Scriptorium.Comment.Element
import Scriptorium.Comment.Inherited
import Scriptorium.Comment.Loose
import Scriptorium.Comment.Review
import Scriptorium.Comment.Settings
import Scriptorium.Comment.Signature
import Scriptorium.Comment.Space
import Scriptorium.Components
import Scriptorium.Database
import Scriptorium.Decimal.Binary
import Scriptorium.Decimal.Extended
import Scriptorium.Decimal.Fixed
import Scriptorium.Decimal.Notation
import Scriptorium.Decimal.Scan
import Scriptorium.Decimal.Shortest
import Scriptorium.Diff.Unified
import Scriptorium.Diff.Matching
import Scriptorium.Digest.Block
import Scriptorium.Digest.Md5
import Scriptorium.Digest.Sha256
import Scriptorium.Documentation.Fallback
import Scriptorium.Documentation.Quality
import Scriptorium.Documentation.Report
import Scriptorium.Drafting
import Scriptorium.Drafting.Consistency
import Scriptorium.Drafting.Improvement
import Scriptorium.Drafting.Quality
import Scriptorium.Drafting.Specification
import Scriptorium.Duration
import Scriptorium.Fault
import Scriptorium.Forms
import Scriptorium.Forms.Name
import Scriptorium.Grammar
import Scriptorium.Health
import Scriptorium.History.Archive
import Scriptorium.History.Request
import Scriptorium.Ident
import Scriptorium.Inputs
import Scriptorium.Inputs.Intake
import Scriptorium.Json.Reader
import Scriptorium.Json.Writer
import Scriptorium.Main
import Scriptorium.Number
import Scriptorium.Origins
import Scriptorium.Projects
import Scriptorium.Pattern
import Scriptorium.Pattern.Figure
import Scriptorium.Pattern.Flaw
import Scriptorium.Pattern.Layout
import Scriptorium.Pattern.Piece
import Scriptorium.Pattern.Reference
import Scriptorium.Proofs.Database
import Scriptorium.Proofs.Diff.Faithful
import Scriptorium.Proofs.Diff.Hunks
import Scriptorium.Proofs.Diff.Identity
import Scriptorium.Proofs.Diff.Matching
import Scriptorium.Proofs.Diff.Patch
import Scriptorium.Proofs.Fields
import Scriptorium.Proofs.History.Comments
import Scriptorium.Proofs.History.Transcript
import Scriptorium.Proofs.Transcript
import Scriptorium.Proofs.History.Versions
import Scriptorium.Proofs.Number
import Scriptorium.Proofs.Rooms.Handling
import Scriptorium.Proofs.Rooms.Identity
import Scriptorium.Proofs.Rooms.Reaction
import Scriptorium.Proofs.Rooms.Reception
import Scriptorium.Proofs.Rooms.Registers
import Scriptorium.Proofs.Rooms.Run
import Scriptorium.Proofs.Rooms.Session
import Scriptorium.Proofs.Schema.Form
import Scriptorium.Proofs.Users.Privilege
import Scriptorium.Proofs.Web.Serving
import Scriptorium.Rooms.Basic
import Scriptorium.Rooms.Delivery
import Scriptorium.Rooms.Message
import Scriptorium.Rooms.Visit
import Scriptorium.Schema.Check
import Scriptorium.Schema.Finding
import Scriptorium.Schema.Moment
import Scriptorium.Schema.Shape
import Scriptorium.Users
import Scriptorium.Setup
import Scriptorium.Sheets
import Scriptorium.Sorting
import Scriptorium.Source.Format
import Scriptorium.Source.Outline
import Scriptorium.Source.Structure
import Scriptorium.Stamp
import Scriptorium.Stamp.Reading
import Scriptorium.Status
import Scriptorium.Storage.Address
import Scriptorium.Storage.Catalog
import Scriptorium.Storage.Cell
import Scriptorium.Storage.Flaw
import Scriptorium.Storage.Migration
import Scriptorium.Storage.Plan
import Scriptorium.Storage.Real
import Scriptorium.Storage.Store
import Scriptorium.Template.Basic
import Scriptorium.Template.Library
import Scriptorium.Template.Shelf
import Scriptorium.Text.Base64
import Scriptorium.Text.Blank
import Scriptorium.Text.Case
import Scriptorium.Text.CaseTable
import Scriptorium.Text.CodeSet
import Scriptorium.Text.Half
import Scriptorium.Text.Numeral
import Scriptorium.Text.Printable
import Scriptorium.Text.Quoted
import Scriptorium.Text.Search
import Scriptorium.Text.Utf8
import Scriptorium.Text.WordChar
import Scriptorium.Token
import Scriptorium.Token.Reading
import Scriptorium.Value
import Scriptorium.Value.Access
import Scriptorium.Value.Arithmetic
import Scriptorium.Value.Pairs
import Scriptorium.Value.Shown
import Scriptorium.Web.Answer
import Scriptorium.Web.Endpoint
import Scriptorium.Web.Form
import Scriptorium.Web.Options
import Scriptorium.Web.Param
import Scriptorium.Web.Request
import Scriptorium.Web.Route
import Scriptorium.Web.Serve
import Scriptorium.Writing
import Scriptorium.Writing.Prompt
import Scriptorium.Proofs.Schema.Fits
import Scriptorium.Proofs.Forms
import Scriptorium.Proofs.Sorting
import Scriptorium.Proofs.Template.Library
import Scriptorium.Proofs.Web.Run
import Scriptorium.Proofs.Web.Arguments
import Scriptorium.Proofs.Outcome
import Scriptorium.Proofs.Template.Step
import Scriptorium.Proofs.Template.Declared
import Scriptorium.Proofs.Template.Revision
import Scriptorium.Proofs.Template.Frame
import Scriptorium.Proofs.Template.Defaults
import Scriptorium.Proofs.Template.Stored
import Scriptorium.Proofs.Web.Sending
import Scriptorium.Proofs.Template.Listing
import Scriptorium.Proofs.Pattern.Simple
import Scriptorium.Proofs.Template.Renderers
import Scriptorium.Proofs.Documentation.Unset
import Scriptorium.Proofs.Rooms.Sighting
import Scriptorium.Proofs.Rooms.Lobby
import Scriptorium.Proofs.Account
import Scriptorium.Proofs.Projects.Owners
import Scriptorium.Proofs.Projects.Names
import Scriptorium.Proofs.Sheets
import Scriptorium.Proofs.Cabinet.Documents
import Scriptorium.Proofs.Rooms.Broadcast
import Scriptorium.Proofs.Inputs
import Scriptorium.Proofs.History.Comparison
import Scriptorium.Proofs.Template.Rendering
import Scriptorium.Proofs.Template.Copies
import Scriptorium.Proofs.Source.Comments
import Scriptorium.Proofs.Source.Lines
import Scriptorium.Proofs.Template.Acts
import Scriptorium.Proofs.Cabinet.Generation
import Scriptorium.Proofs.Comment.Written
import Scriptorium.Proofs.Documentation.Scores
import Scriptorium.Proofs.Drafting.Sections
import Scriptorium.Proofs.Comment.Arguments
import Scriptorium.Proofs.Comment.Continuation
import Scriptorium.Proofs.Collaborators
import Scriptorium.Proofs.Storage.Rollback
import Scriptorium.Proofs.Template.Order
import Scriptorium.Proofs.Template.Sections
import Scriptorium.Proofs.Origins
