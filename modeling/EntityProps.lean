import EntityProps.Command.Invocation
import EntityProps.Command.Run
import EntityProps.Config
import EntityProps.Config.File
import EntityProps.Config.Schema
import EntityProps.Data
import EntityProps.Declaration
import EntityProps.Directory
import EntityProps.Grammar
import EntityProps.Json.Reader
import EntityProps.Json.Writer
import EntityProps.Kind
import EntityProps.Main
import EntityProps.Manifest
import EntityProps.Output.Format
import EntityProps.Output.Group
import EntityProps.Output.Inspection
import EntityProps.Output.Listing
import EntityProps.Output.Paint
import EntityProps.Output.Report
import EntityProps.ParseError
import EntityProps.Parser
import EntityProps.Pattern
import EntityProps.Pattern.Bracket
import EntityProps.Pattern.CharSet
import EntityProps.Pattern.Escape
import EntityProps.Pattern.Machine
import EntityProps.Pattern.Matching
import EntityProps.Pattern.Node
import EntityProps.Pattern.Reader
import EntityProps.Pattern.Shape
import EntityProps.Proofs.Binding
import EntityProps.Proofs.Builtin
import EntityProps.Proofs.Canonical
import EntityProps.Proofs.Concatenation
import EntityProps.Proofs.Configured
import EntityProps.Proofs.Demands
import EntityProps.Proofs.Directory
import EntityProps.Proofs.Display
import EntityProps.Proofs.ExitCode
import EntityProps.Proofs.Extension
import EntityProps.Proofs.History
import EntityProps.Proofs.Loading
import EntityProps.Proofs.Malformed
import EntityProps.Proofs.Manifests
import EntityProps.Proofs.Marker
import EntityProps.Proofs.Meaning
import EntityProps.Proofs.Numeral
import EntityProps.Proofs.Outcome
import EntityProps.Proofs.Pattern.Anchored
import EntityProps.Proofs.Pattern.Continued
import EntityProps.Proofs.Pattern.Enclosed
import EntityProps.Proofs.Pattern.Steps
import EntityProps.Proofs.Pattern.Matches
import EntityProps.Proofs.Precedence
import EntityProps.Proofs.Rearrangement
import EntityProps.Proofs.Records
import EntityProps.Proofs.Renaming
import EntityProps.Proofs.Rendering
import EntityProps.Proofs.Reports
import EntityProps.Proofs.Results
import EntityProps.Proofs.Saving
import EntityProps.Proofs.Settings
import EntityProps.Proofs.Shorthand
import EntityProps.Proofs.Slot
import EntityProps.Proofs.Tightening
import EntityProps.Proofs.Toml.Document
import EntityProps.Proofs.Toml.Quoted
import EntityProps.Proofs.Toml.Statements
import EntityProps.Proofs.Toml.Values
import EntityProps.PropertyGroup
import EntityProps.Record
import EntityProps.Registry
import EntityProps.Report
import EntityProps.Rule
import EntityProps.Text.Blank
import EntityProps.Text.Bytes
import EntityProps.Text.CaseFold
import EntityProps.Text.Category
import EntityProps.Text.Later
import EntityProps.Text.Numeral
import EntityProps.Text.Property
import EntityProps.Text.PropertyName
import EntityProps.Text.Ranges
import EntityProps.Text.Script
import EntityProps.Text.Unprintable
import EntityProps.Text.Word
import EntityProps.TokenGroup
import EntityProps.Toml.Moment
import EntityProps.Toml.Reader
import EntityProps.Toml.Scalar
import EntityProps.Toml.Table
import EntityProps.Toml.Text
import EntityProps.Toml.Writer
import EntityProps.Proofs.Pattern.Enclosed
import EntityProps.Proofs.WrittenSettings
import EntityProps.Proofs.Json.Scalars
import EntityProps.Proofs.Json.Trees
import EntityProps.Proofs.Readback
import EntityProps.Proofs.Cursor
import EntityProps.Proofs.Display
