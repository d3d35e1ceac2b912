import Shorthand.Text.Blank
import Shorthand.Text.LowerCase
import Shorthand.Text.Split
import Shorthand.Attribute.Pair
import Shorthand.Attribute.Segment
import Shorthand.Attribute.Map
import Shorthand.Vocabulary
import Shorthand.Line.Endings
import Shorthand.Line.Reading
import Shorthand.Element.Rows
import Shorthand.Element.Html
import Shorthand.Element.Attach
import Shorthand.Line.Kind
import Shorthand.Forest.Document
import Shorthand.Forest.Builder
import Shorthand.Source.Basic
import Shorthand.Json.Document
import Shorthand.Main
import Shorthand.Proofs.Forest.Outline
import Shorthand.Proofs.Parse.Outline
import Shorthand.Proofs.Line.Grammar
import Shorthand.Proofs.Parse.Strictness
import Shorthand.Proofs.Attribute.Pair
import Shorthand.Proofs.Line.Preference
import Shorthand.Proofs.Line.Parts
import Shorthand.Proofs.Parse.RoundTrip
import Shorthand.Proofs.Parse.Concatenation
import Shorthand.Proofs.Attribute.Segment
import Shorthand.Proofs.Line.Endings
import Shorthand.Proofs.Line.Plain
import Shorthand.Proofs.Line.Record
import Shorthand.Proofs.Forest.Behind
import Shorthand.Proofs.Parse.Report
import Shorthand.Proofs.Parse.Accounting
import Shorthand.Proofs.Text.ToldApart
import Shorthand.Proofs.Element.Html
import Shorthand.Proofs.Json.Value
import Shorthand.Proofs.Json.Document
import Shorthand.Proofs.Files.Directory
import Shorthand.Proofs.Files.Session
import Shorthand.Proofs.Source.Output
import Shorthand.Proofs.Cli.Arguments
import Shorthand.Proofs.Cli.Conversion
import Shorthand.Proofs.Cli.Failure
import Shorthand.Proofs.Attribute.Recovery
import Shorthand.Proofs.Line.Capture
import Shorthand.Proofs.Forest.Placement
import Shorthand.Proofs.Forest.LastChild
import Shorthand.Proofs.Parse.Endings
import Shorthand.Proofs.Element.Descent
import Shorthand.Proofs.Attribute.Grouping
import Shorthand.Proofs.Element.Layout
import Shorthand.Proofs.Parse.Layout
import Shorthand.Proofs.Attribute.Decoding
import Shorthand.Proofs.Line.Indentation
import Shorthand.Proofs.Parse.Refusal
import Shorthand.Proofs.Parse.Indentation
import Shorthand.Proofs.Config.Key
import Shorthand.Proofs.Config.Layer
import Shorthand.Proofs.Config.Loading
