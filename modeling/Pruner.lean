import Pruner.Assignment.Erase
import Pruner.Assignment.Pattern
import Pruner.Comma
import Pruner.Component.Document
import Pruner.Component.Expression
import Pruner.Component.Removal
import Pruner.Component.Section
import Pruner.Decimal.Binary
import Pruner.Decimal.Notation
import Pruner.Decimal.Shortest
import Pruner.Environment
import Pruner.Failure
import Pruner.Gate
import Pruner.Log
import Pruner.Markup.Character
import Pruner.Markup.Construction.End
import Pruner.Markup.Construction.Formatting
import Pruner.Markup.Construction.Run
import Pruner.Markup.Construction.Start
import Pruner.Markup.Construction.State
import Pruner.Markup.Construction.Text
import Pruner.Markup.Doctype
import Pruner.Markup.Element
import Pruner.Markup.Name
import Pruner.Markup.NamedCharacter
import Pruner.Markup.Node
import Pruner.Markup.Outline
import Pruner.Markup.RawText
import Pruner.Markup.Reference
import Pruner.Markup.Tag
import Pruner.Markup.Token
import Pruner.Markup.Vocabulary
import Pruner.Object.Cut
import Pruner.Object.Key
import Pruner.Object.Property
import Pruner.Pass
import Pruner.Proofs.Assignment.Erasure
import Pruner.Proofs.Assignment.Expression
import Pruner.Proofs.Assignment.Lookup
import Pruner.Proofs.Assignment.Pattern
import Pruner.Proofs.Assignment.Splice
import Pruner.Proofs.Comma.Runs
import Pruner.Proofs.Component.Attribute
import Pruner.Proofs.Component.Block
import Pruner.Proofs.Component.Frame
import Pruner.Proofs.Component.Lifting
import Pruner.Proofs.Component.Lookup
import Pruner.Proofs.Component.ObjectLiteral
import Pruner.Proofs.Component.Reader
import Pruner.Proofs.Component.SelfClosing
import Pruner.Proofs.Markup.Block
import Pruner.Proofs.Markup.Name
import Pruner.Proofs.Markup.Tag
import Pruner.Proofs.Object.Composition
import Pruner.Proofs.Object.Cutting
import Pruner.Proofs.Object.Deletion
import Pruner.Proofs.Object.Extent
import Pruner.Proofs.Object.Filter
import Pruner.Proofs.Object.Joints
import Pruner.Proofs.Object.Keys
import Pruner.Proofs.Object.Laminar
import Pruner.Proofs.Object.Levels
import Pruner.Proofs.Object.Lookup
import Pruner.Proofs.Object.SpanFilter
import Pruner.Proofs.Object.Steady
import Pruner.Proofs.Object.Stripping
import Pruner.Proofs.Pass.Flag
import Pruner.Proofs.Pass.Gate
import Pruner.Proofs.Pass.Outcome
import Pruner.Proofs.Scan.Agreement
import Pruner.Proofs.Scan.Course
import Pruner.Proofs.Scan.Excerpt
import Pruner.Proofs.Scan.Fragment
import Pruner.Proofs.Scan.Laminar
import Pruner.Proofs.Scan.Literal
import Pruner.Proofs.Scan.Lookup
import Pruner.Proofs.Scan.Reach
import Pruner.Proofs.Scan.SelfClosing
import Pruner.Proofs.Scan.Split
import Pruner.Proofs.Scan.Surroundings
import Pruner.Proofs.Scan.Traversal
import Pruner.Proofs.Session.History
import Pruner.Proofs.Source.Leftovers
import Pruner.Proofs.Source.Lookup
import Pruner.Proofs.Source.Mention
import Pruner.Proofs.Source.Survival
import Pruner.Proofs.Text.Quoted
import Pruner.Proofs.Text.Thinning
import Pruner.Scan.Bracket
import Pruner.Scan.Closing
import Pruner.Scan.Literal
import Pruner.Scan.Position
import Pruner.Scan.Segment
import Pruner.Scan.Span
import Pruner.Session
import Pruner.Settings
import Pruner.Source
import Pruner.Text.Blank
import Pruner.Text.CodeRange
import Pruner.Text.Escape
import Pruner.Text.Lower
import Pruner.Text.Printable
import Pruner.Text.Quoted
import Pruner.Text.RawText
import Pruner.Text.Word
import Pruner.Value
