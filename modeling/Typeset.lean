import Typeset.Code
import Typeset.Colour
import Typeset.Compact
import Typeset.Decimal.Shortest
import Typeset.Doc.Align
import Typeset.Doc.Basic
import Typeset.Doc.Build
import Typeset.Doc.Describe
import Typeset.Doc.Enclose
import Typeset.Doc.Fill
import Typeset.Doc.Flatten
import Typeset.Doc.Lines
import Typeset.Doc.Plain
import Typeset.Doc.Rewrite
import Typeset.Doc.Sequence
import Typeset.Error
import Typeset.Escape
import Typeset.Inspect.Answer
import Typeset.Inspect.Arguments
import Typeset.Inspect.Document
import Typeset.Json.Form
import Typeset.Json.Lexeme
import Typeset.Json.Number
import Typeset.Json.Source
import Typeset.Json.Value
import Typeset.Layout
import Typeset.Literal
import Typeset.Lookahead
import Typeset.Machine
import Typeset.Main
import Typeset.Options
import Typeset.Page
import Typeset.Place
import Typeset.Proofs.Backtracking
import Typeset.Proofs.Compaction
import Typeset.Proofs.Continuation
import Typeset.Proofs.Feasibility
import Typeset.Proofs.Fit
import Typeset.Proofs.Hereditary
import Typeset.Proofs.Steps
import Typeset.Proofs.Strategies
import Typeset.Proofs.StyleScopes
import Typeset.Proofs.Unstyled
import Typeset.Rendered
import Typeset.Style
import Typeset.Text.Blank
import Typeset.Text.Emoji
import Typeset.Text.Ligature
import Typeset.Text.Lines
import Typeset.Text.Quoted
import Typeset.Text.Range
import Typeset.Text.Unshown
import Typeset.Text.Wide
import Typeset.Text.Width
import Typeset.Text.ZeroWidth
import Typeset.Token
import Typeset.Proofs.Lineless
import Typeset.Proofs.WellBuilt
import Typeset.Proofs.Composition
import Typeset.Proofs.Content
import Typeset.Proofs.Events
import Typeset.Proofs.Record
import Typeset.Proofs.FlatChoices
import Typeset.Proofs.Groups
import Typeset.Proofs.Algebra
import Typeset.Proofs.Indentation
import Typeset.Proofs.Permissiveness
import Typeset.Proofs.Coherence
import Typeset.Proofs.Termination
import Typeset.Proofs.AllBroken
import Typeset.Proofs.Spelling
import Typeset.Proofs.Texts
import Typeset.Proofs.JsonText
import Typeset.Proofs.Inspection
import Typeset.Proofs.Flatness
import Typeset.Proofs.Contexts
import Typeset.Proofs.OneLine
import Typeset.Proofs.ForcedBreaks
import Typeset.Proofs.Failures
import Typeset.Proofs.WiderPages
import Typeset.Proofs.Plainness
import Typeset.Proofs.Displayed
import Typeset.Proofs.Phrases
import Typeset.Proofs.Filling
import Typeset.Proofs.Brackets
import Typeset.Proofs.Reproduction
import Typeset.Proofs.Decoding
import Typeset.Proofs.Rewriting
import Typeset.Proofs.Passages
import Typeset.Proofs.Widths
import Typeset.Proofs.SecondColumn
import Typeset.Proofs.LockStep
