import FencedHighlight.Text
import FencedHighlight.Unicode.RangeTable
import FencedHighlight.Unicode.CaseFolding
import FencedHighlight.Unicode.Derived
import FencedHighlight.Unicode.Script
import FencedHighlight.Unicode.ScriptExtension
import FencedHighlight.Unicode.Age
import FencedHighlight.Unicode.Segment
import FencedHighlight.Unicode.Hidden
import FencedHighlight.Unicode.Category.Letter
import FencedHighlight.Unicode.Category.Mark
import FencedHighlight.Unicode.Category.Number
import FencedHighlight.Unicode.Category.Punctuation
import FencedHighlight.Unicode.Category.Symbol
import FencedHighlight.Unicode.Category.Separator
import FencedHighlight.Unicode.Category.Other
import FencedHighlight.Unicode.Property
import FencedHighlight.Pattern.CharClass
import FencedHighlight.Pattern.Tree
import FencedHighlight.Pattern.Bracket
import FencedHighlight.Pattern.Reader
import FencedHighlight.Pattern.Limit
import FencedHighlight.Pattern.Arrangement
import FencedHighlight.Pattern.Program
import FencedHighlight.Pattern.Machine
import FencedHighlight.Pattern.Search
import FencedHighlight.Rule
import FencedHighlight.Grammar
import FencedHighlight.Token
import FencedHighlight.StyleRange
import FencedHighlight.Projection
import FencedHighlight.Tokenizer
import FencedHighlight.CodeBlock
import FencedHighlight.Toml.Reader
import FencedHighlight.Files
import FencedHighlight.Settings
import FencedHighlight.GrammarFile.Definition
import FencedHighlight.GrammarFile.Reading
import FencedHighlight.GrammarFile.Compilation
import FencedHighlight.Registry
import FencedHighlight.Registry.Loading
import FencedHighlight.Builtin.Css
import FencedHighlight.Builtin.JavaScript
import FencedHighlight.Builtin.Markup
import FencedHighlight.Builtin.Mips
import FencedHighlight.Builtin.Svelte
import FencedHighlight.Registry.Builtin
import FencedHighlight.Engine
import FencedHighlight.BlockCache
import FencedHighlight.QuotedText
import FencedHighlight.Scheduler.Pass
import FencedHighlight.Scheduler
import FencedHighlight.Scheduler.Session
import FencedHighlight.Scheduler.Description
import FencedHighlight.CommandLine
import FencedHighlight.Main
import FencedHighlight.Proofs.Tokenizer.Coverage
import FencedHighlight.Proofs.Scheduler.Caching
import FencedHighlight.Proofs.Scheduler.Snapshot
import FencedHighlight.Proofs.Scheduler.Execution
import FencedHighlight.Proofs.Text.Boundary
import FencedHighlight.Proofs.Tokenizer.Nesting
import FencedHighlight.Proofs.Pattern.Span
import FencedHighlight.Proofs.Rule.Inside
import FencedHighlight.Proofs.Tokenizer.Termination
import FencedHighlight.Proofs.Tokenizer.Recursion
import FencedHighlight.Proofs.Projection.Order
import FencedHighlight.Proofs.Engine.Validity
import FencedHighlight.Proofs.Pattern.Layout
import FencedHighlight.Proofs.Pattern.Progress
import FencedHighlight.Proofs.Pattern.Assembly
import FencedHighlight.Proofs.Pattern.Compilation
import FencedHighlight.Proofs.Pattern.Beginning
import FencedHighlight.Proofs.Pattern.Matches
import FencedHighlight.Proofs.Pattern.Numbering
import FencedHighlight.Proofs.Pattern.Written
import FencedHighlight.Proofs.Tokenizer.Safety
import FencedHighlight.Proofs.Tokenizer.Unguarded
import FencedHighlight.Proofs.Scheduler.Failure
import FencedHighlight.Proofs.Scheduler.Merging
import FencedHighlight.Proofs.Registry.Installation
import FencedHighlight.Proofs.Registry.Contents
import FencedHighlight.Proofs.Delimiters.Lookahead
import FencedHighlight.Proofs.Delimiters.Brackets
import FencedHighlight.Proofs.Delimiters.Pair
import FencedHighlight.Proofs.Delimiters.Structure
import FencedHighlight.Proofs.Delimiters.Tree
import FencedHighlight.Proofs.Registry.SelfEmbedding
import FencedHighlight.Proofs.CodeBlock.Grammar
import FencedHighlight.Proofs.StyleRange.Sorting
import FencedHighlight.Proofs.Engine.Languages
import FencedHighlight.Proofs.Tokenizer.Resolution
import FencedHighlight.Proofs.Registry.Resolution
import FencedHighlight.Proofs.CodeBlock.Body
import FencedHighlight.Proofs.Pattern.Participation
import FencedHighlight.Proofs.Pattern.Evaluation
import FencedHighlight.Proofs.Registry.Origin
import FencedHighlight.Proofs.Registry.Builtins
import FencedHighlight.Proofs.Text.Leftmost
import FencedHighlight.Proofs.Pattern.Leftmost
import FencedHighlight.Proofs.Delimiters.Rounds
import FencedHighlight.Proofs.Delimiters.Limit
import FencedHighlight.Proofs.Delimiters.Literal
import FencedHighlight.Proofs.Delimiters.Counting
import FencedHighlight.Proofs.Delimiters.Empty
import FencedHighlight.Proofs.Rule.Least
import FencedHighlight.Proofs.Tokenizer.Choice
import FencedHighlight.Proofs.Engine.Position
import FencedHighlight.Proofs.Tokenizer.Chain
import FencedHighlight.Proofs.Tokenizer.Isolation
import FencedHighlight.Proofs.Registry.Copy
import FencedHighlight.Proofs.CodeBlock.Growth
import FencedHighlight.Proofs.Registry.Embedding
import FencedHighlight.Proofs.Engine.Overlap
import FencedHighlight.Proofs.Element.Region
import FencedHighlight.Proofs.Grammar.Extension
import FencedHighlight.Proofs.Registry.Placement
import FencedHighlight.Proofs.Token.Walk
import FencedHighlight.Proofs.GrammarFile.Compilation
