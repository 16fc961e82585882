import Stencil.Source.Map
import Stencil.Parser.Parse
import Stencil.Json
import Stencil.Journal.Basic
import Stencil.Preferences
import Stencil.Parser.Report
import Stencil.Facts.Collect
import Stencil.Facts.Clients
import Stencil.Decimal.Ratio
import Stencil.Delimiters.Settings
import Stencil.Files.Template
import Stencil.Check.Output
import Stencil.Check.Statistics
import Stencil.Check.Outline
import Stencil.Batch.Schedule
import Stencil.Batch.Discovery
import Stencil.Batch.Run
import Stencil.Console.Run
import Stencil.Main
import Stencil.Proofs.Tree.Growth
import Stencil.Proofs.Parser.Growth
import Stencil.Proofs.Parser.Productions
import Stencil.Proofs.Parser.Statements
import Stencil.Proofs.Parser.Progress
import Stencil.Proofs.Lexer.Reading
import Stencil.Proofs.Parser.Coverage
import Stencil.Proofs.Delimiters.Usable
import Stencil.Proofs.Lexer.Agreement
import Stencil.Proofs.Lexer.Stability
import Stencil.Proofs.Lexer.Resuming
import Stencil.Proofs.Lexer.Layout
import Stencil.Proofs.Lexer.Kept
import Stencil.Proofs.Lexer.Relex
import Stencil.Proofs.Grammar.Expression
import Stencil.Proofs.Grammar.Opening
import Stencil.Proofs.Parser.Arrival
import Stencil.Proofs.Parser.Operands
import Stencil.Proofs.Parser.Operators
import Stencil.Proofs.Parser.Lists
import Stencil.Proofs.Parser.Headers
import Stencil.Proofs.Parser.Bodies
import Stencil.Proofs.Parser.Templates
import Stencil.Proofs.Lexer.Tiling
import Stencil.Proofs.Lexer.Restart
import Stencil.Proofs.Parser.Answers
import Stencil.Proofs.Parser.Soundness
import Stencil.Proofs.Parser.Abreast
import Stencil.Proofs.Containment.Expression
import Stencil.Proofs.Containment.Header
import Stencil.Proofs.Containment.Splice
import Stencil.Proofs.Containment.Window
import Stencil.Proofs.Containment.Swap
import Stencil.Proofs.Containment.Entering
import Stencil.Proofs.Containment.Tag
import Stencil.Proofs.Containment.Template
import Stencil.Proofs.Containment.Recovery
import Stencil.Proofs.Lexer.Delimited
import Stencil.Proofs.Lexer.Table
import Stencil.Proofs.Parser.History
import Stencil.Proofs.Parser.Routine
import Stencil.Proofs.Tree.Nodes
import Stencil.Proofs.Outline.Inside
import Stencil.Proofs.Outline.Tag
import Stencil.Proofs.Outline.Basic
import Stencil.Proofs.Outline.Content
import Stencil.Proofs.Outline.Tags
import Stencil.Proofs.Outline.Clean
import Stencil.Proofs.Outline.Pairing
import Stencil.Proofs.Outline.Sites
import Stencil.Proofs.Outline.Matching
import Stencil.Proofs.Outline.Raw
import Stencil.Proofs.Lexer.Reuse
import Stencil.Proofs.Coupling.Steps
import Stencil.Proofs.Coupling.Expression
import Stencil.Proofs.Coupling.Header
import Stencil.Proofs.Coupling.Template
import Stencil.Proofs.Tree.Ranges
import Stencil.Proofs.Coupling.Ranges
import Stencil.Proofs.Text.Whole
import Stencil.Proofs.Lexer.Boundaries
import Stencil.Proofs.Lexer.Covering
import Stencil.Proofs.Parser.Ranges
import Stencil.Proofs.Token.Significant
import Stencil.Proofs.Tree.Bare
import Stencil.Proofs.Coupling.Space
import Stencil.Proofs.Tree.Embedding
import Stencil.Proofs.Coupling.Embedding
import Stencil.Proofs.Coupling.Tag
import Stencil.Proofs.Coupling.Interchange
import Stencil.Proofs.Lexer.Spelling
import Stencil.Proofs.Lexer.Respelling
import Stencil.Proofs.Coupling.Respelling
import Stencil.Proofs.Lexer.Between
import Stencil.Proofs.Lexer.Concatenation
import Stencil.Proofs.Coupling.Leading
import Stencil.Proofs.Coupling.Front
import Stencil.Proofs.Coupling.Concatenation
import Stencil.Proofs.Facts.Space
import Stencil.Proofs.Facts.Shelf
import Stencil.Proofs.Facts.Clients
import Stencil.Proofs.Lexer.Verbatim
import Stencil.Proofs.Tree.Building
import Stencil.Proofs.Lexer.Limit
import Stencil.Proofs.Parser.Resumed
import Stencil.Proofs.Batch.Run
import Stencil.Proofs.Console.Status
import Stencil.Proofs.Lexer.Lexeme
import Stencil.Proofs.Lexer.Maximal
import Stencil.Proofs.Lexer.Contents
import Stencil.Proofs.Lexer.Printing
import Stencil.Proofs.Lexer.Accesses
import Stencil.Proofs.Grammar.Dotted
import Stencil.Proofs.Parser.Accesses
import Stencil.Proofs.Tree.Composition
import Stencil.Proofs.Parser.Composition
import Stencil.Proofs.Facts.Reading
import Stencil.Proofs.Facts.Collecting
import Stencil.Proofs.Lexer.Order
import Stencil.Proofs.Source.Rendering
import Stencil.Proofs.Parser.Traversals
import Stencil.Proofs.Coupling.Capped
import Stencil.Proofs.Facts.Unquoting
import Stencil.Proofs.Journal.Collecting
import Stencil.Proofs.Batch.Discovery
import Stencil.Proofs.Parser.Height
import Stencil.Proofs.Batch.Extensions
import Stencil.Proofs.Parser.Restraint
import Stencil.Proofs.Parser.Balance
