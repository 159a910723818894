import TemplateVariables.Collector
import TemplateVariables.Command
import TemplateVariables.CommandLine
import TemplateVariables.Console
import TemplateVariables.Delimiter
import TemplateVariables.Diagnostic
import TemplateVariables.Diagnostic.Canvas
import TemplateVariables.Diagnostic.Drawing
import TemplateVariables.Diagnostic.Mark
import TemplateVariables.Diagnostic.Place
import TemplateVariables.Diagnostic.SourceLine
import TemplateVariables.Diagnostic.Window
import TemplateVariables.DrawnConsole
import TemplateVariables.Expr
import TemplateVariables.Expr.Cursor
import TemplateVariables.Expr.Parser
import TemplateVariables.Extraction
import TemplateVariables.Input
import TemplateVariables.Invocation
import TemplateVariables.JsonTree
import TemplateVariables.Lexeme
import TemplateVariables.Lexeme.Cut
import TemplateVariables.Lexeme.Interior
import TemplateVariables.LineIndex
import TemplateVariables.Log
import TemplateVariables.Log.Events
import TemplateVariables.Main
import TemplateVariables.NameSet
import TemplateVariables.Node
import TemplateVariables.Node.Parser
import TemplateVariables.Node.Statement
import TemplateVariables.Outcome
import TemplateVariables.ParseError
import TemplateVariables.Program
import TemplateVariables.Scope
import TemplateVariables.Settings
import TemplateVariables.Span
import TemplateVariables.Text.Alphabetic
import TemplateVariables.Text.Blank
import TemplateVariables.Text.Bytes
import TemplateVariables.Text.CodeRanges
import TemplateVariables.Text.Columns
import TemplateVariables.Text.Find
import TemplateVariables.Text.Numeric
import TemplateVariables.Text.Width
import TemplateVariables.Token
import TemplateVariables.Token.Piece
import TemplateVariables.Toml
import TemplateVariables.Toml.Parser
import TemplateVariables.Toml.Token
import TemplateVariables.Toml.Word
import TemplateVariables.Walk
import TemplateVariables.Proofs.Addresses
import TemplateVariables.Proofs.Collecting
import TemplateVariables.Proofs.CommandAgreement
import TemplateVariables.Proofs.CursorPositions
import TemplateVariables.Proofs.DirectReading
import TemplateVariables.Proofs.Expr.Agreement
import TemplateVariables.Proofs.Expr.Brackets
import TemplateVariables.Proofs.Expr.Completeness
import TemplateVariables.Proofs.Expr.Context
import TemplateVariables.Proofs.Expr.Continuations
import TemplateVariables.Proofs.Expr.ErrorPlaces
import TemplateVariables.Proofs.Expr.Lexemes
import TemplateVariables.Proofs.Expr.Nesting
import TemplateVariables.Proofs.Expr.Occurrences
import TemplateVariables.Proofs.Expr.Operands
import TemplateVariables.Proofs.Expr.Precedence
import TemplateVariables.Proofs.Expr.Printing
import TemplateVariables.Proofs.Expr.Progress
import TemplateVariables.Proofs.Expr.Reading
import TemplateVariables.Proofs.Expr.RecursiveCalls
import TemplateVariables.Proofs.Expr.Rules
import TemplateVariables.Proofs.Expr.Sound
import TemplateVariables.Proofs.Expr.Spanless
import TemplateVariables.Proofs.Expr.Spelling
import TemplateVariables.Proofs.Expr.TestSpellings
import TemplateVariables.Proofs.Expr.Words
import TemplateVariables.Proofs.ExtractedNames
import TemplateVariables.Proofs.ForwardReading
import TemplateVariables.Proofs.FreeOccurrences
import TemplateVariables.Proofs.InsertionHistory
import TemplateVariables.Proofs.LayeredSettings
import TemplateVariables.Proofs.Lexeme.Ending
import TemplateVariables.Proofs.Lexeme.LongestNumber
import TemplateVariables.Proofs.Lexeme.Writing
import TemplateVariables.Proofs.LexicalScope
import TemplateVariables.Proofs.LineLookup
import TemplateVariables.Proofs.LoopPasses
import TemplateVariables.Proofs.Nesting
import TemplateVariables.Proofs.Node.Agreement
import TemplateVariables.Proofs.Node.BlockMachine
import TemplateVariables.Proofs.Node.Brackets
import TemplateVariables.Proofs.Node.ErrorPlaces
import TemplateVariables.Proofs.Node.Identifiers
import TemplateVariables.Proofs.Node.Inert
import TemplateVariables.Proofs.Node.Joining
import TemplateVariables.Proofs.Node.Lockstep
import TemplateVariables.Proofs.Node.Nesting
import TemplateVariables.Proofs.Node.Occurrences
import TemplateVariables.Proofs.Node.Opener
import TemplateVariables.Proofs.Node.Printing
import TemplateVariables.Proofs.Node.Proper
import TemplateVariables.Proofs.Node.Segments
import TemplateVariables.Proofs.Node.Siblings
import TemplateVariables.Proofs.Node.Site
import TemplateVariables.Proofs.Node.Sound
import TemplateVariables.Proofs.Node.Spanless
import TemplateVariables.Proofs.Node.Statements
import TemplateVariables.Proofs.Node.TagTrees
import TemplateVariables.Proofs.Node.TargetPatterns
import TemplateVariables.Proofs.Node.Targets
import TemplateVariables.Proofs.Node.TreeMachine
import TemplateVariables.Proofs.Node.TreeSteps
import TemplateVariables.Proofs.PromisedNames
import TemplateVariables.Proofs.ReadingOrder
import TemplateVariables.Proofs.RecursiveReaders
import TemplateVariables.Proofs.Renaming
import TemplateVariables.Proofs.ReportedErrors
import TemplateVariables.Proofs.ScopeHistory
import TemplateVariables.Proofs.SiblingScope
import TemplateVariables.Proofs.SoundTrees
import TemplateVariables.Proofs.SpanArithmetic
import TemplateVariables.Proofs.SpanCover
import TemplateVariables.Proofs.SpanOrder
import TemplateVariables.Proofs.Subtrees
import TemplateVariables.Proofs.Token.Coverage
import TemplateVariables.Proofs.Token.ErrorPlaces
import TemplateVariables.Proofs.Token.Joining
import TemplateVariables.Proofs.Token.Markers
import TemplateVariables.Proofs.Token.Places
import TemplateVariables.Proofs.Token.RawBlocks
import TemplateVariables.Proofs.Token.Remarking
import TemplateVariables.Proofs.Token.Scanning
import TemplateVariables.Proofs.Token.Shifting
import TemplateVariables.Proofs.Token.Texts
import TemplateVariables.Proofs.Unlabelled
import TemplateVariables.Proofs.WalkedNames
import TemplateVariables.Proofs.WhitespaceMarkers
