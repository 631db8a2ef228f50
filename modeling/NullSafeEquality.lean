import NullSafeEquality.Command.Arguments
import NullSafeEquality.Command.Run
import NullSafeEquality.Command.Schema
import NullSafeEquality.Config
import NullSafeEquality.Config.Reading
import NullSafeEquality.Decimal.Double
import NullSafeEquality.Decimal.Shortest
import NullSafeEquality.Equality.Match
import NullSafeEquality.Equality.Reading
import NullSafeEquality.Expr.Basic
import NullSafeEquality.Expr.Exchange
import NullSafeEquality.Expr.Operator
import NullSafeEquality.Expr.Render
import NullSafeEquality.Failure
import NullSafeEquality.Files.FileError
import NullSafeEquality.Files.Folder
import NullSafeEquality.Fixture.Entity
import NullSafeEquality.Fixture.Markup
import NullSafeEquality.Fixture.Outcome
import NullSafeEquality.Grammar.Confusion
import NullSafeEquality.Grammar.Numbering
import NullSafeEquality.Grammar.Pattern
import NullSafeEquality.Grammar.Production
import NullSafeEquality.Grammar.Rule
import NullSafeEquality.Grammar.Tables
import NullSafeEquality.Inspection.Diagnostic
import NullSafeEquality.Inspection.FileText
import NullSafeEquality.Inspection.Report
import NullSafeEquality.Inspection.Walk
import NullSafeEquality.Java.Conversion
import NullSafeEquality.Java.Declarations
import NullSafeEquality.Java.Expressions
import NullSafeEquality.Java.Grammar
import NullSafeEquality.Java.Lexical
import NullSafeEquality.Java.Statements
import NullSafeEquality.Json.Basic
import NullSafeEquality.Json.Printer
import NullSafeEquality.Language
import NullSafeEquality.Main
import NullSafeEquality.Operand
import NullSafeEquality.Parsing.Automaton
import NullSafeEquality.Parsing.Descent
import NullSafeEquality.Parsing.Grouping
import NullSafeEquality.Parsing.ItemSet
import NullSafeEquality.Parsing.Lexer
import NullSafeEquality.Parsing.Machine
import NullSafeEquality.Parsing.Parser
import NullSafeEquality.Parsing.Repair
import NullSafeEquality.Parsing.Stack
import NullSafeEquality.Parsing.State
import NullSafeEquality.Parsing.Survey
import NullSafeEquality.Parsing.SyntaxNode
import NullSafeEquality.Parsing.Tree
import NullSafeEquality.Span
import NullSafeEquality.Text.Blank
import NullSafeEquality.Text.Bytes
import NullSafeEquality.Text.Digest
import NullSafeEquality.Text.IdentifierChars
import NullSafeEquality.Text.Lines
import NullSafeEquality.Text.Quoted
import NullSafeEquality.Text.Source
import NullSafeEquality.Yaml.BlockScalar
import NullSafeEquality.Yaml.Cursor
import NullSafeEquality.Yaml.Document
import NullSafeEquality.Yaml.Event
import NullSafeEquality.Yaml.Fault
import NullSafeEquality.Yaml.FlowScalar
import NullSafeEquality.Yaml.Resolution
import NullSafeEquality.Yaml.Tag
import NullSafeEquality.Yaml.Token
import NullSafeEquality.Yaml.TokenSource
import NullSafeEquality.Proofs.Ambiguity
import NullSafeEquality.Proofs.Annotation
import NullSafeEquality.Proofs.ArgumentRoles
import NullSafeEquality.Proofs.Balance
import NullSafeEquality.Proofs.Bytes
import NullSafeEquality.Proofs.CheckedFiles
import NullSafeEquality.Proofs.Comparison
import NullSafeEquality.Proofs.Constructs
import NullSafeEquality.Proofs.Conversion
import NullSafeEquality.Proofs.Coverage
import NullSafeEquality.Proofs.Decoding
import NullSafeEquality.Proofs.Derivability
import NullSafeEquality.Proofs.Derivation
import NullSafeEquality.Proofs.Documents
import NullSafeEquality.Proofs.Duality
import NullSafeEquality.Proofs.Effects
import NullSafeEquality.Proofs.Entities
import NullSafeEquality.Proofs.Evaluation
import NullSafeEquality.Proofs.Exchange
import NullSafeEquality.Proofs.FieldOrder
import NullSafeEquality.Proofs.Forms
import NullSafeEquality.Proofs.Growth
import NullSafeEquality.Proofs.Hazards
import NullSafeEquality.Proofs.Markup
import NullSafeEquality.Proofs.Meaning
import NullSafeEquality.Proofs.Misfits
import NullSafeEquality.Proofs.Narrowing
import NullSafeEquality.Proofs.Negations
import NullSafeEquality.Proofs.Nesting
import NullSafeEquality.Proofs.Nodes
import NullSafeEquality.Proofs.Omission
import NullSafeEquality.Proofs.Operands
import NullSafeEquality.Proofs.Order
import NullSafeEquality.Proofs.Origin
import NullSafeEquality.Proofs.Outermost
import NullSafeEquality.Proofs.OutputFile
import NullSafeEquality.Proofs.Parentheses
import NullSafeEquality.Proofs.Picks
import NullSafeEquality.Proofs.Ranges
import NullSafeEquality.Proofs.Readback
import NullSafeEquality.Proofs.Recognition
import NullSafeEquality.Proofs.Rendering
import NullSafeEquality.Proofs.Repetition
import NullSafeEquality.Proofs.Replacement
import NullSafeEquality.Proofs.ReportEntries
import NullSafeEquality.Proofs.SyntaxPaths
import NullSafeEquality.Proofs.Tags
import NullSafeEquality.Proofs.Tokens
