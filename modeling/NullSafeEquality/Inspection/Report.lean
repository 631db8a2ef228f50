import NullSafeEquality.Inspection.Walk

/-!
Reports of inspections, as values, as text and as exchanged data. In text an entry begins with the
line and the column, both counted from one; the report on a file puts its path in front of each line
that does not begin with a blank.
-/

namespace NullSafeEquality

/-- A source text as the inspection sees it: its outermost expressions in source order. -/
structure SourceUnit where
  roots : List Expr
  syntaxErrors : List SyntaxError
  sourceHash : String

structure InspectionReport where
  sourceHash : String
  diagnostics : List Diagnostic
  syntaxErrors : List SyntaxError

structure FileReport where
  path : String
  report : InspectionReport

namespace SourceUnit

def inspect (unit : SourceUnit) (config : InspectionConfig) : InspectionReport :=
  { sourceHash := unit.sourceHash
    diagnostics := (Expr.reportAll config unit.roots #[]).toList
    syntaxErrors := unit.syntaxErrors }

end SourceUnit

namespace Diagnostic

def toText (d : Diagnostic) : String :=
  toString d.span.startLine ++ ":" ++ toString (d.span.startCol + 1) ++ ": " ++ d.message ++
  "\n    suggestion: " ++ d.replacement ++ "\n"

end Diagnostic

namespace SyntaxError

def toText (e : SyntaxError) : String :=
  toString e.span.startLine ++ ":" ++ toString (e.span.startCol + 1) ++ ": syntax error: " ++
  e.message ++ " near '" ++ e.sourceText ++ "'\n"

end SyntaxError

namespace InspectionReport

def hasDiagnostics (r : InspectionReport) : Bool := !r.diagnostics.isEmpty

def toText (r : InspectionReport) : String :=
  String.join (r.diagnostics.map Diagnostic.toText ++ r.syntaxErrors.map SyntaxError.toText)

def members (r : InspectionReport) : List (String × Json) :=
  [("source_hash", .string r.sourceHash),
   ("diagnostics", .array (r.diagnostics.map Diagnostic.toJson)),
   ("syntax_errors", .array (r.syntaxErrors.map SyntaxError.toJson))]

def toJson (r : InspectionReport) : Json := .object r.members

def ofJson? (j : Json) : Option InspectionReport := do
  let [sourceHash, diagnostics, syntaxErrors] ←
    j.record? ["source_hash", "diagnostics", "syntax_errors"] | none
  return {
    sourceHash := ← sourceHash.bind Json.string?
    diagnostics := ← diagnostics.bind (Json.list? Diagnostic.ofJson?)
    syntaxErrors := ← syntaxErrors.bind (Json.list? SyntaxError.ofJson?) }

end InspectionReport
end NullSafeEquality
