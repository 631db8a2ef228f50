import NullSafeEquality.Equality.Match
import NullSafeEquality.Expr.Exchange

/-!
Findings and syntax errors, as an inspection reports them.
-/

namespace NullSafeEquality

structure Diagnostic where
  span : Span
  message : String
  /-- The suggested null-safe call. -/
  replacement : String
  polarity : Polarity
  shape : Shape
deriving DecidableEq

/-- One place where a source text does not fit the grammar. -/
structure SyntaxError where
  message : String
  span : Span
  /-- The beginning of the text at that place. -/
  sourceText : String
deriving DecidableEq

namespace Expr

def message (e : Expr) : String :=
  "'" ++ e.render ++ "' replaceable by 'Objects.equals()' expression"

end Expr

namespace Diagnostic

def ofMatch (e : Expr) (found : EqualsMatch) : Diagnostic :=
  { span := found.span
    message := e.message
    replacement := found.replacement
    polarity := found.polarity
    shape := found.shape }

def toJson (d : Diagnostic) : Json :=
  .object [("span", d.span.toJson), ("message", .string d.message),
    ("replacement", .string d.replacement), ("polarity", .string d.polarity.label),
    ("shape", .string d.shape.label)]

def ofJson? (j : Json) : Option Diagnostic := do
  let [span, message, replacement, polarity, shape] ←
    j.record? ["span", "message", "replacement", "polarity", "shape"] | none
  return {
    span := ← span.bind Span.ofJson?
    message := ← message.bind Json.string?
    replacement := ← replacement.bind Json.string?
    polarity := ← polarity.bind (Json.choice? Polarity.all Polarity.label)
    shape := ← shape.bind (Json.choice? Shape.all Shape.label) }

end Diagnostic

namespace SyntaxError

def toJson (e : SyntaxError) : Json :=
  .object [("message", .string e.message), ("span", e.span.toJson),
    ("source_text", .string e.sourceText)]

def ofJson? (j : Json) : Option SyntaxError := do
  let [message, span, sourceText] ← j.record? ["message", "span", "source_text"] | none
  return {
    message := ← message.bind Json.string?
    span := ← span.bind Span.ofJson?
    sourceText := ← sourceText.bind Json.string? }

end SyntaxError
end NullSafeEquality
