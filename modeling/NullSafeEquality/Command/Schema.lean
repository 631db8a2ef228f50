import NullSafeEquality.Json.Printer

/-!
Schemas of the data that the program reads and writes: its options, the list of reports on files,
and the outcome of a fixture. Types with a name stand once, in order of their names, and are
referred to.
-/

namespace NullSafeEquality.Schema

/-- Put members that describe themselves behind a description. -/
def described (description : String) (members : List (String × Json)) : Json :=
  .object (("description", .string description) :: members)

def ofType (type : String) : List (String × Json) := [("type", .string type)]

def text : List (String × Json) := ofType "string"

def natural : List (String × Json) :=
  ofType "integer" ++ [("format", .string "uint"), ("minimum", .natural 0)]

def reference (name : String) : List (String × Json) := [("$ref", .string ("#/$defs/" ++ name))]

def listOf (item : List (String × Json)) : List (String × Json) :=
  ofType "array" ++ [("items", .object item)]

def object (properties : List (String × Json)) (required : List String) :
    List (String × Json) :=
  ofType "object" ++
    [("properties", .object properties), ("required", .array (required.map .string))]

def choice (values : List String) : List (String × Json) :=
  text ++ [("enum", .array (values.map .string))]

/-- A text that is one of some, each with a description. -/
def describedChoice (values : List (String × String)) : List (String × Json) :=
  [("oneOf", .array (values.map fun (description, value) =>
    described description (text ++ [("const", .string value)])))]

def diagnostic : String × Json :=
  ("Diagnostic", described "One replaceable expression"
    (object
      [("message", described "`'<expression>' replaceable by 'Objects.equals()' expression`" text),
       ("polarity", .object (reference "Polarity")),
       ("replacement", described "Suggested `Objects.equals(...)` expression" text),
       ("shape", .object (reference "Shape")),
       ("span", .object (reference "Span"))]
      ["span", "message", "replacement", "polarity", "shape"]))

def expectedWarning : String × Json :=
  ("ExpectedWarning", described "A warning the fixture expects"
    (object
      [("descr", described "Expected message, if the markup gave one"
         [("type", .array [.string "string", .string "null"])]),
       ("line", described "1-based line in the stripped source" natural),
       ("range", described "Byte range in the stripped source" (reference "Range_of_uint"))]
      ["range", "line"]))

def fileReport : String × Json :=
  ("FileReport", described "Result of inspecting one file"
    (object
      [("diagnostics", .object (listOf (reference "Diagnostic"))),
       ("path", .object text),
       ("source_hash", .object text),
       ("syntax_errors", .object (listOf (reference "SyntaxErrorInfo")))]
      ["path", "source_hash", "diagnostics", "syntax_errors"]))

def polarity : String × Json :=
  ("Polarity", described "Whether the matched expression is the equality test or its negation"
    (choice ["equals", "not_equals"]))

def range : String × Json :=
  ("Range_of_uint", .object
    (object [("end", .object natural), ("start", .object natural)] ["start", "end"]))

def shape : String × Json :=
  ("Shape", described "Which recognized form matched"
    (describedChoice
      [("`L.equals(R)` with no null check", "unguarded"),
       ("`L != null && L.equals(R)`", "null_guarded"),
       ("`L == R || (L != null && L.equals(R))`", "identity_guarded"),
       ("`L == null || !L.equals(R)`", "negated_null_guarded"),
       ("`L != R && (L == null || !L.equals(R))`", "negated_identity_guarded"),
       ("One of the four conditional forms", "ternary")]))

def span : String × Json :=
  ("Span", described
    ("Source location\n\nLines are 1-based, columns 0-based. Byte offsets index into the parsed\n" ++
      "source text.")
    (object
      (["end_byte", "end_col", "end_line", "start_byte", "start_col", "start_line"].map fun name =>
        (name, .object natural))
      ["start_line", "start_col", "end_line", "end_col", "start_byte", "end_byte"]))

def syntaxError : String × Json :=
  ("SyntaxErrorInfo", described "Information about a syntax error"
    (object
      [("message", described "Error message" text),
       ("source_text", described "The source text with the error" text),
       ("span", described "Source location" (reference "Span"))]
      ["message", "span", "source_text"]))

/-- A whole schema, with the named types that it refers to. -/
def titled (title : String) (members : List (String × Json)) (types : List (String × Json)) :
    Json :=
  let definitions := if types.isEmpty then [] else [("$defs", Json.object types)]
  .object ([("$schema", .string "https://json-schema.org/draft/2020-12/schema"),
    ("title", .string title)] ++ members ++ definitions)

def config : Json :=
  titled "InspectionConfig"
    ([("description", .string "Inspection options")] ++ ofType "object" ++
      [("properties", .object [("ignore_null_check", described
        "Report unguarded `a.equals(b)` calls too, not only the null-guarded\nforms"
        (ofType "boolean" ++ [("default", .bool true)]))])])
    []

def report : Json :=
  titled "Array_of_FileReport" (listOf (reference "FileReport"))
    [diagnostic, fileReport, polarity, shape, span, syntaxError]

def fixture : Json :=
  titled "FixtureOutcome"
    (("description", .string "Comparison of expected against produced warnings") ::
      object
        [("matched", .object natural),
         ("missing", described "Expected but not produced" (listOf (reference "ExpectedWarning"))),
         ("unexpected", described "Produced but not expected" (listOf (reference "Diagnostic")))]
        ["matched", "missing", "unexpected"])
    [diagnostic, expectedWarning, polarity, range, shape, span]

def named : List (String × Json) := [("config", config), ("report", report), ("fixture", fixture)]

end NullSafeEquality.Schema
