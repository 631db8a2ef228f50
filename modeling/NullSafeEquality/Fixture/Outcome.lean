import NullSafeEquality.Fixture.Markup
import NullSafeEquality.Java.Conversion

/-!
Comparison of expected with produced warnings. Each expectation in turn takes the first finding left
with its range and, if it describes one, its message.
-/

namespace NullSafeEquality

structure FixtureOutcome where
  matched : Nat := 0
  /-- Expected but not produced. -/
  missing : List ExpectedWarning := []
  /-- Produced but not expected. -/
  unexpected : List Diagnostic := []

namespace ExpectedWarning

def accepts (w : ExpectedWarning) (d : Diagnostic) : Bool :=
  d.span.startByte = w.start && d.span.endByte = w.stop && w.descr.all (· == d.message)

def toJson (w : ExpectedWarning) : Json :=
  .object [("range", .object [("start", .natural w.start), ("end", .natural w.stop)]),
    ("line", .natural w.line), ("descr", Json.ofOption .string w.descr)]

/-- A range of bytes. Unlike other records it may have no other members. -/
def range? (j : Json) : Option (Nat × Nat) := do
  let [start, stop] ← j.record? ["start", "end"] | none
  let strict := match j with
    | .object members => members.all fun (key, _) => key = "start" || key = "end"
    | _ => true
  if strict then return (← start.bind Json.word?, ← stop.bind Json.word?) else none

def ofJson? (j : Json) : Option ExpectedWarning := do
  let [range, line, descr] ← j.record? ["range", "line", "descr"] | none
  let (start, stop) ← range.bind range?
  return { start, stop, line := ← line.bind Json.word?
           descr := ← Json.optional? Json.string? descr }

end ExpectedWarning

namespace FixtureOutcome

def passed (o : FixtureOutcome) : Bool := o.missing.isEmpty && o.unexpected.isEmpty

/-- The line on an expectation that was not met. A range that the text does not have gives no
text. -/
def missingLine (source : String) (w : ExpectedWarning) : String :=
  "missing    " ++ toString w.line ++ ": '" ++ (Text.slice? source w.start w.stop).getD "" ++ "' " ++
  w.descr.getD "(any message)" ++ "\n"

def unexpectedLine (d : Diagnostic) : String :=
  "unexpected " ++ toString d.span.startLine ++ ": " ++ d.message ++ "\n"

def toText (o : FixtureOutcome) (source : String) : String :=
  String.join (o.missing.map (missingLine source) ++ o.unexpected.map unexpectedLine) ++
  toString o.matched ++ " matched, " ++ toString o.missing.length ++ " missing, " ++
  toString o.unexpected.length ++ " unexpected\n"

def toJson (o : FixtureOutcome) : Json :=
  .object [("matched", .natural o.matched),
    ("missing", .array (o.missing.map ExpectedWarning.toJson)),
    ("unexpected", .array (o.unexpected.map Diagnostic.toJson))]

def ofJson? (j : Json) : Option FixtureOutcome := do
  let [matched, missing, unexpected] ← j.record? ["matched", "missing", "unexpected"] | none
  return {
    matched := ← matched.bind Json.word?
    missing := ← missing.bind (Json.list? ExpectedWarning.ofJson?)
    unexpected := ← unexpected.bind (Json.list? Diagnostic.ofJson?) }

end FixtureOutcome

namespace Fixture

/-- Let expectations take findings, the first that fits each. -/
def compareAll : List ExpectedWarning → List Diagnostic → FixtureOutcome
  | [], remaining => { unexpected := remaining }
  | w :: rest, remaining =>
      if remaining.any w.accepts then
        let o := compareAll rest (remaining.eraseP w.accepts)
        { o with matched := o.matched + 1 }
      else
        let o := compareAll rest remaining
        { o with missing := w :: o.missing }

def compare (f : Fixture) (diagnostics : List Diagnostic) : FixtureOutcome :=
  compareAll f.expected diagnostics

/-- Inspect the text without markup and compare with what is expected. -/
def check (f : Fixture) (config : InspectionConfig) : FixtureOutcome :=
  f.compare (Java.inspect f.source config).diagnostics

end Fixture
end NullSafeEquality
