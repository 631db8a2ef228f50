import NullSafeEquality.Inspection.Report
import NullSafeEquality.Text.Lines

/-!
Reports on files. The path is put in front of each line of a report that does not begin with a
blank.
-/

namespace NullSafeEquality.FileReport

def line (path text : String) : String :=
  if text.startsWith " " then text ++ "\n" else path ++ ":" ++ text ++ "\n"

def toText (r : FileReport) : String :=
  String.join ((Text.lines r.report.toText).map (line r.path))

def toJson (r : FileReport) : Json := .object (("path", .string r.path) :: r.report.members)

end NullSafeEquality.FileReport
