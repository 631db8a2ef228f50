import NullSafeEquality.Config.Reading
import NullSafeEquality.Files.FileError
import NullSafeEquality.Fixture.Markup

/-!
Failures of the program as a whole, with the wording of each.
-/

namespace NullSafeEquality

inductive Failure where
  /-- A source text in a language without a grammar. -/
  | unknownLanguage
  /-- Options that cannot be read, with the path of their file if they stand in one. -/
  | config (path : Option String) (error : ConfigError)
  | markup (error : Fixture.MarkupError)
  | file (error : FileError)
  /-- A command without the files that it needs; the text tells how it is used. -/
  | usage (text : String)
  | unknownCommand
  | unknownSchema (name : String)
  /-- So many files could not be inspected. -/
  | uninspected (count : Nat)

namespace Failure

def message : Failure → String
  | .unknownLanguage => "Code parse error: Cannot parse unknown language"
  | .config none error => "Config error: " ++ error.message
  | .config (some path) error =>
      "Config error: Failed to parse " ++ path ++ ": " ++ error.message
  | .markup error => "Fixture error: " ++ error.message
  | .file error => "IO error: " ++ error.message
  | .usage text => "Usage: " ++ text
  | .unknownCommand => "Unknown command"
  | .unknownSchema name => "Unknown schema: " ++ name
  | .uninspected count => toString count ++ " file(s) could not be inspected"

end Failure
end NullSafeEquality
