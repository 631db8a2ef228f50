import NullSafeEquality.Command.Arguments
import NullSafeEquality.Command.Schema
import NullSafeEquality.Failure
import NullSafeEquality.Files.Folder
import NullSafeEquality.Fixture.Outcome
import NullSafeEquality.Inspection.FileText
import NullSafeEquality.Language

/-!
The command line. A command reads files and answers with two texts and a status: 0 if nothing was
found, 1 if something was, 2 if the command failed. Its main text goes to a file if the arguments
name one. What a command answers is a function of what it reads.
-/

namespace NullSafeEquality.Command

def version : String := "0.1.0"

def configFileName : String := "eqguard.yaml"

/-- What a command sees of the world: the files and the name of the folder that it works in. -/
structure Surroundings where
  read : String → Except FileError String
  folderName : String

/-- How a command ends that does not fail. -/
inductive Verdict where
  | clean | findings
deriving DecidableEq

structure Answer where
  stdout : String := ""
  stderr : String := ""
  status : Nat
deriving DecidableEq

namespace Answer

/-- End with a verdict or a failure, behind what was said already. -/
def conclude (stdout stderr : String) : Except Failure Verdict → Answer
  | .ok .clean => { stdout, stderr, status := 0 }
  | .ok .findings => { stdout, stderr, status := 1 }
  | .error failure =>
      { stdout, stderr := stderr ++ "Error: " ++ failure.message ++ "\n", status := 2 }

end Answer

/-- What a command does: it answers at once, or it says something about errors, writes a text to a
file and answers then. -/
inductive Action where
  | answer (answer : Answer)
  | write (said path text : String) (answer : Except FileError Unit → Answer)

namespace Action

def fail (failure : Failure) : Action := .answer (.conclude "" "" (.error failure))

/-- Hand out a text, to a file if there is one to hold it, and end behind what was said already. -/
def deliver (output : Option String) (text stderr : String) (verdict : Except Failure Verdict) :
    Action :=
  match output with
  | none => .answer (.conclude text stderr verdict)
  | some path => .write stderr path text fun
      | .ok () => .conclude "" ("Written to: " ++ path ++ "\n") verdict
      | .error error => .conclude "" "" (.error (.file error))

end Action

def readConfig (s : Surroundings) (path shownPath : String) : Except Failure InspectionConfig :=
  match s.read path with
  | .error error => .error (.file error)
  | .ok text => (InspectionConfig.ofYaml text).mapError (.config (some shownPath))

/-- The options from the file that the arguments name, or from the one in the folder if there is
one. -/
def givenConfig (s : Surroundings) (args : List String) : Except Failure InspectionConfig :=
  match optionValue? args configOptions with
  | some path => readConfig s path path
  | none =>
      match s.read configFileName with
      | .error .notFound => .ok {}
      | _ => readConfig s configFileName (s.folderName ++ "/" ++ configFileName)

/-- The options of a run. A switch leaves only the guarded forms. -/
def loadConfig (s : Surroundings) (args : List String) : Except Failure InspectionConfig := do
  let config ← givenConfig s args
  return if hasSwitch args "--guarded-only" then { config with ignoreNullCheck := false }
    else config

/-! Inspection of files -/

def inspectFile (s : Surroundings) (config : InspectionConfig) (path : String) :
    Except FileError FileReport := do
  return { path, report := Java.inspect (← s.read path) config }

/-- Files that were inspected, and lines on those that could not be. -/
structure CheckResult where
  reports : List FileReport
  failures : List String

def checkFiles (s : Surroundings) (config : InspectionConfig) : List String → CheckResult
  | [] => { reports := [], failures := [] }
  | path :: rest =>
      let r := checkFiles s config rest
      match inspectFile s config path with
      | .ok report => { r with reports := report :: r.reports }
      | .error error =>
          let line := "Error: " ++ path ++ ": " ++ (Failure.file error).message ++ "\n"
          { r with failures := line :: r.failures }

namespace CheckResult

def found (r : CheckResult) : Nat := r.reports.foldr (fun r n => r.report.diagnostics.length + n) 0

def toText (r : CheckResult) : String :=
  String.join (r.reports.map FileReport.toText) ++ toString r.found ++
  " replaceable expression(s) in " ++ toString r.reports.length ++ " file(s)\n"

def toJson (r : CheckResult) : Json := .array (r.reports.map FileReport.toJson)

def verdict (r : CheckResult) : Except Failure Verdict :=
  if !r.failures.isEmpty then .error (.uninspected r.failures.length)
  else if r.reports.any (·.report.hasDiagnostics) then .ok .findings
  else .ok .clean

end CheckResult

/-- Indented JSON with a line break behind it, or text. -/
def rendered (args : List String) (json : Json) (text : String) : String :=
  if hasSwitch args "--json" then json.pretty ++ "\n" else text

/-- The line on a file whose name does not end as that of a source file. -/
def warning (path : String) : String :=
  if Language.ofPath path = .unknown then
    "Warning: '" ++ path ++ "' does not look like a Java file\n"
  else ""

def check (s : Surroundings) (args : List String) : Action :=
  let files := fileArguments args
  if files.isEmpty then
    .fail (.usage "eqguard check <File.java>... [--json] [--config <file>] [--guarded-only]")
  else
    match loadConfig s args with
    | .error failure => .fail failure
    | .ok config =>
        let r := checkFiles s config files
        .deliver (optionValue? args outputOptions) (rendered args r.toJson r.toText)
          (String.join (files.map warning ++ r.failures)) r.verdict

/-! Other commands -/

def checkFixture (s : Surroundings) (args : List String) (path : String) :
    Except Failure (FixtureOutcome × String) := do
  let config ← loadConfig s args
  let text ← (s.read path).mapError .file
  let fixture ← (Fixture.parse text).mapError .markup
  return (fixture.check config, fixture.source)

def fixture (s : Surroundings) (args : List String) : Action :=
  match fileArguments args with
  | [] => .fail (.usage "eqguard fixture <File.java> [--json] [--config <file>]")
  | path :: _ =>
      match checkFixture s args path with
      | .error failure => .fail failure
      | .ok (outcome, source) =>
          .deliver (optionValue? args outputOptions)
            (rendered args outcome.toJson (outcome.toText source)) ""
            (.ok (if outcome.passed then .clean else .findings))

def sexp (s : Surroundings) (args : List String) : Action :=
  match fileArguments args with
  | [] => .fail (.usage "eqguard sexp <File.java>")
  | path :: _ =>
      match s.read path with
      | .error error => .fail (.file error)
      | .ok text =>
          .deliver (optionValue? args outputOptions) (Java.outline text ++ "\n") "" (.ok .clean)

def schema (args : List String) : Action :=
  match args.head?.getD "list" with
  | "list" =>
      .answer (.conclude ("Available schemas: " ++ ", ".intercalate (Schema.named.map (·.1)) ++ "\n")
        "" (.ok .clean))
  | name =>
      match Schema.named.lookup name with
      | some schema => .answer (.conclude (schema.pretty ++ "\n") "" (.ok .clean))
      | none => .fail (.unknownSchema name)

def usage : String :=
"
eqguard - find null-safe equality tests replaceable by Objects.equals()

USAGE:
    eqguard <COMMAND> [OPTIONS]

COMMANDS:
    check <File.java>...             Report replaceable expressions
    fixture <File.java>              Verify <warning descr=\"...\"> markup
    sexp <File.java>                 Print the tree-sitter S-expression
    schema [config|report|fixture]   Print JSON schema
    version                          Print version

OPTIONS:
    --json                  JSON output format (check, fixture)
    --config <file>         Config file (default: ./eqguard.yaml if present)
    --guarded-only          Do not report bare a.equals(b) calls
    --output <file>         Output file (default: stdout)

EXIT STATUS:
    0 nothing found, 1 findings or fixture mismatch, 2 error

EXAMPLES:
    eqguard check src/main/java/Foo.java src/main/java/Bar.java
    eqguard check Foo.java --guarded-only --json
    RUST_LOG=eqguard=debug eqguard fixture EqualsReplaceableByObjectsCall.java

"

def run (s : Surroundings) : List String → Action
  | [] => .answer { stdout := usage, status := 2 }
  | command :: args =>
      match command with
      | "check" => check s args
      | "fixture" => fixture s args
      | "sexp" => sexp s args
      | "schema" => schema args
      | "version" | "--version" | "-v" =>
          .answer (.conclude ("eqguard " ++ version ++ "\n") "" (.ok .clean))
      | "help" | "--help" | "-h" => .answer (.conclude usage "" (.ok .clean))
      | _ =>
          .answer (.conclude usage ("Unknown command: " ++ command ++ "\n") (.error .unknownCommand))

/-- The paths of all files that the program may read for its arguments. -/
def inputs : List String → List String
  | [] => []
  | _ :: args => configFileName :: (optionValue? args configOptions).toList ++ fileArguments args

/-- Put what went to the standard streams before an answer in front of it. -/
def Answer.after (said text : String) (stream : Option Stream) (a : Answer) : Answer :=
  { a with
    stdout := (if stream = some .output then text else "") ++ a.stdout
    stderr := said ++ (if stream = some .errors then text else "") ++ a.stderr }

/-- Run the program in a folder that is held as a value. -/
def runIn (folder : Folder) (folderName : String) (args : List String) : Answer × Folder :=
  match run { read := folder.read, folderName } args with
  | .answer answer => (answer, folder)
  | .write said path text answer =>
      match folder.write path text with
      | .ok (folder, stream) => ((answer (.ok ())).after said text stream, folder)
      | .error error => ((answer (.error error)).after said text none, folder)

end NullSafeEquality.Command
