/-!
Roles of the arguments of a command. An option with a value takes the argument behind it; every
other argument that begins with a dash is a switch; the rest name files. Of an option that is given
more than once the first one counts.
-/

namespace NullSafeEquality.Command

def configOptions : List String := ["--config", "-c"]

def outputOptions : List String := ["--output", "-o"]

def valueOptions : List String := configOptions ++ outputOptions

/-- The arguments that name files. The flag says whether the next one is the value of an option. -/
def filesFrom : Bool → List String → List String
  | _, [] => []
  | true, _ :: rest => filesFrom false rest
  | false, arg :: rest =>
      if valueOptions.contains arg then filesFrom true rest
      else if arg.startsWith "-" then filesFrom false rest
      else arg :: filesFrom false rest

def fileArguments (args : List String) : List String := filesFrom false args

def hasSwitch (args : List String) (name : String) : Bool := args.contains name

/-- The argument behind the first one that is among some names. -/
def optionValue? (args : List String) (names : List String) : Option String :=
  match args.dropWhile (!names.contains ·) with
  | _ :: value :: _ => some value
  | _ => none

end NullSafeEquality.Command
