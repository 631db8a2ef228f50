import NullSafeEquality.Command.Run

/-!
The program. All files that the arguments name are read first, then the answer is computed, then it
is printed and the output file written.
-/

namespace NullSafeEquality

/-- The number of a refusal of the system, and its wording. -/
def refusal? : IO.Error → Option (UInt32 × String)
  | .noFileOrDirectory _ code details | .inappropriateType _ code details
  | .permissionDenied _ code details | .resourceExhausted _ code details
  | .invalidArgument _ code details | .noSuchThing _ code details | .resourceBusy code details
  | .otherError code details => some (if 0x80000000 ≤ code then 0 - code else code, details)
  | _ => none

/-- The reason why the system refused a file. -/
def FileError.ofSystem (error : IO.Error) : FileError :=
  match refusal? error with
  | some (2, _) => .notFound
  | some (6, _) => .noDevice
  | some (20, _) => .notADirectory
  | some (21, _) => .isADirectory
  | some (28, _) => .noRoom
  | some (36, _) => .nameTooLong
  | some (code, details) => .other (details.capitalize ++ " (os error " ++ toString code ++ ")")
  | none => .other (toString error)

def readText (path : String) : IO (Except FileError String) := do
  try
    match String.fromUTF8? (← IO.FS.readBinFile path) with
    | some text => return .ok text
    | none => return .error .notText
  catch error => return .error (.ofSystem error)

def writeText (path text : String) : IO (Except FileError Unit) := do
  try
    IO.FS.withFile path .write fun handle => do
      handle.write text.toUTF8
      handle.flush
    return .ok ()
  catch error => return .error (.ofSystem error)

/-- The files at some paths and the folder that the program works in. -/
def observe (paths : List String) : IO Command.Surroundings := do
  let files ← paths.mapM fun path => return (path, ← readText path)
  return {
    read := fun path => (files.lookup path).getD (.error .notFound)
    folderName := toString (← IO.currentDir) }

end NullSafeEquality

open NullSafeEquality in
def main (args : List String) : IO UInt32 := do
  let answer ← match Command.run (← observe (Command.inputs args)) args with
    | .answer answer => pure answer
    | .write said path text answer => do
        (← IO.getStderr).putStr said
        answer <$> writeText path text
  (← IO.getStdout).putStr answer.stdout
  (← IO.getStderr).putStr answer.stderr
  return answer.status.toUInt32
