import NullSafeEquality.Files.FileError

/-!
A working folder as a value: what stands in it, each entry under the names that lead to it. Paths are
looked up name by name, and every name but the last must lead to a folder. What stands outside of the
folder is a parameter.
-/

namespace NullSafeEquality

/-- The standard streams of a program. -/
inductive Stream where
  | input | output | errors
deriving DecidableEq

inductive Entry where
  | folder
  | file (bytes : ByteArray)
  /-- What is read from a device, and what becomes of a text that is written to it. -/
  | device (text : Except FileError String) (taken : Except FileError (Option Stream))

namespace Entry

/-- A standard stream. Nothing comes from any of them. -/
def ofStream (stream : Stream) : Entry := .device (.ok "") (.ok (some stream))

end Entry

/-- The devices of every system and a few of its folders, under the names that lead to them from the
root. -/
def systemEntries : List (List String × Entry) :=
  [(["dev"], .folder),
   (["dev", "null"], .device (.ok "") (.ok none)),
   (["dev", "full"], .device (.ok "") (.error .noRoom)),
   (["dev", "stdin"], .ofStream .input), (["dev", "stdout"], .ofStream .output),
   (["dev", "stderr"], .ofStream .errors),
   (["dev", "fd"], .folder), (["dev", "fd", "0"], .ofStream .input),
   (["dev", "fd", "1"], .ofStream .output), (["dev", "fd", "2"], .ofStream .errors),
   (["etc"], .folder), (["etc", "passwd"], .file .empty), (["tmp"], .folder), (["usr"], .folder),
   (["usr", "bin"], .folder), (["var"], .folder), (["var", "tmp"], .folder)]

structure Folder where
  /-- Entries by the names that lead to them, the latest first. -/
  entries : List (List String × Entry) := []
  /-- What the names behind the root lead to. -/
  outside : List String → Option Entry := fun names => systemEntries.lookup names

namespace Folder

/-- The name that leads from a folder to the one around it. -/
def above : String := ".."

/-- The name with which the way to an entry begins that does not start at the working folder. -/
def root : String := "/"

def outside? (f : Folder) (names : List String) : Option Entry :=
  if names.all (· = above) ∨ names = [root] then some .folder
  else if names.head? = some root then f.outside names.tail
  else none

/-- The entry that names lead to. No name leads to the working folder itself, and there is a folder
wherever something stands in one. -/
def entry? (f : Folder) (names : List String) : Option Entry :=
  match f.entries.lookup names with
  | some entry => some entry
  | none =>
      if f.entries.any fun (others, _) => names.isPrefixOf others then some .folder
      else f.outside? names

/-- The way to the folder around an entry. -/
def outward (names : List String) : List String :=
  if names = [root] then names
  else if names.all (· = above) then names ++ [above]
  else names.dropLast

/-- Most bytes of a name. -/
def maxName : Nat := 255

/-- Most bytes of a path. -/
def maxPath : Nat := 4095

/-- Follow the parts of a path. What they lead to need not exist, but all on the way must. -/
def follow (f : Folder) : List String → List String → Except FileError (List String)
  | names, [] => .ok names
  | names, part :: rest =>
      match f.entry? names with
      | none => .error .notFound
      | some .folder =>
          if part = "" || part = "." then follow f names rest
          else if part = above then follow f (outward names) rest
          else if maxName < part.utf8ByteSize then .error .nameTooLong
          else follow f (names ++ [part]) rest
      | some _ => .error .notADirectory

/-- The parts of a path between its slashes. -/
def parts (path : String) : List String :=
  let step := fun (c : Char) (parts : List (List Char)) =>
    match c, parts with
    | '/', parts => [] :: parts
    | c, part :: rest => (c :: part) :: rest
    | c, [] => [[c]]
  (path.toList.foldr step [[]]).map String.ofList

/-- The names that a path leads to. -/
def locate (f : Folder) (path : String) : Except FileError (List String) :=
  if path = "" then .error .notFound
  else if maxPath < path.utf8ByteSize then .error .nameTooLong
  else f.follow (if path.startsWith root then [root] else []) (parts path)

def read (f : Folder) (path : String) : Except FileError String := do
  match f.entry? (← f.locate path) with
  | none => .error .notFound
  | some .folder => .error .isADirectory
  | some (.device text _) => text
  | some (.file bytes) =>
      match String.fromUTF8? bytes with
      | some text => .ok text
      | none => .error .notText

/-- The folder with a text under some names. -/
def put (f : Folder) (names : List String) (text : String) : Folder :=
  { f with entries := (names, .file text.toUTF8) :: f.entries.filter (·.1 ≠ names) }

/-- A path without the slashes at its end, unless there is nothing else. -/
def withoutSlashes (path : String) : String :=
  let trimmed := (path.toList.reverse.dropWhile (· = '/')).reverse
  if trimmed.isEmpty then path else String.ofList trimmed

/-- Put a text into a file, which need not exist. Gives the folder after that, and the stream that
the text went to if the path leads to one. -/
def write (f : Folder) (path text : String) : Except FileError (Folder × Option Stream) := do
  let names ← f.locate (withoutSlashes path)
  if path.endsWith root then .error .isADirectory
  else match f.entry? names with
    | some .folder => .error .isADirectory
    | some (.device _ taken) => return (f, ← taken)
    | some (.file _) | none => .ok (f.put names text, none)

end Folder
end NullSafeEquality
