import NullSafeEquality.Java.Conversion

/-!
Languages of source files. The ending of a path behind its last dot tells the language; a path
without a dot is its own ending.
-/

namespace NullSafeEquality

inductive Language where
  | java | unknown
deriving DecidableEq

namespace Language

def all : List Language := [.java, .unknown]

def label : Language → String
  | .java => "java"
  | .unknown => "unknown"

/-- What stands behind the last dot, or all if there is none. -/
def ending (path : List Char) : List Char :=
  (path.reverse.takeWhile (· ≠ '.')).reverse

def ofPath (path : String) : Language :=
  if ending path.toList = "java".toList then .java else .unknown

/-- The bracketed form of the concrete tree of a text, if the language has a grammar. -/
def outline? : Language → String → Option String
  | .java, text => some (Java.outline text)
  | .unknown, _ => none

end Language
end NullSafeEquality
