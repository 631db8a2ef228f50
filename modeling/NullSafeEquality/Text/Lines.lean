/-!
Texts cut into lines. A line ends at a line feed, which is dropped together with a carriage return
before it; what stands behind the last line feed is a line if it is not empty.
-/

namespace NullSafeEquality.Text

/-- Drop a carriage return from the end of a line that is held in reverse. -/
def dropReturn : List Char → List Char
  | '\r' :: rest => rest
  | line => line

/-- Cut a text into lines; the line at hand is held in reverse. -/
def linesFrom (line : List Char) : List Char → List (List Char)
  | [] => if line.isEmpty then [] else [line.reverse]
  | '\n' :: rest => (dropReturn line).reverse :: linesFrom [] rest
  | c :: rest => linesFrom (c :: line) rest

def lines (s : String) : List String := (linesFrom [] s.toList).map String.ofList

def lineFeeds (cs : List Char) : Nat := cs.count '\n'

end NullSafeEquality.Text
