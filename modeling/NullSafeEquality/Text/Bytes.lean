/-!
Texts cut at numbers of bytes, where the encoding of a character may not be cut.
-/

namespace NullSafeEquality.Text

def byteLength (cs : List Char) : Nat := cs.foldr (fun c n => c.utf8Size + n) 0

/-- Cut after a number of bytes, if a character ends there. -/
def splitAtByte : Nat → List Char → Option (List Char × List Char)
  | 0, cs => some ([], cs)
  | _ + 1, [] => none
  | n + 1, c :: cs =>
      if c.utf8Size ≤ n + 1 then
        (splitAtByte (n + 1 - c.utf8Size) cs).map fun (front, rest) => (c :: front, rest)
      else none

/-- The text between two byte positions, if both are on the boundary of a character. -/
def slice? (s : String) (start stop : Nat) : Option String :=
  if start ≤ stop then do
    let (_, rest) ← splitAtByte start s.toList
    let (front, _) ← splitAtByte (stop - start) rest
    return String.ofList front
  else none

end NullSafeEquality.Text
