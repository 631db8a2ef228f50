import NullSafeEquality.Span

/-!
A source text with its places. A place is the number of characters before it; bytes, lines and
columns of a place are looked up. Lines end at line feeds only.
-/

namespace NullSafeEquality

structure Source where
  text : String
  chars : Array Char
  /-- Bytes before each place, the end included. -/
  bytes : Array Nat
  /-- Line feeds before each place. -/
  rows : Array Nat
  /-- Bytes between each place and the line feed before it. -/
  cols : Array Nat
deriving Inhabited

namespace Source

def step (c : Char) (s : Source) : Source :=
  let bytes := s.bytes.back?.getD 0
  let row := s.rows.back?.getD 0
  let col := s.cols.back?.getD 0
  let width := c.utf8Size
  { s with
    bytes := s.bytes.push (bytes + width)
    rows := s.rows.push (if c = '\n' then row + 1 else row)
    cols := s.cols.push (if c = '\n' then 0 else col + width) }

def ofString (text : String) : Source :=
  let chars := text.toList.toArray
  chars.foldl (fun s c => step c s)
    { text, chars, bytes := #[0], rows := #[0], cols := #[0] }

/-- Number of characters, which is also the last place. -/
def size (s : Source) : Nat := s.chars.size

def byteAt (s : Source) (place : Nat) : Nat := s.bytes.getD place 0

def rowAt (s : Source) (place : Nat) : Nat := s.rows.getD place 0

def colAt (s : Source) (place : Nat) : Nat := s.cols.getD place 0

def between (s : Source) (start stop : Nat) : String :=
  String.ofList (s.chars.extract start stop).toList

def spanOf (s : Source) (start stop : Nat) : Span :=
  { startLine := s.rowAt start + 1
    startCol := s.colAt start
    endLine := s.rowAt stop + 1
    endCol := s.colAt stop
    startByte := s.byteAt start
    endByte := s.byteAt stop }

end Source
end NullSafeEquality
