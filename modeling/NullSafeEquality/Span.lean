/-!
Places in a source text. A span holds both the line and column form and the byte form of a range;
lines count from one, columns count bytes from zero, bytes index the text as encoded.
-/

namespace NullSafeEquality

structure Span where
  startLine : Nat := 0
  startCol : Nat := 0
  endLine : Nat := 0
  endCol : Nat := 0
  startByte : Nat := 0
  endByte : Nat := 0
deriving DecidableEq, Inhabited

namespace Span

/-- Number of bytes covered; zero when the end stands before the start. -/
def length (s : Span) : Nat := s.endByte - s.startByte

end Span
end NullSafeEquality
