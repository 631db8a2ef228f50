/-!
Patterns of tokens. A pattern describes a set of texts; matching keeps the list of what may still
follow, and a character moves each of these residues on. The order of the operations is that of
reading: no residue looks at a character twice.
-/

namespace NullSafeEquality

/-- A set of characters: ranges of code points, or everything outside them. The null character is
never outside, since no text of a token may hold it. -/
structure CharSet where
  ranges : List (Nat × Nat)
  negated : Bool := false
deriving BEq, Hashable, Inhabited

namespace CharSet

def ofList (cs : List Char) : CharSet := { ranges := cs.map fun c => (c.toNat, c.toNat) }

def except (cs : List Char) : CharSet := { ofList cs with negated := true }

def ofRanges (rs : List (Char × Char)) : CharSet :=
  { ranges := rs.map fun (a, b) => (a.toNat, b.toNat) }

def contains (s : CharSet) (c : Char) : Bool :=
  let inside := s.ranges.any fun (lo, hi) => lo ≤ c.toNat && c.toNat ≤ hi
  if s.negated then c.toNat ≠ 0 && !inside else inside

end CharSet

inductive Pattern where
  /-- One text and no other. -/
  | text (chars : List Char)
  | set (chars : CharSet)
  /-- One character of a class that is given by a test. -/
  | test (accepts : Char → Bool)
  | seq (first second : Pattern)
  | alt (left right : Pattern)
  /-- Any number of times, also none. -/
  | star (body : Pattern)
  | empty
deriving Inhabited

namespace Pattern

def ofString (s : String) : Pattern := text s.toList

def all : List Pattern → Pattern
  | [] => empty
  | [p] => p
  | p :: rest => seq p (all rest)

def any : List Pattern → Pattern
  | [] => empty
  | [p] => p
  | p :: rest => alt p (any rest)

def plus (p : Pattern) : Pattern := seq p (star p)

def opt (p : Pattern) : Pattern := alt p empty

/-- At least one `p`, separated by `sep`. -/
def sepBy1 (p sep : Pattern) : Pattern := seq p (star (seq sep p))

def nullable : Pattern → Bool
  | text cs => cs.isEmpty
  | set _ | test _ => false
  | seq p q => nullable p && nullable q
  | alt p q => nullable p || nullable q
  | star _ => true
  | empty => true

/-- What may follow a character at the beginning, each possibility as patterns in a row. -/
def residues (c : Char) : Pattern → List (List Pattern)
  | text [] => []
  | text (a :: rest) => if a = c then [if rest.isEmpty then [] else [text rest]] else []
  | set s => if s.contains c then [[]] else []
  | test accepts => if accepts c then [[]] else []
  | seq p q =>
      (residues c p).map (· ++ [q]) ++ (if nullable p then residues c q else [])
  | alt p q => residues c p ++ residues c q
  | star p => (residues c p).map (· ++ [star p])
  | empty => []

def rowResidues (c : Char) : List Pattern → List (List Pattern)
  | [] => []
  | p :: rest =>
      (residues c p).map (· ++ rest) ++ (if nullable p then rowResidues c rest else [])

end Pattern
end NullSafeEquality
