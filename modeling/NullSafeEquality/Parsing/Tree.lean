import NullSafeEquality.Grammar.Tables
import NullSafeEquality.Text.Source

/-!
Trees as the parser builds them, hidden constructs included. Each tree knows the place where the
blanks before it begin, its own beginning and end, and what its unfitting parts cost: skipped input
and missing tokens are dear, so that of two readings the one with fewer of them is taken.
-/

namespace NullSafeEquality.Parsing

structure TreeInfo where
  symbol : Nat
  production : Nat
  /-- Where the blanks before the tree begin. -/
  lead : Nat
  start : Nat
  stop : Nat
  extra : Bool
  missing : Bool
  /-- Is the text of the word token also that of a keyword? -/
  keyword : Bool
  cost : Nat
  weight : Int
  /-- Number of children that show, those of hidden children included. In unfitting input, extras and
  characters without a token are no such children. -/
  shown : Nat
  /-- Number of trees below that show. -/
  descendants : Nat
  /-- The character at which no token was found. -/
  stray : Option Char
deriving Inhabited

inductive Tree where
  | node (info : TreeInfo) (children : List Tree)
deriving Inhabited

/-- Cost of looking for a place to go on. -/
def recoveryCost : Nat := 500

def missingCost : Nat := 110

def skippedTreeCost : Nat := 100

def skippedLineCost : Nat := 30

/-- The cost at which one reading is given up for another. -/
def costLimit : Nat := 18 * skippedTreeCost

namespace Tree

def info : Tree → TreeInfo
  | node i _ => i

def children : Tree → List Tree
  | node _ c => c

def symbol (tree : Tree) : Nat := tree.info.symbol

def extra (tree : Tree) : Bool := tree.info.extra

def weight (tree : Tree) : Int := tree.info.weight

def withExtra (extra : Bool) : Tree → Tree
  | node i c => node { i with extra } c

def withSymbol (symbol : Nat) : Tree → Tree
  | node i c => node { i with symbol } c

def cost (tree : Tree) : Nat :=
  if tree.info.missing then missingCost + recoveryCost else tree.info.cost

/-- Number of trees that show, the tree itself included. Skipped input counts too. -/
def size (t : Tables) (tree : Tree) : Nat :=
  tree.info.descendants + (if t.isVisible tree.symbol then 1 else 0) +
    (if tree.symbol = t.skippedSymbol then 1 else 0)

def leaf (symbol lead start stop : Nat) (keyword : Bool) : Tree :=
  node { symbol, production := 0, lead, start, stop, extra := symbol = Tables.endSymbol,
         missing := false, keyword, cost := 0, weight := 0, shown := 0, descendants := 0,
         stray := none } []

/-- A token that is not in the text. -/
def missingLeaf (symbol place : Nat) : Tree :=
  node { (leaf symbol place place place false).info with missing := true } []

/-- Characters at which no token was found. -/
def strayLeaf (t : Tables) (lead start stop : Nat) (stray : Char) : Tree :=
  node { (leaf t.errorSymbol lead start stop false).info with stray := some stray } []

/-- Sums over the children of a tree. -/
structure Sums where
  cost : Nat := 0
  weight : Int := 0
  shown : Nat := 0
  descendants : Nat := 0
  /-- Number of children so far that are no extras. -/
  position : Nat := 0

/-- The name under which a production shows its part at a position. -/
def renamedAt (t : Tables) (production : Option Nat) (position : Nat) : Option String :=
  match production with
  | none => none
  | some p =>
      match (t.productions.getD p default).steps[position]? with
      | some step => step.renamed
      | none => none

def Sums.add (t : Tables) (unfitting : Bool) (production : Option Nat) (sums : Sums)
    (child : Tree) : Sums :=
  let i := child.info
  let leaf := child.children.isEmpty
  let visible := t.isVisible i.symbol
  let renamed := !i.extra && i.symbol ≠ Tables.endSymbol &&
    (renamedAt t production sums.position).isSome
  let free := unfitting && (i.extra || i.symbol = t.errorSymbol && leaf)
  let shown :=
    if free then 0 else if renamed || visible then 1 else if leaf then 0 else i.shown
  let skipped :=
    if !unfitting || free then 0
    else if visible then skippedTreeCost
    else if leaf then 0 else skippedTreeCost * i.shown
  { cost := sums.cost + (if i.symbol = t.skippedSymbol then 0 else child.cost) + skipped
    weight := sums.weight + i.weight
    shown := sums.shown + shown
    descendants := sums.descendants + i.descendants + (if renamed || visible then 1 else 0)
    position := if i.extra then sums.position else sums.position + 1 }

/-- A construct with its parts, beginning at a place if it has none. -/
def construct (t : Tables) (s : Source) (symbol production place : Nat) (weight : Int)
    (extra : Bool) (children : List Tree) : Tree :=
  let unfitting := symbol = t.errorSymbol || symbol = t.skippedSymbol
  let sums := children.foldl
    (Sums.add t unfitting (if unfitting then none else some production)) {}
  let lead := (children.head?.map (·.info.lead)).getD place
  let start := (children.head?.map (·.info.start)).getD place
  let stop := (children.getLast?.map (·.info.stop)).getD place
  let own :=
    if unfitting then
      recoveryCost + (s.byteAt stop - s.byteAt start) +
        skippedLineCost * (s.rowAt stop - s.rowAt start)
    else 0
  node { symbol, production, lead, start, stop, extra, missing := false, keyword := false,
         cost := sums.cost + own, weight := sums.weight + weight, shown := sums.shown,
         descendants := sums.descendants, stray := none } children

def splitTrailingExtras (trees : List Tree) : List Tree × List Tree :=
  let trailing := (trees.reverse.takeWhile (·.extra)).reverse
  (trees.take (trees.length - trailing.length), trailing)

/-- Order of trees by their symbols, from the root down. -/
def compareAll (fuel : Nat) : List Tree → List Tree → Ordering :=
  match fuel with
  | 0 => fun _ _ => .eq
  | fuel + 1 => fun left right =>
      match left, right with
      | a :: as, b :: bs =>
          if a.symbol < b.symbol then .lt
          else if b.symbol < a.symbol then .gt
          else if a.children.length < b.children.length then .lt
          else if b.children.length < a.children.length then .gt
          else compareAll fuel (a.children ++ as) (b.children ++ bs)
      | _, _ => .eq

/-- Should the second of two readings stand in place of the first? -/
def prefersSecond (left right : Tree) : Bool :=
  if right.cost < left.cost then true
  else if left.cost < right.cost then false
  else if left.weight < right.weight then true
  else if right.weight < left.weight then false
  else if 0 < left.cost then true
  else
    let fuel := left.info.descendants * 64 + 4096
    compareAll fuel [left] [right] = .gt

end Tree
end NullSafeEquality.Parsing
