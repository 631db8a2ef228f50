import NullSafeEquality.Parsing.Stack

/-!
Ways down from the top of a reading. Where links part, all ways are followed side by side, link by
link; a way that is taken ends in a new head at its node, and ways that end in one node share a head.
-/

namespace NullSafeEquality.Parsing

/-- A way down from the top of a reading: the head left there, and the trees passed, in order. -/
structure Slice where
  head : Nat
  trees : List Tree
deriving Inhabited

namespace Stack

def maxWays : Nat := 64

structure Way where
  node : Nat
  trees : List Tree
  depth : Nat

structure Verdict where
  take : Bool
  stop : Bool

def lastAt (s : Stack) (slices : Array Slice) (node : Nat) : Option Nat :=
  slices.zipIdx.foldl (fun last (slice, i) =>
    if (s.head slice.head).node = node then some i else last) none

/-- A descent along all ways at once: what was gathered, the stack with the heads made on the way,
the ways that were taken, and those that go on, first the ones through a node's first link. -/
structure Descent (σ : Type) where
  gathered : σ
  stack : Stack
  slices : Array Slice
  kept : List Way
  added : List Way
  /-- Number of ways that ended in this round. -/
  ended : Nat

/-- End a way in a head at its node; ways that end in one node share a head. -/
def Descent.take (d : Descent σ) (origin : Nat) (way : Way) : Descent σ :=
  match lastAt d.stack d.slices way.node with
  | some i =>
      let same := (d.slices.getD i default).head
      let before := d.slices.toList.take (i + 1)
      let after := d.slices.toList.drop (i + 1)
      { d with slices := (before ++ Slice.mk same way.trees :: after).toArray }
  | none =>
      let fresh : Head :=
        { node := way.node, sizeAtError := (d.stack.head origin).sizeAtError, landmarks := none,
          status := .active }
      let index := d.stack.heads.size
      { d with
        stack := { d.stack with heads := d.stack.heads.push fresh }
        slices := d.slices.push ⟨index, way.trees⟩ }

/-- The way over one more link. Extras do not count as depth. -/
def Way.follow (way : Way) (link : Link) : Way :=
  match link.tree with
  | some tree =>
      { node := link.below, trees := tree :: way.trees,
        depth := if tree.extra then way.depth else way.depth + 1 }
  | none => { way with node := link.below, depth := way.depth + 1 }

def Descent.visit (ask : σ → StackNode → Way → σ × Verdict) (origin total : Nat)
    (d : Descent σ) (way : Way) : Descent σ :=
  let node := d.stack.nodes.getD way.node default
  let (gathered, verdict) := ask d.gathered node way
  let d := { d with gathered }
  let d := if verdict.take then d.take origin way else d
  if verdict.stop || node.links.isEmpty then { d with ended := d.ended + 1 }
  else
    let room := maxWays + d.ended - min (maxWays + d.ended) (total + d.added.length)
    { d with
      kept := d.kept ++ (node.links.toList.take 1).map way.follow
      added := d.added ++ ((node.links.toList.drop 1).take room).map way.follow }

/-- Go down one more link on each way, as long as there are ways. -/
def descend (ask : σ → StackNode → Way → σ × Verdict) (origin : Nat) :
    Nat → Descent σ → List Way → Descent σ
  | 0, d, _ => d
  | _, d, [] => d
  | fuel + 1, d, ways =>
      let d := ways.foldl (Descent.visit ask origin ways.length) d
      let next := d.kept ++ d.added
      descend ask origin fuel { d with kept := [], added := [], ended := 0 } next

def descendFrom (s : Stack) (v : Nat) (gathered : σ)
    (ask : σ → StackNode → Way → σ × Verdict) : Descent σ :=
  let start : List Way := [⟨(s.head v).node, [], 0⟩]
  descend ask v (s.nodes.size + 1)
    { gathered, stack := s, slices := #[], kept := [], added := [], ended := 0 } start

/-- All ways down over a number of trees, extras aside. -/
def popCount (s : Stack) (v count : Nat) : Stack × Array Slice :=
  let ask (_ : Unit) (_ : StackNode) (way : Way) : Unit × Verdict :=
    let reached := decide (way.depth = count)
    ((), ⟨reached, reached⟩)
  let d := descendFrom s v () ask
  (d.stack, d.slices)

def popAll (s : Stack) (v : Nat) : Stack × Array Slice :=
  let ask (_ : Unit) (node : StackNode) (_ : Way) : Unit × Verdict :=
    ((), ⟨node.links.isEmpty, node.links.isEmpty⟩)
  let d := descendFrom s v () ask
  (d.stack, d.slices)

/-- Take unfitting input off the top of a reading, if it is there. -/
def popError (t : Tables) (s : Stack) (v : Nat) : Stack × List Tree :=
  let isError (tree : Tree) : Bool := tree.symbol = t.errorSymbol
  if (s.nodeOf v).links.any (fun link => link.tree.elim false isError) then
    let ask (found : Bool) (_ : StackNode) (way : Way) : Bool × Verdict :=
      match way.trees with
      | [] => (found, ⟨false, false⟩)
      | tree :: _ => if !found && isError tree then (true, ⟨true, true⟩) else (found, Verdict.mk false true)
    let d := descendFrom s v false ask
    match d.slices[0]? with
    | some slice => (d.stack.renumber slice.head v, slice.trees)
    | none => (d.stack, [])
  else (s, [])

/-- Note the states that a reading went through, as far as a depth. -/
def recordLandmarks (s : Stack) (v maxDepth : Nat) : Stack :=
  let ask (marks : Array Landmark) (node : StackNode) (way : Way) : Array Landmark × Verdict :=
    if maxDepth < way.depth then (marks, ⟨false, true⟩)
    else
      let known := (marks.toList.reverse.takeWhile fun m => !decide (m.depth < way.depth)).any
        fun m => m.depth = way.depth && m.state = node.state
      if known then (marks, ⟨false, false⟩)
      else (marks.push ⟨node.place, way.depth, node.state⟩, ⟨false, false⟩)
  let d := descendFrom s v #[] ask
  d.stack.modifyHead v fun h => { h with landmarks := some d.gathered }

end Stack
end NullSafeEquality.Parsing
