import NullSafeEquality.Parsing.Survey
import NullSafeEquality.Parsing.Tree

/-!
The stacks of a parser that follows several readings at once. The stacks share their lower parts: a
node is a state with links to the nodes below it, each link carrying the tree in between, and
readings that meet in one state at one place become one node with several links. A head is the top
of one reading. A link without a tree stands where a reading began to look for a place to go on.
-/

namespace NullSafeEquality.Parsing

structure Link where
  below : Nat
  tree : Option Tree
deriving Inhabited

structure StackNode where
  state : Nat
  place : Nat
  links : Array Link
  cost : Nat
  /-- Number of trees that show in the reading. -/
  size : Nat
  weight : Int
deriving Inhabited

/-- What becomes of a reading in the next round. -/
inductive Status where
  | active
  /-- The token does not fit. -/
  | paused (lookahead : Tree)
  | halted
deriving Inhabited

/-- A state that a reading went through, how many trees ago and at which place. -/
structure Landmark where
  place : Nat
  depth : Nat
  state : Nat
deriving Inhabited

structure Head where
  node : Nat
  sizeAtError : Nat
  landmarks : Option (Array Landmark)
  status : Status
deriving Inhabited

structure Stack where
  nodes : Array StackNode
  heads : Array Head
deriving Inhabited

namespace Stack

/-- No node has more links. -/
def maxLinks : Nat := 8

def initial : Stack :=
  { nodes := #[{ state := startState, place := 0, links := #[], cost := 0, size := 0, weight := 0 }]
    heads := #[{ node := 0, sizeAtError := 0, landmarks := none, status := .active }] }

def head (s : Stack) (v : Nat) : Head := s.heads.getD v default

def nodeOf (s : Stack) (v : Nat) : StackNode := s.nodes.getD (s.head v).node default

def count (s : Stack) : Nat := s.heads.size

def stateOf (s : Stack) (v : Nat) : Nat := (s.nodeOf v).state

def placeOf (s : Stack) (v : Nat) : Nat := (s.nodeOf v).place

def isActive (s : Stack) (v : Nat) : Bool :=
  match (s.head v).status with
  | .active => true
  | _ => false

def isPaused (s : Stack) (v : Nat) : Bool :=
  match (s.head v).status with
  | .paused _ => true
  | _ => false

def isHalted (s : Stack) (v : Nat) : Bool :=
  match (s.head v).status with
  | .halted => true
  | _ => false

def modifyHead (s : Stack) (v : Nat) (f : Head → Head) : Stack :=
  { s with heads := s.heads.modify v f }

def halt (s : Stack) (v : Nat) : Stack := s.modifyHead v fun h => { h with status := .halted }

def pause (s : Stack) (v : Nat) (lookahead : Tree) : Stack :=
  let size := (s.nodeOf v).size
  s.modifyHead v fun h => { h with status := .paused lookahead, sizeAtError := size }

def remove (s : Stack) (v : Nat) : Stack := { s with heads := s.heads.eraseIdxIfInBounds v }

def swap (s : Stack) (v w : Nat) : Stack := { s with heads := s.heads.swapIfInBounds v w }

def renumber (s : Stack) (source target : Nat) : Stack :=
  if source = target then s
  else
    let old := s.head target
    let new := s.head source
    let new := { new with landmarks := new.landmarks <|> old.landmarks }
    { s with heads := (s.heads.setIfInBounds target new).eraseIdxIfInBounds source }

def copy (s : Stack) (v : Nat) : Nat × Stack :=
  (s.heads.size, { s with heads := s.heads.push { s.head v with landmarks := none } })

def costOf (s : Stack) (v : Nat) : Nat :=
  let n := s.nodeOf v
  let looking := n.state = errorState && (n.links[0]?.elim false (·.tree.isNone))
  n.cost + (if s.isPaused v || looking then recoveryCost else 0)

/-- A reading that has gone back behind the place where it last went wrong counts anew from here. -/
def settle (s : Stack) (v : Nat) : Stack :=
  let size := (s.nodeOf v).size
  s.modifyHead v fun h => { h with sizeAtError := min h.sizeAtError size }

/-- Number of trees that show since the reading last went wrong. -/
def sizeSinceError (s : Stack) (v : Nat) : Nat :=
  (s.nodeOf v).size - min (s.head v).sizeAtError (s.nodeOf v).size

/-- Put a tree, or the mark that a reading went wrong, on top of a reading. -/
def push (t : Tables) (s : Stack) (v : Nat) (tree : Option Tree) (state : Nat) : Stack :=
  let h := s.head v
  let below := s.nodes.getD h.node default
  let node : StackNode :=
    { state
      place := tree.elim below.place (·.info.stop)
      links := #[⟨h.node, tree⟩]
      cost := below.cost + tree.elim 0 Tree.cost
      size := below.size + tree.elim 0 (Tree.size t)
      weight := below.weight + tree.elim 0 Tree.weight }
  let h := { h with
    node := s.nodes.size
    sizeAtError := if tree.isNone then node.size else h.sizeAtError }
  { nodes := s.nodes.push node, heads := s.heads.setIfInBounds v h }

/-- Are two trees between nodes the same for all that follows? -/
def equivalent (a b : Option Tree) : Bool :=
  match a, b with
  | none, none => true
  | some a, some b =>
      a.symbol = b.symbol &&
        ((0 < a.cost && 0 < b.cost) ||
          (a.info.lead = b.info.lead && a.info.start = b.info.start &&
            a.info.stop = b.info.stop && a.children.length = b.children.length &&
            a.extra = b.extra))
  | _, _ => false

/-- Are two nodes one as far as what follows is concerned? -/
def mergeable (a b : StackNode) : Bool :=
  a.state = b.state && a.place = b.place && a.cost = b.cost

inductive Joining where
  | done
  | replace (i : Nat)
  | descend (node : Nat)
  | append

def joining (nodes : Array StackNode) (links : Array Link) (link : Link) : Joining :=
  links.zipIdx.foldl (fun found (old, i) =>
    match found with
    | .append =>
        if equivalent old.tree link.tree then
          if old.below = link.below then
            if old.tree.elim 0 Tree.weight < link.tree.elim 0 Tree.weight then .replace i else .done
          else if mergeable (nodes.getD old.below default) (nodes.getD link.below default) then
            .descend old.below
          else .append
        else .append
    | _ => found) .append

/-- Add a link to a node. Links to nodes that can be merged are merged below. -/
def addLink (t : Tables) : Nat → Array StackNode → Nat → Link → Array StackNode
  | 0, nodes, _, _ => nodes
  | fuel + 1, nodes, target, link =>
      if link.below = target then nodes
      else
        let node := nodes.getD target default
        let below := nodes.getD link.below default
        let weight := below.weight + link.tree.elim 0 Tree.weight
        match joining nodes node.links link with
        | .done => nodes
        | .replace i =>
            nodes.modify target fun n => { n with links := n.links.setIfInBounds i link, weight }
        | .descend other =>
            let nodes := below.links.foldl (fun nodes l => addLink t fuel nodes other l) nodes
            nodes.modify target fun n => { n with weight := max n.weight weight }
        | .append =>
            if maxLinks ≤ node.links.size then nodes
            else
              let size := below.size + link.tree.elim 0 (Tree.size t)
              nodes.modify target fun n =>
                { n with
                  links := n.links.push link
                  size := max n.size size
                  weight := max n.weight weight }

def canMerge (s : Stack) (v w : Nat) : Bool :=
  s.isActive v && s.isActive w && mergeable (s.nodeOf v) (s.nodeOf w)

/-- Merge the second reading into the first, if they have met. -/
def merge (t : Tables) (s : Stack) (v w : Nat) : Bool × Stack :=
  if s.canMerge v w then
    let target := (s.head v).node
    let nodes := (s.nodeOf w).links.foldl
      (fun nodes l => addLink t nodes.size nodes target l) s.nodes
    let s := { s with nodes }
    let s :=
      if s.stateOf v = errorState then
        let size := (s.nodeOf v).size
        s.modifyHead v fun h => { h with sizeAtError := size }
      else s
    (true, s.remove w)
  else (false, s)

end Stack
end NullSafeEquality.Parsing
