import NullSafeEquality.Parsing.Automaton
import NullSafeEquality.Parsing.Descent

/-!
The parser: several readings of a text move on side by side. A token that asks for several actions
splits a reading; readings that meet are merged, and of two trees for one stretch of text the better
one is kept.
-/

namespace NullSafeEquality.Parsing

structure Machine where
  stack : Stack
  finished : Option Tree
  accepted : Nat
deriving Inhabited

abbrev Run := StateM Machine

/-- No more readings are kept from one round to the next. -/
def maxReadings : Nat := 6

/-- So many more readings may arise within a round. -/
def maxOverflow : Nat := 4

/-- As far as this a reading looks back for a place to go on. -/
def maxLookBack : Nat := 16

namespace Run

def stack : Run Stack := do return (← get).stack

def onStack (f : Stack → Stack) : Run Unit :=
  modify fun ⟨stack, finished, accepted⟩ => ⟨f stack, finished, accepted⟩

def withStack (f : Stack → α × Stack) : Run α :=
  modifyGet fun ⟨stack, finished, accepted⟩ =>
    let (a, stack) := f stack
    (a, ⟨stack, finished, accepted⟩)

end Run

open Run

structure Standing where
  cost : Nat
  size : Nat
  weight : Int
  inError : Bool

inductive Comparison where
  | takeLeft | preferLeft | none | preferRight | takeRight
deriving DecidableEq

namespace Standing

def ofReading (s : Stack) (v : Nat) : Standing :=
  let paused := s.isPaused v
  { cost := s.costOf v + (if paused then skippedTreeCost else 0)
    size := s.sizeSinceError v
    weight := (s.nodeOf v).weight
    inError := paused || s.stateOf v = errorState }

/-- A reading that has gone wrong yields to one that has not; a lower cost wins, and wins at once
if the difference is large for the text read since. -/
def compare (a b : Standing) : Comparison :=
  if !a.inError && b.inError then
    if a.cost < b.cost then .takeLeft else .preferLeft
  else if a.inError && !b.inError then
    if b.cost < a.cost then .takeRight else .preferRight
  else if a.cost < b.cost then
    if costLimit < (b.cost - a.cost) * (1 + a.size) then .takeLeft else .preferLeft
  else if b.cost < a.cost then
    if costLimit < (a.cost - b.cost) * (1 + b.size) then .takeRight else .preferRight
  else if b.weight < a.weight then .preferLeft
  else if a.weight < b.weight then .preferRight
  else .none

end Standing

def standing (v : Nat) : Run Standing := do
  onStack (·.settle v)
  return Standing.ofReading (← stack) v

/-- Is a finished tree or some other reading better than this one would be at a cost? -/
def betterExists (v : Nat) (inError : Bool) (cost : Nat) : Run Bool := do
  if (← get).finished.elim false fun tree => decide (tree.cost ≤ cost) then return true
  let own : Standing := { ← standing v with cost, inError }
  for i in List.range (← stack).count do
    let s ← stack
    if i ≠ v && s.isActive i && s.placeOf v ≤ s.placeOf i then
      match own.compare (← standing i) with
      | .takeRight => return true
      | .preferRight => if s.canMerge i v then return true
      | _ => pure ()
  return false

/-- The token that follows a reading. Keywords are read as words, and count as keywords only where
the state has an action on them. Characters at which no token is found are put together. -/
def lookahead (a : Automaton) (src : Source) (state place : Nat) : Tree :=
  match lexeme a.tables src (a.search state) place with
  | .token symbol start stop => word symbol start stop
  | .none _ _ =>
      match lexeme a.tables src (a.search errorState) place with
      | .token symbol start stop => word symbol start stop
      | .none start reached =>
          let stop := skip (src.size + 1) reached start
          Tree.strayLeaf a.tables place start stop (src.chars.getD reached '\x00')
where
  word (symbol start stop : Nat) : Tree :=
    if symbol = Tables.wordSymbol then
      match a.tables.keywords[src.between start stop]? with
      | some keyword =>
          let symbol := if (a.actionsOn state keyword).isEmpty then symbol else keyword
          Tree.leaf symbol place start stop true
      | none => Tree.leaf symbol place start stop false
    else Tree.leaf symbol place start stop false
  /-- Go on over characters until a token is found again. -/
  skip : Nat → Nat → Nat → Nat
    | 0, _, stop => stop
    | fuel + 1, reached, stop =>
        if reached = stop && src.size ≤ reached then stop
        else
          let stop := if reached = stop then stop + 1 else reached
          match lexeme a.tables src (a.search errorState) stop with
          | .token .. => stop
          | .none _ reached => skip fuel reached stop

/-- Close a construct over a number of trees, on each way down. Of several ways to one node the
better tree is kept. The first reading that arises is given. -/
def reduce (a : Automaton) (src : Source) (v nonterminal count : Nat) (weight : Int)
    (production : Nat) : Run (Option Nat) := do
  let before := (← stack).count
  let place := (← stack).placeOf v
  let halted := ((List.range before).filter ((← stack).isHalted ·)).length
  let slices ← withStack fun s =>
    let (s, slices) := s.popCount v count
    (slices, s)
  let symbol := a.tables.symbolOf nonterminal
  let build (trees : List Tree) : Tree × List Tree :=
    let (children, extras) := Tree.splitTrailingExtras trees
    (Tree.construct a.tables src symbol production place weight false children, extras)
  let mut removed := 0
  for group in groups slices.toList do
    let head := group.1 - removed
    if maxReadings + maxOverflow + halted < head then
      onStack (·.remove head)
      removed := removed + 1
    else
      let (tree, extras) := group.2.foldl (fun best trees =>
        let other := build trees
        match best with
        | none => some other
        | some (tree, extras) =>
            if tree.prefersSecond other.1 then some other
            else some (tree, extras)) none |>.getD (build [])
      match a.move ((← stack).stateOf head) nonterminal with
      | none => onStack (·.halt head)
      | some next =>
          onStack fun s => (some tree :: extras.map some).foldl
            (fun s tree => s.push a.tables head tree next) s
          for j in List.range head do
            if j ≠ v then
              if ← withStack fun s => s.merge a.tables j head then
                removed := removed + 1
                break
  return if before < (← stack).count then some before else none
where
  /-- Slices that share a head, in order. -/
  groups : List Slice → List (Nat × List (List Tree))
    | [] => []
    | slice :: rest =>
        match groups rest with
        | (head, trees) :: more =>
            if head = slice.head then (head, slice.trees :: trees) :: more
            else (slice.head, [slice.trees]) :: (head, trees) :: more
        | [] => [(slice.head, [slice.trees])]

def accept (a : Automaton) (src : Source) (v : Nat) (lookahead : Tree) : Run Unit := do
  onStack fun s => s.push a.tables v (some lookahead) startState
  let slices ← withStack fun s =>
    let (s, slices) := s.popAll v
    (slices, s)
  for slice in slices do
    match splitAtRoot slice.trees with
    | none => pure ()
    | some (before, root, after) =>
        let tree := Tree.construct a.tables src root.symbol root.info.production 0 0 false
          (before ++ root.children ++ after)
        modify fun m =>
          let keep := match m.finished with
            | none => false
            | some old => !old.prefersSecond tree
          { m with
            accepted := m.accepted + 1
            finished := if keep then m.finished else some tree }
  onStack fun s =>
    let s := match slices[0]? with
      | some slice => s.remove slice.head
      | none => s
    s.halt v
where
  /-- The last tree that is no extra, with the trees before and after it. -/
  splitAtRoot (trees : List Tree) : Option (List Tree × Tree × List Tree) :=
    let after := (trees.reverse.takeWhile (·.extra)).reverse
    let rest := trees.take (trees.length - after.length)
    rest.getLast?.map fun root => (rest.dropLast, root, after)

end NullSafeEquality.Parsing
