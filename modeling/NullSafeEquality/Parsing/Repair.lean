import NullSafeEquality.Parsing.Machine

/-!
Going on after a token that fits no reading. Three ways are tried: a token that is missing is added,
the reading goes back to an earlier state in which the token fits and sets aside what it read since,
or the token itself is set aside. What was set aside stands in the tree as unfitting input, and its
cost decides between the ways.
-/

namespace NullSafeEquality.Parsing

open Run

structure Closing where
  nonterminal : Nat
  count : Nat
  weight : Int
  production : Nat
deriving Inhabited

/-- What a state can do on some of the terminals: whether it can go on, and what it can close. -/
def prospects (a : Automaton) (state : Nat) (terminals : List Nat) : Bool × Array Closing :=
  let actions := terminals.flatMap fun terminal => (a.actionsOn state terminal).toList
  let closings := actions.foldl (fun closings action =>
    match action with
    | .reduce nonterminal count weight production =>
        let known := closings.any fun (c : Closing) => c.nonterminal = nonterminal && c.count = count
        if count = 0 || known then closings
        else closings.push ⟨nonterminal, count, weight, production⟩
    | _ => closings) #[]
  (actions.any (·.isRealShift), closings)

def usefulTerminals (a : Automaton) (state : Nat) : List Nat :=
  (terminalsOf (a.terminalsOn state) a.tables.terminals.size).filter (· ≠ Tables.endSymbol)

def mergeIntoNew (a : Automaton) (first v : Nat) : Run Bool := do
  for j in (List.range v).filter (first ≤ ·) do
    if ← withStack fun s => s.merge a.tables j v then return true
  return false

/-- Close all that can be closed, starting from one reading, whatever token follows or before one
token. Says whether that token can be taken in the end. -/
def closeAll (a : Automaton) (src : Source) (start : Nat) (terminal : Option Nat) : Run Bool := do
  let first := (← stack).count
  let rec go : Nat → Nat → Nat → Bool → Run Bool
    | 0, _, _, takes => pure takes
    | fuel + 1, round, v, takes => do
        let count := (← stack).count
        if count ≤ v then return takes
        if ← mergeIntoNew a first v then go fuel (round + 1) v takes
        else
          let state := (← stack).stateOf v
          let terminals := match terminal with
            | some x => [x]
            | none => usefulTerminals a state
          let (goesOn, closings) := prospects a state terminals
          let mut latest : Option Nat := none
          for c in closings do
            latest ← reduce a src v c.nonterminal c.count c.weight c.production
          let after := if v = start then count else v + 1
          if goesOn then go fuel (round + 1) after true
          else
            match latest with
            | some reading =>
                if round < maxReadings then
                  onStack fun s => s.renumber reading v
                  go fuel (round + 1) v takes
                else
                  if terminal.isSome then onStack (·.remove v)
                  go fuel (round + 1) after takes
            | none =>
                if terminal.isSome then onStack (·.remove v)
                go fuel (round + 1) after takes
  go (src.size * 4 + 256) 0 start false

/-- Go back to an earlier state and set aside what was read since. -/
def returnTo (a : Automaton) (src : Source) (v depth goal : Nat) : Run Bool := do
  let slices ← withStack fun s =>
    let (s, slices) := s.popCount v depth
    (slices, s)
  let mut previous : Option Nat := none
  for slice in slices do
    if previous ≠ some slice.head then
      if (← stack).stateOf slice.head ≠ goal then
        onStack (·.halt slice.head)
      else
        let errors ← withStack fun s =>
          let (s, errors) := s.popError a.tables slice.head
          (errors, s)
        let trees := (errors.head?.map Tree.children).getD [] ++ slice.trees
        let (trees, extras) := Tree.splitTrailingExtras trees
        let place := (← stack).placeOf slice.head
        let unfitting :=
          if trees.isEmpty then []
          else [Tree.construct a.tables src a.tables.errorSymbol 0 place 0 true trees]
        onStack fun s => (unfitting ++ extras).foldl
          (fun s tree => s.push a.tables slice.head (some tree) goal) s
        previous := some slice.head
  return previous.isSome

/-- The first landmark from which the reading can go on with a token, if no other reading is better
than that would be. -/
def chooseLandmark (a : Automaton) (src : Source) (v : Nat) (lookahead : Tree) (readings : Nat) :
    List Landmark → Run Bool
  | [] => pure false
  | mark :: rest => do
      let s ← stack
      let place := s.placeOf v
      if mark.state = errorState || mark.place = place then
        chooseLandmark a src v lookahead readings rest
      else
        let meets := (List.range readings).any fun j =>
          s.stateOf j = mark.state && s.placeOf j = place
        if meets then chooseLandmark a src v lookahead readings rest
        else
          let cost := s.costOf v + mark.depth * skippedTreeCost +
            (src.byteAt place - src.byteAt mark.place) +
            (src.rowAt place - src.rowAt mark.place) * skippedLineCost
          if ← betterExists v false cost then return false
          else if (a.actionsOn mark.state lookahead.symbol).isEmpty then
            chooseLandmark a src v lookahead readings rest
          else
            let depth := if 0 < s.sizeSinceError v then mark.depth + 1 else mark.depth
            if ← returnTo a src v depth mark.state then return true
            else chooseLandmark a src v lookahead readings rest

def removeInactive (first : Nat) : Run Unit :=
  onStack fun s =>
    { s with heads := s.heads.zipIdx.filterMap fun (h, i) =>
        match h.status with
        | .active => some h
        | _ => if i < first then some h else none }

/-- Set a token aside and stay without a state. -/
def setAside (a : Automaton) (src : Source) (v : Nat) (lookahead : Tree) : Run Unit := do
  let skip (trees : List Tree) : Tree :=
    Tree.construct a.tables src a.tables.skippedSymbol 0 lookahead.info.lead 0 false trees
  let single := skip [lookahead]
  if 0 < (← stack).sizeSinceError v then
    let slices ← withStack fun s =>
      let (s, slices) := s.popCount v 1
      (slices, s)
    match slices[0]? with
    | none => onStack fun s => s.push a.tables v (some single) errorState
    | some slice =>
        onStack fun s =>
          let s := { s with heads := s.heads.extract 0 (slice.head + 1) }
          let s := s.renumber slice.head v
          s.push a.tables v (some (skip (slice.trees ++ [single]))) errorState
  else onStack fun s => s.push a.tables v (some single) errorState

/-- Bring the readings up to date, as far as the first that has not gone wrong. -/
def settleWrong : Run Unit := do
  for v in List.range (← stack).count do
    if !(← standing v).inError then return ()

/-- Go on without a state: look for an earlier state in which the token fits, and also set the token
aside. At the end of the text everything is set aside. -/
def recover (a : Automaton) (src : Source) (v : Nat) (lookahead : Tree) : Run Unit := do
  let readings := (← stack).count
  onStack (·.settle v)
  let cost := (← stack).costOf v
  let recovered ←
    if lookahead.symbol = a.tables.errorSymbol then pure false
    else
      match ((← stack).head v).landmarks with
      | some marks => chooseLandmark a src v lookahead readings marks.toList
      | none => pure false
  removeInactive readings
  if lookahead.symbol = Tables.endSymbol then
    let place := (← stack).placeOf v
    let unfitting := Tree.construct a.tables src a.tables.errorSymbol 0 place 0 false []
    onStack fun s => s.push a.tables v (some unfitting) startState
    accept a src v lookahead
  else if recovered && maxReadings < (← stack).count then
    onStack (·.halt v)
  else
    let i := lookahead.info
    let cost := cost + skippedTreeCost + (src.byteAt i.stop - src.byteAt i.lead) +
      (src.rowAt i.stop - src.rowAt i.lead) * skippedLineCost
    if ← betterExists v false cost then onStack (·.halt v)
    else
      setAside a src v lookahead
      settleWrong

/-- Try to go on by adding a token that is missing: one after which something can be closed before
the token at hand, so that this token can be taken in the end. -/
def addMissing (a : Automaton) (src : Source) (v : Nat) (lookahead : Tree) : List Nat → Run Bool
  | [] => pure false
  | terminal :: rest => do
      let state := (← stack).stateOf v
      match a.moveOver state terminal with
      | none => addMissing a src v lookahead rest
      | some next =>
          if next = state || next = errorState then addMissing a src v lookahead rest
          else
            let closes := match (a.actionsOn next lookahead.symbol)[0]? with
              | some action => action.isReduce
              | none => false
            if closes then
              let place := (← stack).placeOf v
              let reading ← withStack (·.copy v)
              onStack fun s => s.push a.tables reading (some (Tree.missingLeaf terminal place)) next
              let needed :=
                if lookahead.symbol = Tables.endSymbol then none else some lookahead.symbol
              if ← closeAll a src reading needed then return true
              else addMissing a src v lookahead rest
            else addMissing a src v lookahead rest

/-- Begin to look for a place to go on. All that can be closed is closed first, since a token that
is found later may need it. -/
def beginRepair (a : Automaton) (src : Source) (v : Nat) (lookahead : Tree) : Run Unit := do
  let before := (← stack).count
  discard <| closeAll a src v none
  let count := (← stack).count
  let mut added := false
  for reading in v :: (List.range count).filter (before ≤ ·) do
    unless added do
      let candidates := usefulTerminals a ((← stack).stateOf reading)
      added ← addMissing a src reading lookahead candidates
    onStack fun s => s.push a.tables reading none errorState
  for _ in List.range (count - before) do
    discard <| withStack fun s => s.merge a.tables v before
  onStack fun s => s.recordLandmarks v maxLookBack
  recover a src v lookahead

end NullSafeEquality.Parsing
