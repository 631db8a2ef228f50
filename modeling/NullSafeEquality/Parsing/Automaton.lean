import NullSafeEquality.Parsing.State

/-!
The automaton of a grammar: its states, each with the tokens that are looked for in it. States look
for the same tokens where none of these can be taken for another, so that few searches serve all.
-/

namespace NullSafeEquality.Parsing

structure Automaton where
  tables : Tables
  states : Array State
deriving Inhabited

namespace Automaton

/-- Let each state look for a gathered set of tokens. The sets are gathered from the error state, the
state at the beginning and the states that others lead to, of which those that know most symbols come
first. -/
def shareSearches (t : Tables) (states : Array State) : Array State :=
  let used := states.foldl (fun used s =>
    s.targets.foldl (fun used i => (used : Array Bool).setIfInBounds i true) used)
    (Array.replicate states.size false)
  let others := (List.range states.size).filter fun i => startState < i && used.getD i false
  let sized := others.map fun i => (i, (states.getD i default).size)
  let ordered := (sized.mergeSort fun a b => b.2 ≤ a.2).map (·.1)
  let confusions := t.confusions
  let (sets, places) := (errorState :: startState :: ordered).foldl (fun (sets, places) i =>
    let set := t.soughtFor (states.getD i default).terminals
    let (place, sets) := Tables.gather confusions set sets
    (sets, (places : Array Nat).setIfInBounds i place))
    ((#[] : Array Nat), Array.replicate states.size 0)
  let searches := sets.map (Search.ofTerminals t)
  states.mapIdx fun i s => { s with search := searches.getD (places.getD i 0) default }

/-- Does a production give its parts no labels? -/
def isBare (t : Tables) (production : Nat) : Bool :=
  (t.productions.getD production default).steps.all fun s =>
    s.field.isNone && s.renamed.isNone &&
      (t.isTerminal s.symbol || !t.labelled.getD (s.symbol - t.terminals.size) false)

def ofTables (t : Tables) : Automaton :=
  let survey := Survey.ofTables t
  let rows := survey.rows
  let start := (Grouping.byItems survey.kernels).split rows (Grouping.conflict t.confusions)
  let g := start.refine rows rows.size
  let merged := g.groups.map fun group => State.complete t
    (group.foldl (fun s i => s.addRow t g (rows.getD i default)) (State.empty t))
  let passed := merged.map (State.passed? t (isBare t))
  let states := (merged.map (State.passOver passed)).setIfInBounds errorState (State.error t)
  { tables := t, states := shareSearches t states }

def actionsOn (a : Automaton) (state terminal : Nat) : Array Action :=
  (a.states.getD state default).actions.getD terminal #[]

/-- The state reached by a token, or none if the token cannot be taken there. -/
def moveOver (a : Automaton) (state terminal : Nat) : Option Nat :=
  match (a.actionsOn state terminal).back? with
  | some (.shift next _) => some next
  | some .shiftExtra => some state
  | _ => none

def move (a : Automaton) (state nonterminal : Nat) : Option Nat :=
  (a.states.getD state default).moves.getD nonterminal none

def terminalsOn (a : Automaton) (state : Nat) : Nat := (a.states.getD state default).terminals

def search (a : Automaton) (state : Nat) : Search := (a.states.getD state default).search

end Automaton
end NullSafeEquality.Parsing
