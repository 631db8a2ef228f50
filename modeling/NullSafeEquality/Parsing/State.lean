import NullSafeEquality.Parsing.Grouping
import NullSafeEquality.Parsing.Lexer

/-!
States of a parser. A state is what a group of sets of items asks for. States in which only one hidden
construct of one part can be closed are passed over, and in the error state every token is skipped.
-/

namespace NullSafeEquality.Parsing

/-- What a state does, by terminal, and where it leads, by nonterminal. -/
structure State where
  actions : Array (Array Action)
  moves : Array (Option Nat)
  /-- The terminals with an action. -/
  terminals : Nat
  /-- What to look for in the text. -/
  search : Search
deriving Inhabited

namespace State

def empty (t : Tables) : State :=
  { actions := Array.replicate t.terminals.size #[]
    moves := Array.replicate t.nonterminals.size none
    terminals := 0
    search := default }

/-- An action that leads to a group in place of a state. -/
def regroup (g : Grouping) : Action → Action
  | .shift state repetition => .shift (g.groupOf.getD state 0) repetition
  | a => a

def addRow (t : Tables) (g : Grouping) (s : State) (r : Row) : State :=
  { s with
    actions := r.actions.foldl (fun out (terminal, actions) =>
      out.setIfInBounds terminal (actions.map (regroup g))) s.actions
    moves := r.moves.foldl (fun out (symbol, state) =>
      out.setIfInBounds (symbol - t.terminals.size) (g.groupOf[state]?)) s.moves
    terminals := s.terminals ||| r.terminals }

def complete (t : Tables) (s : State) : State :=
  let added := (terminalsOf t.extras t.terminals.size).filter (!s.terminals.testBit ·)
  { s with
    actions := added.foldl (fun out i => out.setIfInBounds i #[.shiftExtra]) s.actions
    terminals := s.terminals ||| t.extras }

/-- The error state: every token is skipped, but for those that would swallow text of others. -/
def error (t : Tables) : State :=
  let all := (List.range t.terminals.size).filter fun i =>
    !t.enclosed.testBit i && !t.extras.testBit i
  complete t
    { empty t with
      actions := all.foldl (fun out i => out.setIfInBounds i #[.recover]) (empty t).actions
      terminals := all.foldl (fun set i => set ||| 1 <<< i) 0 }

/-- The nonterminal that a state only closes, if that is a passing construct of one part that
carries no label. -/
def passed? (t : Tables) (bare : Nat → Bool) (s : State) : Option Nat :=
  let closed : List Action := s.actions.toList.flatMap fun actions =>
    actions.toList.filter (· != .shiftExtra)
  match closed with
  | .reduce n 1 0 p :: rest =>
      let passes (n : Nat) : Bool := (t.nonterminals.getD n default).passing
      if passes n && bare p && rest.all (fun
        | .reduce m 1 0 q => m = n && bare q
        | _ => false) then some n else none
  | _ => none

/-- Where a state leads when states that are passed over are followed to their end. -/
def followed (passed : Array (Option Nat)) (s : State) : Nat → Nat → Nat
  | 0, target => target
  | fuel + 1, target =>
      match passed.getD target none with
      | none => target
      | some n =>
          match s.moves.getD n none with
          | none => target
          | some next => followed passed s fuel next

/-- Pass over states that only close a passing construct. -/
def passOver (passed : Array (Option Nat)) (s : State) : State :=
  let follow := followed passed s (passed.size + 1)
  { s with
    actions := s.actions.map fun actions => actions.map fun
      | .shift target repetition => .shift (follow target) repetition
      | a => a
    moves := s.moves.map fun target => target.map follow }

def targets (s : State) : List Nat :=
  let shifted : List Nat := s.actions.toList.flatMap fun actions =>
    actions.toList.filterMap fun
      | .shift target _ => some target
      | _ => none
  shifted ++ s.moves.toList.filterMap id

def size (s : State) : Nat :=
  (s.actions.filter fun actions => !actions.isEmpty).size + (s.moves.filter (·.isSome)).size

end State

end NullSafeEquality.Parsing
