import NullSafeEquality.Parsing.Repair

/-!
The rounds of the parser. In each round every reading moves on over one token; then the readings are
put in order, merged where they have met and dropped where others are better. When all readings have
come to a token that does not fit, the first of them begins a repair.
-/

namespace NullSafeEquality.Parsing

open Run

inductive Progress where
  | done
  /-- Some construct was closed; go on in the new state. -/
  | again
  /-- No action fits. -/
  | stuck

def perform (a : Automaton) (src : Source) (v state : Nat) (token : Tree) (actions : List Action)
    (reduced : Bool) (latest : Option Nat) : Run Progress :=
  match actions with
  | [] =>
      match latest with
      | some reading => do
          onStack fun s => s.renumber reading v
          return .again
      | none =>
          if reduced then do
            onStack (·.halt v)
            return .done
          else return .stuck
  | .shift next repetition :: rest =>
      if repetition then perform a src v state token rest reduced latest
      else do
        onStack fun s => s.push a.tables v (some (token.withExtra false)) next
        return .done
  | .shiftExtra :: _ => do
      onStack fun s => s.push a.tables v (some (token.withExtra true)) state
      return .done
  | .reduce nonterminal count weight production :: rest => do
      let reading ← reduce a src v nonterminal count weight production
      perform a src v state token rest true (reading <|> latest)
  | .accept :: _ => do
      accept a src v token
      return .done
  | .recover :: _ => do
      recover a src v token
      return .done

/-- Move a reading on over a token, closing constructs before it. -/
def takeToken (a : Automaton) (src : Source) (v : Nat) : Nat → Tree → Run Unit
  | 0, _ => onStack (·.halt v)
  | fuel + 1, token => do
      let state := (← stack).stateOf v
      let actions := a.actionsOn state token.symbol
      match ← perform a src v state token actions.toList false none with
      | .done => return ()
      | .again => takeToken a src v fuel token
      | .stuck =>
          let asWord ←
            if token.info.keyword && token.symbol ≠ Tables.wordSymbol then
              pure !(a.actionsOn state Tables.wordSymbol).isEmpty
            else pure false
          if asWord then takeToken a src v fuel (token.withSymbol Tables.wordSymbol)
          else if state = errorState then recover a src v token
          else onStack fun s => s.pause v token

def advance (a : Automaton) (src : Source) (v : Nat) : Run Unit := do
  let s ← stack
  let token := lookahead a src (s.stateOf v) (s.placeOf v)
  takeToken a src v (src.size * 8 + 1024) token

/-- Move one reading on until it stands behind all that were moved before it. -/
def advanceReading (a : Automaton) (src : Source) (v : Nat) : Nat → Nat → Run Nat
  | 0, last => pure last
  | fuel + 1, last => do
      if (← stack).isActive v then
        advance a src v
        let place := (← stack).placeOf v
        if last < place || (0 < v && place = last) then return place
        else advanceReading a src v fuel last
      else return last

def advanceAll (a : Automaton) (src : Source) : Nat → Nat → Nat → Run Nat
  | 0, _, last => pure last
  | fuel + 1, v, last => do
      if v < (← stack).count then
        let last ← advanceReading a src v (src.size + 16) last
        advanceAll a src fuel (v + 1) last
      else return last

/-- Compare a reading with those before it: which it is after all, and whether it is still there. Its
standing at the beginning counts throughout. -/
def rankReading (a : Automaton) (own : Standing) : Nat → Nat → Nat → Run (Option Nat)
  | 0, _, i => pure (some i)
  | fuel + 1, j, i => do
      if j < i then
        match (← standing j).compare own with
        | .takeLeft =>
            onStack (·.remove i)
            return none
        | .preferLeft | .none =>
            if ← withStack fun s => s.merge a.tables j i then return none
            else rankReading a own fuel (j + 1) i
        | .preferRight =>
            if ← withStack fun s => s.merge a.tables j i then return none
            else
              onStack fun s => s.swap i j
              rankReading a own fuel (j + 1) i
        | .takeRight =>
            onStack (·.remove j)
            rankReading a own fuel j (i - 1)
      else return some i

/-- Put the readings in order and drop those that are no use. Gives the least cost of a reading that
has not gone wrong. -/
def rankAll (a : Automaton) : Nat → Nat → Option Nat → Run (Option Nat)
  | 0, _, least => pure least
  | fuel + 1, i, least => do
      let s ← stack
      if i < s.count then
        if s.isHalted i then
          onStack (·.remove i)
          rankAll a fuel i least
        else
          let own ← standing i
          let least :=
            if own.inError then least else some (least.elim own.cost (min own.cost))
          match ← rankReading a own (fuel + s.count) 0 i with
          | none => rankAll a fuel i least
          | some i => rankAll a fuel (i + 1) least
      else return least

/-- Let the first reading begin a repair if no reading went on; drop the other paused ones. -/
def resume (a : Automaton) (src : Source) : Nat → Nat → Nat → Bool → Option Nat → Run (Option Nat)
  | 0, _, _, _, least => pure least
  | fuel + 1, i, n, moving, least => do
      if i < n then
        let s ← stack
        match (s.head i).status with
        | .paused token =>
            if !moving && (← get).accepted < maxReadings then
              onStack fun s => s.modifyHead i fun h => { h with status := .active }
              let cost := s.costOf i
              beginRepair a src i token
              resume a src fuel (i + 1) n true (some cost)
            else
              onStack (·.remove i)
              resume a src fuel i (n - 1) moving least
        | _ => resume a src fuel (i + 1) n true least
      else return least

/-- Put the readings in order, keep the best and begin a repair where it is needed. -/
def condense (a : Automaton) (src : Source) : Run (Option Nat) := do
  let least ← rankAll a (2 * (← stack).count + 2) 0 none
  onStack fun s => { s with heads := s.heads.extract 0 maxReadings }
  let n := (← stack).count
  resume a src (2 * n + 2) 0 n false least

/-- Go on round by round until all readings have ended or a finished tree is better than them. -/
def rounds (a : Automaton) (src : Source) : Nat → Nat → Run Unit
  | 0, _ => pure ()
  | fuel + 1, last => do
      let last ← advanceAll a src (src.size + 64) 0 last
      let least ← condense a src
      let best := match (← get).finished, least with
        | some tree, some cost => decide (tree.cost < cost)
        | some _, none => true
        | none, _ => false
      if best || (← stack).count = 0 then return ()
      else rounds a src fuel last

def parse (a : Automaton) (src : Source) : Option Tree :=
  let start : Machine := { stack := Stack.initial, finished := none, accepted := 0 }
  ((rounds a src (src.size * 4 + 64) 0).run start).2.finished

end NullSafeEquality.Parsing
