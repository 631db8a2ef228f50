import NullSafeEquality.Grammar.Tables
import NullSafeEquality.Text.Source

/-!
Finding the next token. All tokens that may stand at a place are matched together, character by
character. The longest text wins; of two tokens with one text the one with the higher rank, then the
more specific one, then the one that the grammar mentions first. Once a token is complete, only
tokens of at least its rank go on.
-/

namespace NullSafeEquality.Parsing

/-- A token that still matches. Before its first character it may wait for blanks to pass. -/
structure Candidate where
  symbol : Nat
  rank : Int
  waiting : Bool
  row : List Pattern

/-- What was found at a place. -/
inductive Lexeme where
  /-- A token and where its own text begins and ends. -/
  | token (symbol start stop : Nat)
  /-- No token: where the text after the blanks begins, and how far it was read. -/
  | none (start reached : Nat)

/-- What to look for: tokens, and perhaps the end of the text. -/
structure Search where
  candidates : List Candidate
  atEnd : Bool
deriving Inhabited

def Search.ofTerminals (t : Tables) (set : Nat) : Search :=
  let tokens := (terminalsOf set t.terminals.size).filter (· ≠ Tables.endSymbol)
  { candidates := tokens.map fun symbol =>
      let terminal := t.terminals.getD symbol default
      ⟨symbol, terminal.rank, !terminal.immediate, [terminal.pattern]⟩
    atEnd := set.testBit Tables.endSymbol }

def continued (c : Char) (live : List Candidate) : List Candidate :=
  live.flatMap fun candidate =>
    (Pattern.rowResidues c candidate.row).map fun row =>
      { candidate with waiting := false, row }

/-- Does the first of two complete tokens win? -/
def prefers (t : Tables) (a b : Candidate) : Bool :=
  let specificity (x : Candidate) := (t.terminals.getD x.symbol default).specificity
  if a.rank ≠ b.rank then decide (b.rank < a.rank)
  else if specificity a ≠ specificity b then decide (specificity b < specificity a)
  else decide (a.symbol < b.symbol)

def completed (t : Tables) (live : List Candidate) : Option Candidate :=
  live.foldl (fun best candidate =>
    if candidate.waiting || !candidate.row.all Pattern.nullable then best
    else match best with
      | .none => some candidate
      | some other => if prefers t other candidate then best else some candidate) .none

/-- Read on from a place with the candidates that are left. -/
def scan (t : Tables) (s : Source) (endValid : Bool) :
    Nat → List Candidate → Nat → Nat → Option (Nat × Nat) → Lexeme
  | 0, _, start, place, _ => .none start place
  | fuel + 1, live, start, place, best =>
      let complete := completed t live
      let best := match complete with
        | some candidate => some (candidate.symbol, place)
        | .none => best
      let answer : Lexeme := match best with
        | some (symbol, stop) => .token symbol start stop
        | .none => .none start place
      match s.chars[place]? with
      | .none =>
          if endValid && best.isNone then .token Tables.endSymbol start place else answer
      | some c =>
          let moved := continued c live
          let blank := t.blanks.contains c
          let waiting := if blank then live.filter (·.waiting) else []
          if moved.isEmpty then
            if blank && !waiting.isEmpty && complete.isNone then
              scan t s endValid fuel waiting (place + 1) (place + 1) best
            else answer
          else
            let next := waiting ++ moved
            let goesOn : Bool := match complete with
              | .none => true
              | some done =>
                  let rank := next.foldl (fun r x => max r x.rank) (moved.head?.elim 0 (·.rank))
                  if rank ≠ done.rank then decide (done.rank < rank)
                  else !live.any (·.waiting) || next.any (·.symbol = done.symbol)
            if goesOn then scan t s false fuel next start (place + 1) best else answer

/-- The token at a place. A byte order mark at the beginning of a text is passed over. -/
def lexeme (t : Tables) (s : Source) (search : Search) (place : Nat) : Lexeme :=
  let place := if place = 0 && s.chars[0]? = some '\ufeff' then 1 else place
  scan t s search.atEnd (s.size - place + 1) search.candidates place place .none

end NullSafeEquality.Parsing
