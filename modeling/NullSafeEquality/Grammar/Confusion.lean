import NullSafeEquality.Grammar.Numbering

/-!
Tokens that may be taken for one another. Where only a shorter token may stand, a longer one that
begins like it must not be looked for if the text may go on behind the shorter one in that way.
-/

namespace NullSafeEquality.Tables

variable (t : Tables)

def inner : List Production := t.productions.toList.dropLast

def lastSets : Array Nat :=
  let step (sets : Array Nat) : Array Nat :=
    t.inner.foldl (fun sets p =>
      match p.steps.back? with
      | none => sets
      | some s =>
          let ends :=
            if t.isTerminal s.symbol then 1 <<< s.symbol
            else sets.getD (s.symbol - t.terminals.size) 0
          sets.modify p.lhs (· ||| ends)) sets
  Grammar.saturate step (t.nonterminals.size + 1) (Array.replicate t.nonterminals.size 0)

def followSets : Array Nat :=
  let last := t.lastSets
  let lastOf (symbol : Nat) : Nat :=
    if t.isTerminal symbol then 1 <<< symbol else last.getD (symbol - t.terminals.size) 0
  let pairs := t.inner.flatMap fun p =>
    let symbols := p.steps.toList.map (·.symbol)
    symbols.zip (symbols.drop 1)
  pairs.foldl (fun sets (left, right) =>
    let ends := lastOf left
    let begins := t.firstOf right
    sets.mapIdx fun i set => if ends.testBit i then set ||| begins else set)
    (Array.replicate t.terminals.size t.extras)

def canBegin (terminals : Nat) (c : Char) : Bool :=
  (terminalsOf terminals t.terminals.size).any fun i =>
    !(Pattern.residues c (t.terminals.getD i default).pattern).isEmpty

/-- Is a beginning of a text a token, and may what follows the token go on like the text? -/
def goesOnAs (token follow : Nat) (text : List Char) : Bool :=
  let pattern := (t.terminals.getD token default).pattern
  (List.range text.length).any fun n =>
    match text.drop n with
    | [] => false
    | c :: _ => 0 < n && Grammar.accepts pattern (text.take n) && t.canBegin follow c

/-- Tokens, each with the terminals beside which it must not be looked for: tokens with a fixed text,
and enclosed tokens, which would take the text of any other. The word token and the keywords are told
apart in another way. -/
def confusions : List (Nat × Nat) :=
  let follows := t.followSets
  let others := (List.range t.terminals.size).foldl (fun set i =>
    if t.enclosed.testBit i then set else set ||| 1 <<< i) 0
  (List.range t.terminals.size).filterMap fun longer =>
    let terminal := t.terminals.getD longer default
    if t.enclosed.testBit longer then some (longer, others)
    else match terminal.pattern with
    | .text text =>
        let set := follows.zipIdx.foldl (fun set (follow, token) =>
          if t.enclosed.testBit token || token = Tables.wordSymbol && terminal.keyword then set
          else if t.goesOnAs token follow text then set ||| 1 <<< token
          else set) 0
        if set = 0 then none else some (longer, set)
    | _ => none

/-- May a token of one of two sets that is not in the other be taken for a token of the other? -/
def confused (confusions : List (Nat × Nat)) (a b : Nat) : Bool :=
  let both := a &&& b
  let oneWay (own other : Nat) : Bool :=
    own ≠ both && confusions.any fun (token, set) =>
      own.testBit token && !both.testBit token && (set &&& other) ≠ 0
  oneWay a b || oneWay b a

/-- The tokens that are looked for where these terminals may stand. Keywords are found as words. -/
def soughtFor (terminals : Nat) : Nat :=
  (terminalsOf terminals t.terminals.size).foldl (fun set i =>
    set ||| 1 <<< (if t.keywordSet.testBit i then wordSymbol else i)) 0

/-- Take a set into the first of some sets with which it cannot be confused, or behind them all. Gives
its place. -/
def gather (confusions : List (Nat × Nat)) (set : Nat) (sets : Array Nat) : Nat × Array Nat :=
  match sets.findIdx? fun other => !confused confusions other set with
  | some place => (place, sets.modify place (· ||| set))
  | none => (sets.size, sets.push set)

end NullSafeEquality.Tables
