import NullSafeEquality.Grammar.Production
import Std.Data.HashMap

/-!
Grammars with numbered symbols. Terminals come first: the end of the text is terminal zero, the word
token is terminal one, all others follow in the order in which the grammar mentions them.
Nonterminals follow the terminals, and after them stand the symbol of a whole text and the two
symbols of unfitting input. Sets of terminals are the bits of a number.
-/

namespace NullSafeEquality

structure Terminal where
  kind : String
  visible : Bool
  named : Bool
  pattern : Pattern
  immediate : Bool
  rank : Int
  /-- Of two tokens with one text and one rank, the more specific wins. -/
  specificity : Nat
  /-- Is the text of the token also a text of the word token? -/
  keyword : Bool
deriving Inhabited

structure Nonterminal where
  kind : String
  visible : Bool
  /-- Does it stand for a repetition? -/
  auxiliary : Bool
  /-- Does it never show and stand for no family? -/
  passing : Bool
deriving Inhabited

structure Production where
  lhs : Nat
  steps : Array (Step Nat)
  weight : Int
deriving Inhabited

/-- An item is a production and the number of steps already made. -/
structure Item where
  production : Nat
  dot : Nat
  /-- The symbol of the next step, if one is left. -/
  next : Option Nat
  /-- The item after the next step. Items with the same future stand for one another. -/
  advanced : Nat
deriving Inhabited

/-- A nonterminal that stands leftmost below another one, what may follow it there, and whether
what follows the other one may follow it too. -/
structure Leftmost where
  nonterminal : Nat
  follow : Nat
  inherits : Bool
deriving Inhabited

/-- A grammar with numbered symbols and what can be computed from it once. -/
structure Tables where
  terminals : Array Terminal
  nonterminals : Array Nonterminal
  productions : Array Production
  /-- Number of the first item of a production. -/
  itemOffset : Array Nat
  items : Array Item
  /-- Terminals that may begin a nonterminal. -/
  first : Array Nat
  leftmost : Array (Array Leftmost)
  /-- Productions by their nonterminal. -/
  productionsOf : Array (Array Nat)
  /-- Productions without steps, by nonterminal. -/
  emptyProduction : Array (Option Nat)
  /-- Nonterminals that do not show and hold labels for the construct around them. -/
  labelled : Array Bool
  extras : Nat
  /-- Tokens whose extent only the construct around them fixes. -/
  enclosed : Nat
  /-- Keywords by their text. -/
  keywords : Std.HashMap String Nat
  keywordSet : Nat
  blanks : CharSet
deriving Inhabited

namespace Tables

/-- The end of the text. -/
def endSymbol : Nat := 0

/-- The token whose text may be a keyword. -/
def wordSymbol : Nat := 1

variable (t : Tables)

def isTerminal (symbol : Nat) : Bool := symbol < t.terminals.size

/-- Number of a nonterminal as a symbol. -/
def symbolOf (nonterminal : Nat) : Nat := t.terminals.size + nonterminal

/-- The symbol of a whole text, above the first construct of the grammar. -/
def wholeSymbol : Nat := t.terminals.size + t.nonterminals.size

/-- Input that was skipped while looking for a place to go on. -/
def skippedSymbol : Nat := t.wholeSymbol + 1

/-- Input that does not fit the grammar. -/
def errorSymbol : Nat := t.wholeSymbol + 2

def firstOf (symbol : Nat) : Nat :=
  if t.isTerminal symbol then 1 <<< symbol
  else t.first.getD (symbol - t.terminals.size) 0

def kindOf (symbol : Nat) : String :=
  if symbol = t.errorSymbol then "ERROR"
  else if symbol = endSymbol then "end"
  else if t.isTerminal symbol then (t.terminals.getD symbol default).kind
  else (t.nonterminals.getD (symbol - t.terminals.size) default).kind

def isVisible (symbol : Nat) : Bool :=
  if symbol = t.errorSymbol then true
  else if t.isTerminal symbol then (t.terminals.getD symbol default).visible
  else (t.nonterminals.getD (symbol - t.terminals.size) default).visible

def isNamed (symbol : Nat) : Bool :=
  if t.isTerminal symbol then (t.terminals.getD symbol default).named else true

def isAuxiliary (nonterminal : Nat) : Bool :=
  (t.nonterminals.getD nonterminal default).auxiliary

/-- Place of a symbol in the order in which the grammar mentions the symbols of its kind. The word
token comes after all other terminals. -/
def mentioned (symbol : Nat) : Nat :=
  if symbol = wordSymbol then t.terminals.size else symbol

/-- The items that begin a production and have its symbols before them. -/
def itemOf (production dot : Nat) : Nat := t.itemOffset.getD production 0 + dot

end Tables

def terminalsOf (set bound : Nat) : List Nat := (List.range bound).filter set.testBit

end NullSafeEquality
