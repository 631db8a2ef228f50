import NullSafeEquality.Grammar.Pattern

/-!
Grammars as data. A rule says how a construct is written; the constructors are those of extended
context-free grammars, together with labels for the parts of a construct and with precedences that
settle between readings.
-/

namespace NullSafeEquality

/-- How operators of one precedence group. -/
inductive Associativity where
  | left | right
deriving DecidableEq, Hashable

inductive Rule where
  | blank
  /-- A token that is written in one way. -/
  | text (token : String)
  /-- A construct or token by its name. -/
  | ref (name : String)
  | seq (parts : List Rule)
  | choice (options : List Rule)
  /-- At least once. -/
  | repeat1 (body : Rule)
  /-- The part carries a label. -/
  | field (label : String) (body : Rule)
  /-- The part shows under another name. -/
  | renamed (kind : String) (body : Rule)
  | prec (level : Int) (assoc : Option Associativity) (body : Rule)
  /-- Among readings of one text, the one with the highest sum of weights wins. -/
  | weight (level : Int) (body : Rule)
deriving Inhabited, BEq

namespace Rule

def opt (r : Rule) : Rule := choice [r, blank]

def many (r : Rule) : Rule := choice [repeat1 r, blank]

def sepBy1 (separator : String) (r : Rule) : Rule :=
  seq [r, many (seq [text separator, r])]

def commaSep (r : Rule) : Rule := opt (sepBy1 "," r)

end Rule

/-- A token that is described by a pattern. -/
structure TokenRule where
  pattern : Pattern
  /-- Nothing may stand between the token and the one before it. -/
  immediate : Bool := false
  /-- A token of a higher rank ends the search for longer tokens of a lower one. -/
  rank : Int := 0

/-- What a name of a grammar stands for. -/
inductive Definition where
  | rule (body : Rule)
  | token (token : TokenRule)

/-- A grammar. The first definition describes whole texts. -/
structure Grammar where
  definitions : List (String × Definition)
  /-- Names that stand for a family of constructs. They do not show in trees. -/
  families : List String
  /-- The token whose text may be a keyword. -/
  word : String
  /-- Tokens that may stand anywhere. -/
  extras : List String
  /-- Tokens whose extent only the construct around them fixes. -/
  enclosed : List String
  /-- Characters that may stand between tokens. -/
  blanks : CharSet

end NullSafeEquality
