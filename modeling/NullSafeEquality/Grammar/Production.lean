import NullSafeEquality.Grammar.Rule

/-!
From rules to productions. A rule becomes the list of its readings, each a row of steps. Repetition
becomes an auxiliary construct that is one body or two such constructs in a row; equal repetitions
share it.
-/

namespace NullSafeEquality

/-- One symbol of a production, with the precedence that holds after it and its labels. -/
structure Step (σ : Type) where
  symbol : σ
  prec : Int
  assoc : Option Associativity
  renamed : Option String
  field : Option String
deriving BEq, Hashable, Inhabited

structure Alternative (σ : Type) where
  steps : Array (Step σ)
  weight : Int
deriving Inhabited, BEq

def Alternative.push (r : Alternative σ) (step : Step σ) : Alternative σ :=
  { r with steps := r.steps.push step }

/-- Symbols of rules, by their spelling. -/
inductive Spelling where
  | text (token : String)
  | ref (name : String)
deriving BEq, Hashable, Inhabited

namespace Rule

/-- Name of an auxiliary construct. No construct of a grammar has such a name. -/
def auxiliaryName (i : Nat) : String := "*" ++ toString i

mutual

/-- Replace repetitions by auxiliary constructs, whose bodies are collected. -/
def extractRepeats : Rule → StateM (Array Rule) Rule
  | blank => pure blank
  | text t => pure (text t)
  | ref n => pure (ref n)
  | seq parts => do return seq (← extractRepeatsList parts)
  | choice options => do return choice (← extractRepeatsList options)
  | repeat1 body => do
      let body ← extractRepeats body
      let bodies ← get
      match bodies.findIdx? (· == body) with
      | some i => return ref (auxiliaryName i)
      | none =>
          set (bodies.push body)
          return ref (auxiliaryName bodies.size)
  | field label body => do return field label (← extractRepeats body)
  | renamed kind body => do return renamed kind (← extractRepeats body)
  | prec level assoc body => do return prec level assoc (← extractRepeats body)
  | weight level body => do return weight level (← extractRepeats body)

def extractRepeatsList : List Rule → StateM (Array Rule) (List Rule)
  | [] => pure []
  | r :: rest => do return (← extractRepeats r) :: (← extractRepeatsList rest)

end

mutual

/-- The rules without choice that a rule offers. -/
def alternatives : Rule → List Rule
  | seq parts => (alternativesOfParts parts).map seq
  | choice options => alternativesOfOptions options
  | repeat1 body => (alternatives body).map repeat1
  | field label body => (alternatives body).map (field label)
  | renamed kind body => (alternatives body).map (renamed kind)
  | prec level assoc body => (alternatives body).map (prec level assoc)
  | weight level body => (alternatives body).map (weight level)
  | r => [r]

def alternativesOfParts : List Rule → List (List Rule)
  | [] => [[]]
  | part :: rest =>
      let tails := alternativesOfParts rest
      (alternatives part).flatMap fun r => tails.map (r :: ·)

def alternativesOfOptions : List Rule → List Rule
  | [] => []
  | option :: rest => alternatives option ++ alternativesOfOptions rest

end

/-- What the constructors around a symbol say about it. -/
structure Context where
  prec : Int := 0
  assoc : Option Associativity := none
  renamed : Option String := none
  field : Option String := none

def Context.step (context : Context) (symbol : σ) : Step σ :=
  ⟨symbol, context.prec, context.assoc, context.renamed, context.field⟩

mutual

/-- Put the steps of a rule without choice behind those already there. The last step of a group with
a precedence takes the precedence around the group, unless the group ends the production. -/
def flatten (context : Context) (atEnd : Bool) (r : Rule)
    (out : Alternative Spelling) : Alternative Spelling :=
  match r with
  | blank => out
  | text t => out.push (context.step (.text t))
  | ref n => out.push (context.step (.ref n))
  | seq parts => flattenParts context atEnd parts out
  | choice options => flattenParts context atEnd options out
  | repeat1 body => flatten context atEnd body out
  | field label body => flatten { context with field := some label } atEnd body out
  | renamed kind body => flatten { context with renamed := some kind } atEnd body out
  | prec level assoc body =>
      let inner := { context with prec := level, assoc := assoc <|> context.assoc }
      let result := flatten inner atEnd body out
      if !atEnd && out.steps.size < result.steps.size then
        { result with steps := result.steps.modify (result.steps.size - 1) fun step =>
            { step with
              prec := context.prec
              assoc := if assoc.isSome then context.assoc else step.assoc } }
      else result
  | weight level body =>
      let out := if out.weight.natAbs < level.natAbs then { out with weight := level } else out
      flatten context atEnd body out

def flattenParts (context : Context) (atEnd : Bool) (parts : List Rule)
    (out : Alternative Spelling) : Alternative Spelling :=
  match parts with
  | [] => out
  | [r] => flatten context atEnd r out
  | r :: rest => flattenParts context atEnd rest (flatten context false r out)

end

/-- The readings of a rule without repetition, each once. -/
def readings (r : Rule) : List (Alternative Spelling) :=
  (r.alternatives.map fun a => flatten {} true a ⟨#[], 0⟩).eraseDups

mutual

def texts : Rule → List String
  | text t => [t]
  | seq parts | choice parts => textsOfList parts
  | repeat1 body | field _ body | renamed _ body | prec _ _ body | weight _ body => texts body
  | blank | ref _ => []

def textsOfList : List Rule → List String
  | [] => []
  | r :: rest => texts r ++ textsOfList rest

end

end Rule
end NullSafeEquality
