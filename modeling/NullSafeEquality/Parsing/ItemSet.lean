import NullSafeEquality.Grammar.Tables

/-!
Sets of items, which are the states that a parser may be in. Each item comes with the terminals that
may follow it. Where a terminal allows several actions, precedence and associativity of the
productions choose; if they do not decide, all actions stay and all are tried.
-/

namespace NullSafeEquality.Parsing

/-- What a terminal asks for in a state. -/
inductive Action where
  /-- Go on to a state. A repetition also allows to close the part read so far, which is preferred. -/
  | shift (state : Nat) (repetition : Bool)
  /-- Keep the token and stay. -/
  | shiftExtra
  /-- Close a construct. -/
  | reduce (nonterminal count : Nat) (weight : Int) (production : Nat)
  | accept
  /-- Skip the token while looking for a place to go on. -/
  | recover
deriving BEq, Inhabited

namespace Action

/-- Does the action move on over a token of the grammar? -/
def isRealShift : Action → Bool
  | shift _ repetition => !repetition
  | _ => false

def isReduce : Action → Bool
  | reduce .. => true
  | _ => false

end Action

/-- An item with the terminals that may follow it. -/
structure Kernel where
  item : Nat
  follow : Nat
deriving BEq, Hashable, Inhabited

/-- A set of items: those that it was reached by, and the nonterminals that may begin in it with
what may follow them. -/
structure ItemSet where
  kernel : Array Kernel
  closure : Array (Nat × Nat)

namespace ItemSet

/-- The nonterminals that may begin before the next steps of items. -/
def closureOf (t : Tables) (kernel : Array Kernel) : Array (Nat × Nat) :=
  let entries := kernel.foldl (fun entries k =>
    let item := t.items.getD k.item default
    match item.next with
    | none => entries
    | some symbol =>
        if t.isTerminal symbol then entries
        else
          let nonterminal := symbol - t.terminals.size
          let after := (t.items.getD (k.item + 1) default).next
          let follow := after.elim k.follow t.firstOf
          (t.leftmost.getD nonterminal #[]).foldl (fun entries l =>
            let add := l.follow ||| (if l.inherits then follow else 0)
            (entries : Array Nat).modify l.nonterminal (· ||| add)) entries)
    (Array.replicate t.nonterminals.size 0)
  entries.zipIdx.filterMap fun (follow, n) => if follow = 0 then none else some (n, follow)

def ofKernel (t : Tables) (kernel : Array Kernel) : ItemSet :=
  { kernel, closure := closureOf t kernel }

/-- Items in order, each once with all that may follow it. -/
def united (kernel : Array Kernel) : Array Kernel :=
  (kernel.qsort fun a b => a.item < b.item).foldl (fun out k =>
    match (out : Array Kernel).back? with
    | some last =>
        if last.item = k.item then out.pop.push ⟨k.item, last.follow ||| k.follow⟩
        else out.push k
    | none => out.push k) #[]

/-- The items reached by each symbol: terminals in the order in which the grammar mentions them,
then nonterminals. -/
def successors (t : Tables) (s : ItemSet) : List (Nat × Array Kernel) :=
  let add (found : Std.HashMap Nat (Array Kernel)) (item follow : Nat) :=
    let item := t.items.getD item default
    match item.next with
    | none => found
    | some symbol =>
        found.alter symbol fun kernel => some ((kernel.getD #[]).push ⟨item.advanced, follow⟩)
  let fromKernel := s.kernel.foldl (fun found k => add found k.item k.follow) {}
  let found := s.closure.foldl (fun found (n, follow) =>
    (t.productionsOf.getD n #[]).foldl (fun found p => add found (t.itemOf p 0) follow) found)
    fromKernel
  let before (a b : Nat) : Bool :=
    t.isTerminal a && !t.isTerminal b ||
      t.isTerminal a == t.isTerminal b && t.mentioned a < t.mentioned b
  (found.toArray.qsort fun a b => before a.1 b.1).toList.map fun (symbol, k) => (symbol, united k)

/-- Order of finished items: shorter ones first, then by construct. -/
def finishedBefore (t : Tables) (a b : Nat) : Bool :=
  let ia := t.items.getD a default
  let ib := t.items.getD b default
  let pa := t.productions.getD ia.production default
  let pb := t.productions.getD ib.production default
  if ia.dot ≠ ib.dot then ia.dot < ib.dot
  else if pa.lhs ≠ pb.lhs then pa.lhs < pb.lhs
  else if pa.weight ≠ pb.weight then pa.weight < pb.weight
  else a < b

def finished (t : Tables) (s : ItemSet) : Array Kernel :=
  let fromKernel := s.kernel.filter fun k => (t.items.getD k.item default).next.isNone
  let empty := s.closure.filterMap fun (n, follow) =>
    (t.emptyProduction.getD n none).map fun p => Kernel.mk (t.itemOf p 0) follow
  (fromKernel ++ empty).qsort fun a b => finishedBefore t a.item b.item

/-- Precedence and associativity reached by an item. -/
def reached (t : Tables) (item : Nat) : Int × Option Associativity :=
  let i := t.items.getD item default
  if i.dot = 0 then (0, none)
  else
    let p := t.productions.getD i.production default
    match p.steps[i.dot - 1]? with
    | some step => (step.prec, step.assoc)
    | none => (0, none)

/-- The finished items of the highest precedence, in order, with that precedence. -/
def strongest (t : Tables) (items : List Nat) : Array Nat × Int :=
  items.foldl (fun (kept, level) item =>
    let p := (reached t item).1
    if kept.isEmpty || level < p then (#[item], p)
    else if p = level then (kept.push item, level)
    else (kept, level)) (#[], 0)

def constructOf (t : Tables) (item : Nat) : Nat :=
  (t.productions.getD (t.items.getD item default).production default).lhs

def close (t : Tables) (item : Nat) : Action :=
  let i := t.items.getD item default
  let p := t.productions.getD i.production default
  if p.lhs = t.nonterminals.size then .accept
  else .reduce p.lhs i.dot p.weight i.production

/-- Do all of these belong to one repetition? -/
def oneRepetition (t : Tables) : List Nat → Bool
  | [] => false
  | n :: rest => t.isAuxiliary n && rest.all (· == n)

/-- Settle between closing constructs, of all finished items the strongest, and going on to a
state. -/
def settle (t : Tables) (s : ItemSet) (terminal : Nat) (all : List Nat) (next : Nat) :
    Array Action :=
  let (reduces, level) := strongest t all
  let closing := reduces.map (close t)
  let advancing : List Nat := s.kernel.toList.filterMap fun k =>
    let item := t.items.getD k.item default
    match item.next with
    | some symbol =>
        if item.dot > 0 && (t.firstOf symbol).testBit terminal then some k.item else none
    | none => none
  let whole := t.nonterminals.size
  let involved := ((advancing ++ all).map (constructOf t)).filter (· ≠ whole)
  if oneRepetition t involved then closing.push (.shift next true)
  else
    let levels := advancing.map fun item => (reached t item).1
    let more := levels.any (level < ·)
    let less := levels.any (· < level)
    if more && !less then #[.shift next false]
    else if less && !more then closing
    else if more && less then closing.push (.shift next false)
    else
      let assocs := reduces.map fun item => (reached t item).2
      if !assocs.isEmpty && assocs.all (· = some .left) then closing
      else if !assocs.isEmpty && assocs.all (· = some .right) then #[.shift next false]
      else closing.push (.shift next false)

def actionsOn (t : Tables) (s : ItemSet) (finished : Array Kernel) (terminal : Nat)
    (next : Option Nat) : Array Action :=
  let all := finished.toList.filterMap fun k =>
    if k.follow.testBit terminal then some k.item else none
  match next with
  | none => (strongest t all).1.map (close t)
  | some next => if all.isEmpty then #[.shift next false] else s.settle t terminal all next

end ItemSet
end NullSafeEquality.Parsing
