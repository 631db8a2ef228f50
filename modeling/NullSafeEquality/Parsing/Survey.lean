import NullSafeEquality.Parsing.ItemSet

/-!
All states of a grammar. From the state at the beginning of a text each symbol leads on to a set of
items; sets are states, numbered as they are met, until no new one is found.
-/

namespace NullSafeEquality.Parsing

/-- What a state does on terminals, and where the constructs that are closed in it lead, both in
ascending order. -/
structure Row where
  actions : List (Nat × Array Action)
  moves : List (Nat × Nat)
  /-- The terminals with an action. -/
  terminals : Nat
deriving Inhabited

/-- The state of a parser that looks for a place to go on. -/
def errorState : Nat := 0

def startState : Nat := 1

namespace ItemSet

/-- The row of a state, from the states that its symbols lead to. -/
def row (t : Tables) (s : ItemSet) (next : List (Nat × Nat)) : Row :=
  let next := next.mergeSort fun a b => a.1 ≤ b.1
  let finished := s.finished t
  let (shifts, moves) := next.partition fun (symbol, _) => t.isTerminal symbol
  let closing := finished.foldl (fun set k => set ||| k.follow) 0
  let terminals := shifts.foldl (fun set (symbol, _) => set ||| 1 <<< symbol) closing
  let actions :=
    if closing = 0 then shifts.map fun (symbol, state) => (symbol, #[.shift state false])
    else (terminalsOf terminals t.terminals.size).map fun symbol =>
      (symbol, s.actionsOn t finished symbol (shifts.lookup symbol))
  { actions, moves, terminals }

end ItemSet

/-- The states met so far, by number, and the rows of those whose successors are known. -/
structure Survey where
  kernels : Array (Array Kernel)
  numbers : Std.HashMap (Array Kernel) Nat
  rows : Array Row

namespace Survey

def number (kernel : Array Kernel) (s : Survey) : Nat × Survey :=
  match s.numbers[kernel]? with
  | some i => (i, s)
  | none =>
      let i := s.kernels.size
      (i, { s with kernels := s.kernels.push kernel, numbers := s.numbers.insert kernel i })

/-- Find the successors of all states, those that are met on the way included. -/
def complete (t : Tables) : Nat → Survey → Survey
  | 0, s => s
  | fuel + 1, s =>
      match s.kernels[s.rows.size]? with
      | none => s
      | some kernel =>
          let set := ItemSet.ofKernel t kernel
          let (next, s) := (set.successors t).foldl (fun (next, s) (symbol, kernel) =>
            let (i, s) := number kernel s
            ((symbol, i) :: next, s)) (([] : List (Nat × Nat)), s)
          complete t fuel { s with rows := s.rows.push (set.row t next) }

/-- No grammar has more states than this before states are made one. -/
def maxStates : Nat := 100000

/-- All states of a grammar. The error state has no items. -/
def ofTables (t : Tables) : Survey :=
  let start : Array Kernel := #[⟨t.itemOf (t.productions.size - 1) 0, 1 <<< Tables.endSymbol⟩]
  complete t maxStates
    { kernels := #[#[], start]
      numbers := ({} : Std.HashMap (Array Kernel) Nat).insert start startState
      rows := #[default] }

end Survey

end NullSafeEquality.Parsing
