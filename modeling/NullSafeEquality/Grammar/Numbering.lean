import NullSafeEquality.Grammar.Tables

/-!
Numbering the symbols of a grammar. The productions of all rules are listed, and from them what may
begin a construct, what may stand leftmost in it and which items have one future is computed.
-/

namespace NullSafeEquality

namespace Grammar

/-- The tokens of a grammar in order: the word token, then each token where it is first mentioned. -/
def tokenSpellings (g : Grammar) : List Spelling :=
  let mentioned := g.definitions.flatMap fun (name, d) =>
    match d with
    | .token _ => if name = g.word then [] else [.ref name]
    | .rule body => body.texts.map Spelling.text
  .ref g.word :: mentioned.eraseDups

def showsName (g : Grammar) (name : String) : Bool :=
  !name.startsWith "_" && !name.startsWith "*" && !g.families.contains name

def accepts (p : Pattern) (text : List Char) : Bool :=
  let rows := text.foldl (fun rows c => rows.flatMap (Pattern.rowResidues c)) [[p]]
  rows.any fun row => row.all Pattern.nullable

def terminal (g : Grammar) (wordPattern : Pattern) : Spelling → Terminal
  | .text text =>
      { kind := text, visible := true, named := false, pattern := .ofString text,
        immediate := false, rank := 0, specificity := 2,
        keyword := accepts wordPattern text.toList }
  | .ref name =>
      match g.definitions.lookup name with
      | some (.token r) =>
          let shows := g.showsName name
          let written := match r.pattern with
            | .text _ => true
            | _ => false
          { kind := name, visible := shows, named := shows, pattern := r.pattern,
            immediate := r.immediate, rank := r.rank,
            specificity := (if written then 2 else 0) + (if r.immediate then 1 else 0),
            keyword := match r.pattern with
              | .text cs => accepts wordPattern cs
              | _ => false }
      | _ => default

/-- Rules by name without repetitions, followed by the auxiliary ones. -/
def plainRules (g : Grammar) : List (String × Rule) :=
  let rules : List (String × Rule) := g.definitions.filterMap fun (name, d) =>
    match d with
    | .rule body => some (name, body)
    | .token _ => none
  let plainRule (entry : String × Rule) : StateM (Array Rule) (String × Rule) := do
    return (entry.1, ← Rule.extractRepeats entry.2)
  let (plain, bodies) := (rules.mapM plainRule).run #[]
  let auxiliary := bodies.toList.zipIdx.map fun (body, i) =>
    let self := Rule.ref (Rule.auxiliaryName i)
    (Rule.auxiliaryName i, Rule.choice [.seq [self, self], body])
  plain ++ auxiliary

/-- Repeat a step until it changes nothing, at most so many times. -/
def saturate [BEq α] (step : α → α) : Nat → α → α
  | 0, a => a
  | n + 1, a =>
      let b := step a
      if b == a then a else saturate step n b

def firstSets (terminalCount nonterminalCount : Nat) (productions : Array Production) :
    Array Nat :=
  let step (sets : Array Nat) : Array Nat :=
    productions.foldl (fun sets p =>
      match p.steps[0]? with
      | none => sets
      | some s =>
          let begins :=
            if s.symbol < terminalCount then 1 <<< s.symbol
            else sets.getD (s.symbol - terminalCount) 0
          sets.modify p.lhs (· ||| begins)) sets
  saturate step (nonterminalCount + 1) (Array.replicate nonterminalCount 0)

/-- The productions of each nonterminal whose first step is a nonterminal: that nonterminal, and
the terminals that follow it inside the production, or none if it stands alone. -/
def leftEdges (terminalCount nonterminalCount : Nat) (productions : Array Production)
    (firstOf : Nat → Nat) : Array (List (Nat × Option Nat)) :=
  productions.foldl (fun edges p =>
    match p.steps[0]? with
    | none => edges
    | some s =>
        if s.symbol < terminalCount then edges
        else edges.modify p.lhs
          ((s.symbol - terminalCount, p.steps[1]?.map fun s => firstOf s.symbol) :: ·))
    (Array.replicate nonterminalCount [])

/-- Spread what may follow along the edges, as long as something is new. -/
def spread (edges : Array (List (Nat × Option Nat))) :
    Nat → List Nat → Array (Option (Nat × Bool)) → Array (Option (Nat × Bool))
  | 0, _, found => found
  | _, [], found => found
  | fuel + 1, n :: agenda, found =>
      match found.getD n none with
      | none => spread edges fuel agenda found
      | some (follow, inherits) =>
          let (agenda, found) := (edges.getD n []).foldl (fun (agenda, found) (m, after) =>
            let (addFollow, addInherits) := match after with
              | some terminals => (terminals, false)
              | none => (follow, inherits)
            match (found : Array (Option (Nat × Bool))).getD m none with
            | none => (m :: agenda, found.setIfInBounds m (some (addFollow, addInherits)))
            | some (oldFollow, oldInherits) =>
                let newFollow := oldFollow ||| addFollow
                let newInherits := oldInherits || addInherits
                if newFollow = oldFollow && newInherits = oldInherits then (agenda, found)
                else (m :: agenda, found.setIfInBounds m (some (newFollow, newInherits))))
            (agenda, found)
          spread edges fuel agenda found

/-- All nonterminals that may stand leftmost below a nonterminal, itself included. -/
def leftmostBelow (edges : Array (List (Nat × Option Nat))) (n : Nat) : Array Leftmost :=
  let start := (Array.replicate edges.size none).setIfInBounds n (some (0, true))
  let found := spread edges (edges.size * 64) [n] start
  (found.zipIdx.filterMap fun (entry, m) =>
    entry.map fun (follow, inherits) => ⟨m, follow, inherits⟩)

/-- Nonterminals that do not show and hold labels for the construct around them, at once or through
others of their kind. -/
def labelledNonterminals (terminalCount : Nat) (nonterminals : Array Nonterminal)
    (productions : Array Production) : Array Bool :=
  let step (labelled : Array Bool) : Array Bool :=
    productions.foldl (fun labelled p =>
      let holds := p.steps.any fun s =>
        s.field.isSome ||
          terminalCount ≤ s.symbol && labelled.getD (s.symbol - terminalCount) false
      if (nonterminals.getD p.lhs default).visible then labelled
      else labelled.modify p.lhs (· || holds)) labelled
  saturate step (nonterminals.size + 1) (Array.replicate nonterminals.size false)

/-- What makes the future of an item: its construct and weight, the labels of the steps made, their
symbols if one of them holds labels, the precedence reached and the steps left. -/
structure Future where
  lhs : Nat
  weight : Int
  labels : List (Option String × Option String)
  symbols : List Nat
  prec : Int
  assoc : Option Associativity
  rest : List (Step Nat)
deriving BEq, Hashable

def future (holdsLabels : Nat → Bool) (p : Production) (dot : Nat) : Future :=
  let made := p.steps.toList.take dot
  let symbols := made.map (·.symbol)
  { lhs := p.lhs
    weight := p.weight
    labels := made.map fun s => (s.renamed, s.field)
    symbols := if symbols.any holdsLabels then symbols else []
    prec := (made.getLast?.map (·.prec)).getD 0
    assoc := made.getLast?.bind (·.assoc)
    rest := p.steps.toList.drop dot }

/-- The items of productions in order. An item is advanced to the first item with the same future. -/
def itemsOf (holdsLabels : Nat → Bool) (productions : Array Production) :
    Array Nat × Array Item :=
  let (offsets, total) := productions.foldl (fun (offsets, total) p =>
    (offsets.push total, total + p.steps.size + 1)) ((#[] : Array Nat), 0)
  let (representative, _) := (productions.zipIdx).foldl (fun acc (p, i) =>
    (List.range (p.steps.size + 1)).foldl (fun (reps, seen) dot =>
      let key := future holdsLabels p dot
      let self := offsets.getD i 0 + dot
      match (seen : Std.HashMap Future Nat)[key]? with
      | some other => (reps.push other, seen)
      | none => (reps.push self, seen.insert key self)) acc)
    ((Array.mkEmpty total : Array Nat), ({} : Std.HashMap Future Nat))
  let items := (productions.zipIdx).foldl (fun items (p, i) =>
    (List.range (p.steps.size + 1)).foldl (fun items dot =>
      let self := offsets.getD i 0 + dot
      let next := p.steps[dot]?.map (·.symbol)
      items.push ⟨i, dot, next, representative.getD (self + 1) 0⟩) items)
    (Array.mkEmpty total)
  (offsets, items)

/-- The kind of a symbol that is renamed wherever it stands, and always to that kind. -/
def lastingName? (steps : List (Step Spelling)) (symbol : Spelling) : Option String :=
  match (steps.filter (·.symbol == symbol)).map (·.renamed) with
  | some kind :: names => if names.all (· == some kind) then some kind else none
  | _ => none

/-- The symbols that always show under one other kind, with that kind. -/
def lastingNames (rules : List (String × List (Alternative Spelling))) :
    List (Spelling × String) :=
  let steps := rules.flatMap fun (_, readings) => readings.flatMap (·.steps.toList)
  let renamed := (steps.filter (·.renamed.isSome)).map (·.symbol) |>.eraseDups
  renamed.filterMap fun symbol => (lastingName? steps symbol).map (symbol, ·)

/-- Number the symbols of a grammar and compute what its automaton needs. A symbol that always shows
under one other kind has that kind. -/
def tables (g : Grammar) : Tables :=
  let spellings := g.tokenSpellings
  let wordPattern := match g.definitions.lookup g.word with
    | some (.token r) => r.pattern
    | _ => .empty
  let endTerminal : Terminal :=
    { kind := "end", visible := false, named := true, pattern := .empty, immediate := false,
      rank := 0, specificity := 0, keyword := false }
  let written := g.plainRules.map fun (name, body) => (name, body.readings)
  let lasting := lastingNames written
  let terminals := #[endTerminal] ++ (spellings.map fun s =>
    let terminal := g.terminal wordPattern s
    match lasting.lookup s with
    | some kind => { terminal with kind, visible := true, named := true }
    | none => terminal).toArray
  let settle (r : Alternative Spelling) : Alternative Spelling :=
    { r with steps := r.steps.map fun s =>
        if (lasting.lookup s.symbol).isSome then { s with renamed := none } else s }
  let rules := written.map fun (name, readings) => (name, readings.map settle)
  let symbols := spellings ++ rules.map fun (name, _) => Spelling.ref name
  let numbers : Std.HashMap Spelling Nat :=
    symbols.zipIdx.foldl (fun m (s, i) => m.insertIfNew s (i + 1)) {}
  let renamed := rules.flatMap fun (_, readings) => readings.flatMap fun r =>
    r.steps.toList.filterMap fun s => s.renamed.map fun _ => s.symbol
  let nonterminals := (rules.map fun (name, _) =>
    let kind := lasting.lookup (.ref name)
    { kind := kind.getD name, visible := kind.isSome || g.showsName name
      auxiliary := name.startsWith "*"
      passing := kind.isNone && !g.showsName name && !g.families.contains name &&
        !renamed.contains (.ref name) : Nonterminal }).toArray
  let terminalCount := terminals.size
  let nonterminalCount := nonterminals.size
  let number (s : Spelling) : Nat := numbers.getD s (terminalCount + nonterminalCount)
  let plain := rules.zipIdx.flatMap fun ((_, readings), lhs) =>
    readings.map fun r =>
      { lhs, weight := r.weight
        steps := r.steps.map fun s => { s with symbol := number s.symbol } : Production }
  let whole : Production :=
    { lhs := nonterminalCount, weight := 0, steps := #[⟨terminalCount, 0, none, none, none⟩] }
  let productions := plain.toArray.push whole
  let first := firstSets terminalCount nonterminalCount plain.toArray
  let firstOf (symbol : Nat) : Nat :=
    if symbol < terminalCount then 1 <<< symbol else first.getD (symbol - terminalCount) 0
  let edges := leftEdges terminalCount nonterminalCount plain.toArray firstOf
  let labelled := labelledNonterminals terminalCount nonterminals plain.toArray
  let holdsLabels (symbol : Nat) : Bool :=
    terminalCount ≤ symbol && labelled.getD (symbol - terminalCount) false
  let (itemOffset, items) := itemsOf holdsLabels productions
  let setOf (names : List Spelling) : Nat := names.foldl (fun set s => set ||| 1 <<< number s) 0
  { terminals, nonterminals, productions, itemOffset, items, first, labelled
    leftmost := (Array.range nonterminalCount).map (leftmostBelow edges)
    productionsOf := plain.toArray.zipIdx.foldl (fun lists (p, i) => lists.modify p.lhs (·.push i))
      (Array.replicate nonterminalCount #[])
    emptyProduction := plain.toArray.zipIdx.foldl (fun found (p, i) =>
      if p.steps.isEmpty then found.setIfInBounds p.lhs (some i) else found)
      (Array.replicate nonterminalCount none)
    extras := setOf (g.extras.map .ref)
    enclosed := setOf (g.enclosed.map .ref)
    keywords := terminals.zipIdx.foldl (fun m (t, i) =>
      match t.keyword, t.pattern with
      | true, .text cs => m.insert (String.ofList cs) i
      | _, _ => m) {}
    keywordSet := terminals.zipIdx.foldl (fun set (t, i) =>
      if t.keyword then set ||| 1 <<< i else set) 0
    blanks := g.blanks }

end Grammar
end NullSafeEquality
