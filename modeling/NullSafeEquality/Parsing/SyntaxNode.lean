import NullSafeEquality.Parsing.Parser

/-!
Concrete trees: what a grammar shows of a text. Constructs that do not show have given their parts
to the construct around them. A node knows its kind, the label that it carries in its construct, and
the places between which it stands.
-/

namespace NullSafeEquality

structure NodeInfo where
  kind : String
  /-- Label of the node in the construct around it. -/
  label : Option String := none
  /-- Constructs and tokens with a name are named, tokens written out in the grammar are not. -/
  named : Bool := true
  /-- Does the node stand where the grammar does not mention it? -/
  extra : Bool := false
  /-- Is the node a token that was added because the text lacks it? -/
  missing : Bool := false
  /-- Is there unfitting input or a missing token in the node? -/
  hasError : Bool := false
  /-- The character at which no token was found. -/
  stray : Option Char := none
  start : Nat := 0
  stop : Nat := 0
deriving Inhabited

inductive SyntaxNode where
  | node (info : NodeInfo) (children : List SyntaxNode)
deriving Inhabited

namespace SyntaxNode

def info : SyntaxNode → NodeInfo
  | node i _ => i

def children : SyntaxNode → List SyntaxNode
  | node _ c => c

def kind (n : SyntaxNode) : String := n.info.kind

def errorKind : String := "ERROR"

def isError (n : SyntaxNode) : Bool := n.kind == errorKind

def isMissing (n : SyntaxNode) : Bool := n.info.missing

/-- Does the node stand for unfitting input or for a missing token? -/
def isMisfit (n : SyntaxNode) : Bool := n.isError || n.isMissing

def namedChildren (n : SyntaxNode) : List SyntaxNode := n.children.filter (·.info.named)

def child? (n : SyntaxNode) (label : String) : Option SyntaxNode :=
  n.children.find? fun c => c.info.label == some label

def text (src : Source) (n : SyntaxNode) : String := src.between n.info.start n.info.stop

def span (src : Source) (n : SyntaxNode) : Span := src.spanOf n.info.start n.info.stop

end SyntaxNode

namespace Parsing

/-- The label that a production gives its part at a position. -/
def labelAt (t : Tables) (production : Option Nat) (position : Nat) : Option String :=
  match production with
  | none => none
  | some p =>
      match (t.productions.getD p default).steps[position]? with
      | some step => step.field
      | none => none

/-- Does the part of a construct carry the labels and names of its production? -/
def productionOf (t : Tables) (info : TreeInfo) : Option Nat :=
  if info.symbol = t.errorSymbol || info.symbol = t.skippedSymbol then none
  else some info.production

mutual

/-- Put the nodes that a tree shows in front of others. -/
def shown (t : Tables) (label shownAs : Option String) (tree : Tree)
    (after : List SyntaxNode) : List SyntaxNode :=
  match tree with
  | .node info children =>
      let visible := shownAs.isSome || t.isVisible info.symbol
      if visible then
        let node : NodeInfo :=
          { kind := shownAs.getD (t.kindOf info.symbol)
            label := label
            named := shownAs.isSome || t.isNamed info.symbol
            extra := info.extra
            missing := info.missing
            hasError := info.missing || 0 < info.cost
            stray := info.stray
            start := info.start
            stop := info.stop }
        .node node (shownAll t none (productionOf t info) 0 children []) :: after
      else shownAll t label (productionOf t info) 0 children after

def shownAll (t : Tables) (label : Option String) (production : Option Nat) (position : Nat)
    (trees : List Tree) (after : List SyntaxNode) : List SyntaxNode :=
  match trees with
  | [] => after
  | tree :: rest =>
      if tree.info.extra then
        shown t none none tree (shownAll t label production position rest after)
      else
        shown t (labelAt t production position <|> label) (Tree.renamedAt t production position) tree
          (shownAll t label production (position + 1) rest after)

end

def concrete (a : Automaton) (src : Source) : SyntaxNode :=
  match parse a src with
  | none => default
  | some tree => (shown a.tables none none tree []).headD default

end Parsing

namespace SyntaxNode

def strayText (c : Char) : String :=
  if c = '\x00' then "'\\0'"
  else if c = '\n' then "'\\n'"
  else if c = '\t' then "'\\t'"
  else if c = '\r' then "'\\r'"
  else if 32 ≤ c.toNat && c.toNat < 127 then "'" ++ String.singleton c ++ "'"
  else toString c.toNat

/-- What stands behind the opening parenthesis of a node. -/
def heading (info : NodeInfo) (leaf : Bool) : String :=
  match info.stray with
  | some c => if leaf && info.start < info.stop then "UNEXPECTED " ++ strayText c else info.kind
  | none =>
      if info.missing then
        "MISSING " ++ (if info.named then info.kind else "\"" ++ info.kind ++ "\"")
      else info.kind

mutual

/-- Put the bracketed form of a node behind a text. Only named nodes and missing tokens show. -/
def outlineOnto (out : String) : SyntaxNode → String
  | node info children =>
      if info.named || info.missing then
        let label := info.label.elim "" (· ++ ": ")
        outlineAllOnto (out ++ label ++ "(" ++ heading info children.isEmpty) children ++ ")"
      else out

def outlineAllOnto (out : String) : List SyntaxNode → String
  | [] => out
  | n :: rest =>
      if n.info.named || n.info.missing then outlineAllOnto (outlineOnto (out ++ " ") n) rest
      else outlineAllOnto out rest

end

/-- The bracketed form of a tree: kinds of the named nodes, with their labels. -/
def outline (n : SyntaxNode) : String := outlineOnto "" n

end SyntaxNode
end NullSafeEquality
