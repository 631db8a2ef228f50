import NullSafeEquality.Inspection.Report
import NullSafeEquality.Java.Grammar
import NullSafeEquality.Parsing.SyntaxNode
import NullSafeEquality.Text.Blank
import NullSafeEquality.Text.Digest

/-!
From concrete trees to expressions. The outermost nodes of the compound kinds are converted; a node
whose kind has no expression of its own, or that lacks a part, becomes an unknown expression that
keeps the compound nodes below it. A bare name or literal is converted only as a part.
-/

namespace NullSafeEquality.Java

/-- Kinds of nodes with a structure worth inspecting. -/
def compoundKinds : List String :=
  ["assignment_expression", "binary_expression", "instanceof_expression", "lambda_expression",
   "ternary_expression", "update_expression", "unary_expression", "cast_expression",
   "switch_expression", "parenthesized_expression", "object_creation_expression",
   "array_creation_expression", "method_invocation", "method_reference", "field_access",
   "array_access"]

def isCompound (kind : String) : Bool := compoundKinds.contains kind

def literalKind? : String → Option LiteralKind
  | "null_literal" => some .null
  | "true" | "false" => some .bool
  | "decimal_integer_literal" | "hex_integer_literal" | "octal_integer_literal"
  | "binary_integer_literal" => some .int
  | "decimal_floating_point_literal" | "hex_floating_point_literal" => some .float
  | "character_literal" => some .char
  | "string_literal" | "text_block" => some .string
  | _ => none

/-- Is a node a part rather than a comment or a token? -/
def isPart (info : NodeInfo) : Bool := info.named && !info.extra

/-- The update that a node writes: its first operator, and whether nothing stands before it. -/
def updateOp? (children : List SyntaxNode) : Option UpdateOp :=
  match children.findIdx? fun c => c.kind == "++" || c.kind == "--" with
  | none => none
  | some i =>
      let increments := (children[i]?.map (·.kind)) == some "++"
      some <| match increments, i == 0 with
        | true, true => .preInc
        | true, false => .postInc
        | false, true => .preDec
        | false, false => .postDec

def labelled? (label : String) (nodes : List SyntaxNode) : Option SyntaxNode :=
  nodes.find? fun n => n.info.label == some label

def labelledText? (src : Source) (label : String) (nodes : List SyntaxNode) : Option String :=
  (labelled? label nodes).map (·.text src)

mutual

def convert (src : Source) : SyntaxNode → Expr
  | .node info children =>
      let span := src.spanOf info.start info.stop
      let text (_ : Unit) : String := src.between info.start info.stop
      let unknown (_ : Unit) : Expr :=
        .unknown info.kind (Text.collapse (text ())) (rootsOfNamed src children []) span
      match info.kind with
      | "parenthesized_expression" =>
          match convertFirst src children with
          | some inner => .paren inner span
          | none => unknown ()
      | "identifier" | "type_identifier" => .name (text ()) span
      | "this" => .self none span
      | "super" => .super none span
      | "field_access" =>
          match labelled? "object" children, labelled? "field" children,
              convertLabelled src "object" children with
          | some object, some field, some converted =>
              match field.kind with
              | "this" => .self (some (object.text src)) span
              | "super" => .super (some (object.text src)) span
              | _ => .field converted (field.text src) span
          | _, _, _ => unknown ()
      | "array_access" =>
          match convertLabelled src "array" children, convertLabelled src "index" children with
          | some array, some index => .index array index span
          | _, _ => unknown ()
      | "method_invocation" =>
          match labelledText? src "name" children with
          | some name =>
              .call (convertLabelled src "object" children)
                ((labelledText? src "type_arguments" children).map Text.collapse) name
                (convertArguments src children) span
          | none => unknown ()
      | "object_creation_expression" =>
          match labelledText? src "type" children, children.any (·.kind == "class_body") with
          | some className, false => .new className (convertArguments src children) span
          | _, _ => unknown ()
      | "binary_expression" =>
          match convertLabelled src "left" children,
              (labelledText? src "operator" children).bind BinaryOp.ofToken?,
              convertLabelled src "right" children with
          | some left, some op, some right => .binary op left right span
          | _, _, _ => unknown ()
      | "unary_expression" =>
          match (labelledText? src "operator" children).bind UnaryOp.ofToken?,
              convertLabelled src "operand" children with
          | some op, some operand => .unary op operand span
          | _, _ => unknown ()
      | "update_expression" =>
          match updateOp? children, convertFirst src children with
          | some op, some operand => .update op operand span
          | _, _ => unknown ()
      | "assignment_expression" =>
          match convertLabelled src "left" children, labelledText? src "operator" children,
              convertLabelled src "right" children with
          | some target, some op, some value => .assign op target value span
          | _, _, _ => unknown ()
      | "ternary_expression" =>
          match convertLabelled src "condition" children,
              convertLabelled src "consequence" children,
              convertLabelled src "alternative" children with
          | some condition, some thenBranch, some elseBranch =>
              .conditional condition thenBranch elseBranch span
          | _, _, _ => unknown ()
      | "cast_expression" =>
          match labelledText? src "type" children, convertLabelled src "value" children with
          | some targetType, some operand => .cast targetType operand span
          | _, _ => unknown ()
      | kind =>
          match literalKind? kind with
          | some literal => .literal literal (text ()) span
          | none => unknown ()

def convertFirst (src : Source) : List SyntaxNode → Option Expr
  | [] => none
  | n :: rest => if isPart n.info then some (convert src n) else convertFirst src rest

def convertLabelled (src : Source) (label : String) : List SyntaxNode → Option Expr
  | [] => none
  | n :: rest =>
      if n.info.label == some label then some (convert src n) else convertLabelled src label rest

def convertArguments (src : Source) : List SyntaxNode → List Expr
  | [] => []
  | .node info children :: rest =>
      if info.label == some "arguments" then convertParts src children
      else convertArguments src rest

def convertParts (src : Source) : List SyntaxNode → List Expr
  | [] => []
  | n :: rest =>
      if isPart n.info then convert src n :: convertParts src rest else convertParts src rest

/-- Put the outermost compound expressions in named nodes in front of others. -/
def rootsOfNamed (src : Source) (nodes : List SyntaxNode) (after : List Expr) : List Expr :=
  match nodes with
  | [] => after
  | .node info children :: rest =>
      let after := rootsOfNamed src rest after
      if info.named then
        if isCompound info.kind then convert src (.node info children) :: after
        else rootsOfNamed src children after
      else after

end

/-- The outermost compound expressions of a tree, in source order. -/
def rootsOf (src : Source) (n : SyntaxNode) : List Expr :=
  if isCompound n.kind then [convert src n] else rootsOfNamed src n.children []

def syntaxError (src : Source) (n : SyntaxNode) : SyntaxError :=
  { message := if n.isMissing then "missing " ++ n.kind else "unexpected input"
    span := n.span src
    sourceText := String.ofList ((n.text src).toList.take 100) }

mutual

/-- Put the syntax errors in a node at the end of those already there: the outermost nodes for
unfitting input and the missing tokens. Nodes without errors are passed over. -/
def collectErrors (src : Source) (n : SyntaxNode) (sink : Array SyntaxError) : Array SyntaxError :=
  match n with
  | .node info children =>
      if (SyntaxNode.node info children).isMisfit then
        sink.push (syntaxError src (.node info children))
      else if info.hasError then collectErrorsAll src children sink
      else sink

def collectErrorsAll (src : Source) (nodes : List SyntaxNode) (sink : Array SyntaxError) :
    Array SyntaxError :=
  match nodes with
  | [] => sink
  | n :: rest => collectErrorsAll src rest (collectErrors src n sink)

end

def concrete (src : Source) : SyntaxNode := Parsing.concrete automaton src

def sourceHash (text : String) : String := "sha256:" ++ Text.shortDigest text

/-- A concrete tree as an inspection sees it. -/
def unitOf (src : Source) (tree : SyntaxNode) : SourceUnit :=
  { roots := rootsOf src tree
    syntaxErrors := (collectErrors src tree #[]).toList
    sourceHash := sourceHash src.text }

def parse (text : String) : SourceUnit :=
  let src := Source.ofString text
  unitOf src (concrete src)

def inspect (text : String) (config : InspectionConfig) : InspectionReport :=
  (parse text).inspect config

def outline (text : String) : String := (concrete (Source.ofString text)).outline

end NullSafeEquality.Java
