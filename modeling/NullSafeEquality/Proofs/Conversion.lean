import NullSafeEquality.Java.Conversion
import NullSafeEquality.Proofs.Nodes
import NullSafeEquality.Proofs.SyntaxPaths

/-!
What the conversion of a node can give. One inversion says for each kind of expression of which kind
the node was and which of its parts were converted; all that is said of conversions goes by cases on
it. The parts are named by their paths, so that it can be told which node an expression came from.
-/

namespace NullSafeEquality
namespace Java

open SyntaxNode

def hasLabel (label : String) (n : SyntaxNode) : Bool := n.info.label == some label

variable (src : Source)

theorem convertLabelled_eq_map (label : String) (nodes : List SyntaxNode) :
    convertLabelled src label nodes = (labelled? label nodes).map (convert src) := by
  induction nodes with
  | nil => rw [convertLabelled, labelled?, List.find?_nil, Option.map_none]
  | cons n rest ih =>
      rw [convertLabelled, labelled?, List.find?_cons]
      cases h : n.info.label == some label with
      | true => rw [if_pos rfl, Option.map_some]
      | false => rw [if_neg Bool.false_ne_true, ih, labelled?]

theorem convertFirst_eq_map (nodes : List SyntaxNode) :
    convertFirst src nodes = (nodes.find? fun n => isPart n.info).map (convert src) := by
  induction nodes with
  | nil => rw [convertFirst, List.find?_nil, Option.map_none]
  | cons n rest ih =>
      rw [convertFirst, List.find?_cons]
      cases h : isPart n.info with
      | true => rw [if_pos rfl, Option.map_some]
      | false => rw [if_neg Bool.false_ne_true, ih]

theorem convertParts_eq_map (nodes : List SyntaxNode) :
    convertParts src nodes = (nodes.filter fun n => isPart n.info).map (convert src) := by
  induction nodes with
  | nil => rw [convertParts, List.filter_nil, List.map_nil]
  | cons n rest ih =>
      rw [convertParts, List.filter_cons]
      cases h : isPart n.info with
      | true => rw [if_pos rfl, if_pos rfl, ih, List.map_cons]
      | false => rw [if_neg Bool.false_ne_true, if_neg Bool.false_ne_true, ih]

theorem convertArguments_eq_map (nodes : List SyntaxNode) :
    convertArguments src nodes = ((labelled? "arguments" nodes).elim [] fun n =>
      n.children.filter fun c => isPart c.info).map (convert src) := by
  induction nodes with
  | nil => rw [convertArguments, labelled?, List.find?_nil, Option.elim_none, List.map_nil]
  | cons n rest ih =>
      cases n with
      | node info children =>
          rw [convertArguments, labelled?, List.find?_cons]
          cases h : (info.label == some "arguments") with
          | true =>
              simp only [SyntaxNode.info, h, if_true, Option.elim_some]
              exact convertParts_eq_map src children
          | false =>
              simp only [SyntaxNode.info, h, Bool.false_eq_true, if_false]
              exact ih

/-- What the conversion of a node with these children can give. -/
inductive Conversion (info : NodeInfo) (children : List SyntaxNode) : Expr → Prop where
  | literal {kind} : literalKind? info.kind = some kind →
      Conversion info children
        (.literal kind (src.between info.start info.stop) (src.spanOf info.start info.stop))
  | name : info.kind = "identifier" ∨ info.kind = "type_identifier" →
      Conversion info children
        (.name (src.between info.start info.stop) (src.spanOf info.start info.stop))
  | self : info.kind = "this" →
      Conversion info children (.self none (src.spanOf info.start info.stop))
  | super : info.kind = "super" →
      Conversion info children (.super none (src.spanOf info.start info.stop))
  | outerSelf {object field} : info.kind = "field_access" →
      labelled? "object" children = some object → labelled? "field" children = some field →
      field.kind = "this" →
      Conversion info children
        (.self (some (object.text src)) (src.spanOf info.start info.stop))
  | outerSuper {object field} : info.kind = "field_access" →
      labelled? "object" children = some object → labelled? "field" children = some field →
      field.kind = "super" →
      Conversion info children
        (.super (some (object.text src)) (src.spanOf info.start info.stop))
  | field {object field} : info.kind = "field_access" →
      labelled? "object" children = some object → labelled? "field" children = some field →
      field.kind ≠ "this" → field.kind ≠ "super" →
      Conversion info children
        (.field (convert src object) (field.text src) (src.spanOf info.start info.stop))
  | index {array i} : info.kind = "array_access" →
      labelled? "array" children = some array → labelled? "index" children = some i →
      Conversion info children
        (.index (convert src array) (convert src i) (src.spanOf info.start info.stop))
  | call {name} : info.kind = "method_invocation" →
      labelled? "name" children = some name →
      Conversion info children
        (.call ((labelled? "object" children).map (convert src))
          ((labelledText? src "type_arguments" children).map Text.collapse) (name.text src)
          (((labelled? "arguments" children).elim [] fun n =>
            n.children.filter fun c => isPart c.info).map (convert src))
          (src.spanOf info.start info.stop))
  | new {type} : info.kind = "object_creation_expression" →
      labelled? "type" children = some type → (children.any fun c => c.kind == "class_body") = false →
      Conversion info children
        (.new (type.text src)
          (((labelled? "arguments" children).elim [] fun n =>
            n.children.filter fun c => isPart c.info).map (convert src))
          (src.spanOf info.start info.stop))
  | binary {op left operator right} : info.kind = "binary_expression" →
      labelled? "left" children = some left → labelled? "operator" children = some operator →
      labelled? "right" children = some right → BinaryOp.ofToken? (operator.text src) = some op →
      Conversion info children
        (.binary op (convert src left) (convert src right) (src.spanOf info.start info.stop))
  | unary {op operator operand} : info.kind = "unary_expression" →
      labelled? "operator" children = some operator → labelled? "operand" children = some operand →
      UnaryOp.ofToken? (operator.text src) = some op →
      Conversion info children
        (.unary op (convert src operand) (src.spanOf info.start info.stop))
  | update {op operand} : info.kind = "update_expression" → updateOp? children = some op →
      (children.find? fun n => isPart n.info) = some operand →
      Conversion info children
        (.update op (convert src operand) (src.spanOf info.start info.stop))
  | assign {target operator value} : info.kind = "assignment_expression" →
      labelled? "left" children = some target → labelled? "operator" children = some operator →
      labelled? "right" children = some value →
      Conversion info children
        (.assign (operator.text src) (convert src target) (convert src value)
          (src.spanOf info.start info.stop))
  | conditional {c t e} : info.kind = "ternary_expression" →
      labelled? "condition" children = some c → labelled? "consequence" children = some t →
      labelled? "alternative" children = some e →
      Conversion info children
        (.conditional (convert src c) (convert src t) (convert src e)
          (src.spanOf info.start info.stop))
  | paren {inner} : info.kind = "parenthesized_expression" →
      (children.find? fun n => isPart n.info) = some inner →
      Conversion info children
        (.paren (convert src inner) (src.spanOf info.start info.stop))
  | cast {type operand} : info.kind = "cast_expression" →
      labelled? "type" children = some type → labelled? "value" children = some operand →
      Conversion info children
        (.cast (type.text src) (convert src operand) (src.spanOf info.start info.stop))
  | unknown :
      Conversion info children
        (.unknown info.kind (Text.collapse (src.between info.start info.stop))
          (rootsOfNamed src children []) (src.spanOf info.start info.stop))

theorem conversion (info : NodeInfo) (children : List SyntaxNode) :
    Conversion src info children (convert src (.node info children)) := by
  rw [convert]
  simp only [convertLabelled_eq_map, convertFirst_eq_map, convertArguments_eq_map]
  split
  case h_1 kind =>
    split
    case h_1 _ found =>
      obtain ⟨inner, hinner, rfl⟩ := Option.map_eq_some_iff.mp found
      exact .paren kind hinner
    case h_2 => exact .unknown
  case h_2 kind => exact .name (.inl kind)
  case h_3 kind => exact .name (.inr kind)
  case h_4 kind => exact .self kind
  case h_5 kind => exact .super kind
  case h_6 kind =>
    split
    case h_1 hobject hfield converted =>
      obtain ⟨object, same, rfl⟩ := Option.map_eq_some_iff.mp converted
      cases hobject.symm.trans same
      split
      case h_1 this => exact .outerSelf kind hobject hfield this
      case h_2 super => exact .outerSuper kind hobject hfield super
      case h_3 notThis notSuper => exact .field kind hobject hfield notThis notSuper
    case h_2 => exact .unknown
  case h_7 kind =>
    split
    case h_1 harray hindex =>
      obtain ⟨array, hfirst, rfl⟩ := Option.map_eq_some_iff.mp harray
      obtain ⟨i, hsecond, rfl⟩ := Option.map_eq_some_iff.mp hindex
      exact .index kind hfirst hsecond
    case h_2 => exact .unknown
  case h_8 kind =>
    split
    case h_1 hname =>
      obtain ⟨name, hlabelled, rfl⟩ := Option.map_eq_some_iff.mp hname
      exact .call kind hlabelled
    case h_2 => exact .unknown
  case h_9 kind =>
    split
    case h_1 htype noBody =>
      obtain ⟨type, hlabelled, rfl⟩ := Option.map_eq_some_iff.mp htype
      exact .new kind hlabelled noBody
    case h_2 => exact .unknown
  case h_10 kind =>
    split
    case h_1 hleft hop hright =>
      obtain ⟨left, hl, rfl⟩ := Option.map_eq_some_iff.mp hleft
      obtain ⟨_, htext, known⟩ := Option.bind_eq_some_iff.mp hop
      obtain ⟨operator, ho, rfl⟩ := Option.map_eq_some_iff.mp htext
      obtain ⟨right, hr, rfl⟩ := Option.map_eq_some_iff.mp hright
      exact .binary kind hl ho hr known
    case h_2 => exact .unknown
  case h_11 kind =>
    split
    case h_1 hop hoperand =>
      obtain ⟨_, htext, known⟩ := Option.bind_eq_some_iff.mp hop
      obtain ⟨operator, ho, rfl⟩ := Option.map_eq_some_iff.mp htext
      obtain ⟨operand, hlabelled, rfl⟩ := Option.map_eq_some_iff.mp hoperand
      exact .unary kind ho hlabelled known
    case h_2 => exact .unknown
  case h_12 kind =>
    split
    case h_1 hop hoperand =>
      obtain ⟨operand, hfirst, rfl⟩ := Option.map_eq_some_iff.mp hoperand
      exact .update kind hop hfirst
    case h_2 => exact .unknown
  case h_13 kind =>
    split
    case h_1 hleft hop hright =>
      obtain ⟨target, hl, rfl⟩ := Option.map_eq_some_iff.mp hleft
      obtain ⟨operator, ho, rfl⟩ := Option.map_eq_some_iff.mp hop
      obtain ⟨value, hr, rfl⟩ := Option.map_eq_some_iff.mp hright
      exact .assign kind hl ho hr
    case h_2 => exact .unknown
  case h_14 kind =>
    split
    case h_1 hcondition hthen helse =>
      obtain ⟨c, hc, rfl⟩ := Option.map_eq_some_iff.mp hcondition
      obtain ⟨t, ht, rfl⟩ := Option.map_eq_some_iff.mp hthen
      obtain ⟨e, he, rfl⟩ := Option.map_eq_some_iff.mp helse
      exact .conditional kind hc ht he
    case h_2 => exact .unknown
  case h_15 kind =>
    split
    case h_1 htype hoperand =>
      obtain ⟨type, ht, rfl⟩ := Option.map_eq_some_iff.mp htype
      obtain ⟨operand, ho, rfl⟩ := Option.map_eq_some_iff.mp hoperand
      exact .cast kind ht ho
    case h_2 => exact .unknown
  case h_16 =>
    split
    case h_1 hkind => exact .literal hkind
    case h_2 => exact .unknown

theorem conversion_of (n : SyntaxNode) : Conversion src n.info n.children (convert src n) := by
  obtain ⟨info, children⟩ := n
  exact conversion src info children

variable {src}

theorem Conversion.span_eq {info : NodeInfo} {children : List SyntaxNode} {e : Expr}
    (h : Conversion src info children e) : e.span = src.spanOf info.start info.stop := by
  cases h <;> rfl

@[simp] theorem span_convert (n : SyntaxNode) : (convert src n).span = n.span src := by
  cases n with
  | node info children => exact (conversion src info children).span_eq

end Java
end NullSafeEquality
