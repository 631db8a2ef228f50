import NullSafeEquality.Expr.Basic
import NullSafeEquality.Json.Basic

/-!
The JSON form of expression trees. A tree is an object with one member, named for its constructor,
whose value is the record of the fields. Type arguments of a call are left out when there are none;
all other absent fields are written as null. Reading accepts what writing gives, with members that
it does not know besides. What is read is a JSON value, not its text: of a value the record of a
constructor is always an object, while a span in it is a plain record, which may be an array.

Reading goes from the leaves up: each value is read in every role that it can play in a tree, and
the record around it picks the role that it needs.
-/

namespace NullSafeEquality

namespace Span

def fieldNames : List String :=
  ["start_line", "start_col", "end_line", "end_col", "start_byte", "end_byte"]

def toJson (s : Span) : Json :=
  .object [("start_line", .natural s.startLine), ("start_col", .natural s.startCol),
    ("end_line", .natural s.endLine), ("end_col", .natural s.endCol),
    ("start_byte", .natural s.startByte), ("end_byte", .natural s.endByte)]

def ofJson? (j : Json) : Option Span := do
  match ← (← j.record? fieldNames).mapM (·.bind Json.word?) with
  | [startLine, startCol, endLine, endCol, startByte, endByte] =>
      some { startLine, startCol, endLine, endCol, startByte, endByte }
  | _ => none

end Span

namespace Expr

mutual

def toJson : Expr → Json
  | literal kind text span => .object [("Literal", .object
      [("kind", .string kind.label), ("text", .string text), ("span", span.toJson)])]
  | name n span => .object [("Name", .object [("name", .string n), ("span", span.toJson)])]
  | self q span => .object [("This", .object
      [("qualifier", Json.ofOption .string q), ("span", span.toJson)])]
  | super q span => .object [("Super", .object
      [("qualifier", Json.ofOption .string q), ("span", span.toJson)])]
  | field object f span => .object [("Field", .object
      [("object", toJson object), ("field", .string f), ("span", span.toJson)])]
  | index array i span => .object [("Index", .object
      [("array", toJson array), ("index", toJson i), ("span", span.toJson)])]
  | call receiver none method args span => .object [("Call", .object
      [("receiver", receiverToJson receiver), ("method", .string method),
        ("args", .array (listToJson args)), ("span", span.toJson)])]
  | call receiver (some typeArgs) method args span => .object [("Call", .object
      [("receiver", receiverToJson receiver), ("type_args", .string typeArgs),
        ("method", .string method), ("args", .array (listToJson args)), ("span", span.toJson)])]
  | new className args span => .object [("New", .object
      [("class", .string className), ("args", .array (listToJson args)), ("span", span.toJson)])]
  | binary op left right span => .object [("Binary", .object
      [("op", .string op.label), ("left", toJson left), ("right", toJson right),
        ("span", span.toJson)])]
  | unary op operand span => .object [("Unary", .object
      [("op", .string op.label), ("operand", toJson operand), ("span", span.toJson)])]
  | update op operand span => .object [("Update", .object
      [("op", .string op.label), ("operand", toJson operand), ("span", span.toJson)])]
  | assign op target value span => .object [("Assign", .object
      [("op", .string op), ("target", toJson target), ("value", toJson value),
        ("span", span.toJson)])]
  | conditional condition thenBranch elseBranch span => .object [("Conditional", .object
      [("condition", toJson condition), ("then_branch", toJson thenBranch),
        ("else_branch", toJson elseBranch), ("span", span.toJson)])]
  | paren inner span => .object [("Paren", .object
      [("inner", toJson inner), ("span", span.toJson)])]
  | cast targetType operand span => .object [("Cast", .object
      [("target_type", .string targetType), ("expr", toJson operand), ("span", span.toJson)])]
  | unknown kind text children span => .object [("Unknown", .object
      [("kind", .string kind), ("text", .string text),
        ("children", .array (listToJson children)), ("span", span.toJson)])]

def receiverToJson : Option Expr → Json
  | none => .null
  | some receiver => toJson receiver

def listToJson : List Expr → List Json
  | [] => []
  | e :: rest => toJson e :: listToJson rest

end

/-- A value in the roles that it can play as a field: as it stands, as a tree, as a list of trees. -/
structure Slot where
  json : Json
  expr? : Option Expr
  exprs? : Option (List Expr)

/-- A value in the roles that it can play, the body of a constructor among them. -/
structure Reading extends Slot where
  members? : Option (List (String × Slot))

namespace Slot

def receiver? : Option Slot → Option (Option Expr)
  | none => some none
  | some slot =>
      match slot.json with
      | .null => some none
      | _ => slot.expr?.map some

def text? (slot : Option Slot) : Option (Option String) :=
  Json.optional? Json.string? (slot.map (·.json))

/-- A required field, read from the value as it stands. -/
def value? (read : Json → Option α) (slot : Option Slot) : Option α :=
  slot.bind fun s => read s.json

def tree? (slot : Option Slot) : Option Expr := slot.bind (·.expr?)

def trees? (slot : Option Slot) : Option (List Expr) := slot.bind (·.exprs?)

end Slot

namespace Reading

/-- The fields of a record in the order of the given names. -/
def fields? (r : Reading) (names : List String) : Option (List (Option Slot)) :=
  r.members?.map fun members => names.map fun name => members.lookup name

end Reading

def ofBody? (tag : String) (body : Reading) : Option Expr :=
  let span? := Slot.value? Span.ofJson?
  let string? := Slot.value? Json.string?
  match tag with
  | "Literal" => do
      let [kind, text, span] ← body.fields? ["kind", "text", "span"] | none
      return literal (← Slot.value? (Json.choice? LiteralKind.all LiteralKind.label) kind)
        (← string? text) (← span? span)
  | "Name" => do
      let [n, span] ← body.fields? ["name", "span"] | none
      return name (← string? n) (← span? span)
  | "This" => do
      let [q, span] ← body.fields? ["qualifier", "span"] | none
      return self (← Slot.text? q) (← span? span)
  | "Super" => do
      let [q, span] ← body.fields? ["qualifier", "span"] | none
      return super (← Slot.text? q) (← span? span)
  | "Field" => do
      let [object, f, span] ← body.fields? ["object", "field", "span"] | none
      return field (← Slot.tree? object) (← string? f) (← span? span)
  | "Index" => do
      let [array, i, span] ← body.fields? ["array", "index", "span"] | none
      return index (← Slot.tree? array) (← Slot.tree? i) (← span? span)
  | "Call" => do
      let [receiver, typeArgs, method, args, span] ←
        body.fields? ["receiver", "type_args", "method", "args", "span"] | none
      return call (← Slot.receiver? receiver) (← Slot.text? typeArgs) (← string? method)
        (← Slot.trees? args) (← span? span)
  | "New" => do
      let [className, args, span] ← body.fields? ["class", "args", "span"] | none
      return new (← string? className) (← Slot.trees? args) (← span? span)
  | "Binary" => do
      let [op, left, right, span] ← body.fields? ["op", "left", "right", "span"] | none
      return binary (← Slot.value? (Json.choice? BinaryOp.all BinaryOp.label) op)
        (← Slot.tree? left) (← Slot.tree? right) (← span? span)
  | "Unary" => do
      let [op, operand, span] ← body.fields? ["op", "operand", "span"] | none
      return unary (← Slot.value? (Json.choice? UnaryOp.all UnaryOp.label) op)
        (← Slot.tree? operand) (← span? span)
  | "Update" => do
      let [op, operand, span] ← body.fields? ["op", "operand", "span"] | none
      return update (← Slot.value? (Json.choice? UpdateOp.all UpdateOp.label) op)
        (← Slot.tree? operand) (← span? span)
  | "Assign" => do
      let [op, target, value, span] ← body.fields? ["op", "target", "value", "span"] | none
      return assign (← string? op) (← Slot.tree? target) (← Slot.tree? value) (← span? span)
  | "Conditional" => do
      let [c, t, e, span] ←
        body.fields? ["condition", "then_branch", "else_branch", "span"] | none
      return conditional (← Slot.tree? c) (← Slot.tree? t) (← Slot.tree? e) (← span? span)
  | "Paren" => do
      let [inner, span] ← body.fields? ["inner", "span"] | none
      return paren (← Slot.tree? inner) (← span? span)
  | "Cast" => do
      let [targetType, operand, span] ← body.fields? ["target_type", "expr", "span"] | none
      return cast (← string? targetType) (← Slot.tree? operand) (← span? span)
  | "Unknown" => do
      let [kind, text, children, span] ←
        body.fields? ["kind", "text", "children", "span"] | none
      return unknown (← string? kind) (← string? text) (← Slot.trees? children) (← span? span)
  | _ => none

mutual

def read : Json → Reading
  | .array items =>
      { json := .array items
        expr? := none
        exprs? := (readItems items).mapM (·.expr?)
        members? := none }
  | .object members =>
      let readings := readMembers members
      { json := .object members
        expr? := match readings with
          | [(tag, body)] => ofBody? tag body
          | _ => none
        exprs? := none
        members? := some (readings.map fun (key, r) => (key, r.toSlot)) }
  | j => { json := j, expr? := none, exprs? := none, members? := none }

def readItems : List Json → List Reading
  | [] => []
  | j :: rest => read j :: readItems rest

def readMembers : List (String × Json) → List (String × Reading)
  | [] => []
  | (key, j) :: rest => (key, read j) :: readMembers rest

end

/-- The tree that a value writes, if it writes one. -/
def ofJson? (j : Json) : Option Expr := (read j).expr?

def listOfJson? (j : Json) : Option (List Expr) := (read j).exprs?

end Expr
end NullSafeEquality
