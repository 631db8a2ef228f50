import NullSafeEquality.Expr.Operator
import NullSafeEquality.Span

/-!
Expression trees. An expression keeps what a recogniser of equality tests looks at: its kind, its
operator or method name, its operands in source order and its place. Whatever has no constructor of
its own is `unknown` and keeps the expressions found below it, so that they are still visited.
-/

namespace NullSafeEquality

inductive Expr where
  /-- A literal, as written. -/
  | literal (kind : LiteralKind) (text : String) (span : Span)
  | name (name : String) (span : Span)
  /-- The current object, or that of an enclosing class. -/
  | self (qualifier : Option String) (span : Span)
  | super (qualifier : Option String) (span : Span)
  | field (object : Expr) (field : String) (span : Span)
  | index (array : Expr) (index : Expr) (span : Span)
  /-- A method call. Type arguments are kept as written, with their angle brackets. -/
  | call (receiver : Option Expr) (typeArgs : Option String) (method : String)
      (args : List Expr) (span : Span)
  | new (className : String) (args : List Expr) (span : Span)
  | binary (op : BinaryOp) (left : Expr) (right : Expr) (span : Span)
  | unary (op : UnaryOp) (operand : Expr) (span : Span)
  | update (op : UpdateOp) (operand : Expr) (span : Span)
  /-- An assignment, simple or compound. The operator is its token. -/
  | assign (op : String) (target : Expr) (value : Expr) (span : Span)
  | conditional (condition : Expr) (thenBranch : Expr) (elseBranch : Expr) (span : Span)
  | paren (inner : Expr) (span : Span)
  | cast (targetType : String) (operand : Expr) (span : Span)
  /-- Any other construct, with the outermost expressions below it. -/
  | unknown (kind : String) (text : String) (children : List Expr) (span : Span)
deriving Inhabited

namespace Expr

def span : Expr → Span
  | literal _ _ s | name _ s | self _ s | super _ s | field _ _ s | index _ _ s
  | call _ _ _ _ s | new _ _ s | binary _ _ _ s | unary _ _ s | update _ _ s
  | assign _ _ _ s | conditional _ _ _ s | paren _ s | cast _ _ s | unknown _ _ _ s => s

def kind : Expr → String
  | literal .. => "literal"
  | name .. => "name"
  | self .. => "this"
  | super .. => "super"
  | field .. => "field"
  | index .. => "index"
  | call .. => "call"
  | new .. => "new"
  | binary .. => "binary"
  | unary .. => "unary"
  | update .. => "update"
  | assign .. => "assign"
  | conditional .. => "conditional"
  | paren .. => "paren"
  | cast .. => "cast"
  | unknown .. => "unknown"

/-- The direct subexpressions, in source order. -/
def children : Expr → List Expr
  | literal .. | name .. | self .. | super .. => []
  | field object _ _ => [object]
  | index array i _ => [array, i]
  | call receiver _ _ args _ => receiver.toList ++ args
  | new _ args _ => args
  | binary _ left right _ => [left, right]
  | unary _ operand _ | update _ operand _ => [operand]
  | assign _ target value _ => [target, value]
  | conditional condition thenBranch elseBranch _ => [condition, thenBranch, elseBranch]
  | paren inner _ => [inner]
  | cast _ operand _ => [operand]
  | unknown _ _ children _ => children

/-- The expression inside any number of enclosing parentheses. -/
def stripParens : Expr → Expr
  | paren inner _ => stripParens inner
  | e => e

/-- Is this the null literal, parentheses aside? -/
def isNullLiteral : Expr → Bool
  | paren inner _ => isNullLiteral inner
  | literal .null _ _ => true
  | _ => false

end Expr
end NullSafeEquality
