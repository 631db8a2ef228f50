import NullSafeEquality.Expr.Basic

/-!
Operands that occur more than once. Two occurrences denote the same value when they have the same
key. A key drops spans and parentheses, and only an expression without side effects has one: a call,
an instance creation, an update, an assignment or an unknown construct anywhere in the tree may
give another value each time, so such an expression is not even the same operand as itself.
-/

namespace NullSafeEquality

/-- The span-free form of an expression that can be evaluated twice with the same result. -/
inductive OperandKey where
  | literal (text : String)
  | name (name : String)
  | self (qualifier : Option String)
  | super (qualifier : Option String)
  | field (object : OperandKey) (field : String)
  | index (array : OperandKey) (index : OperandKey)
  | binary (op : BinaryOp) (left : OperandKey) (right : OperandKey)
  | unary (op : UnaryOp) (operand : OperandKey)
  | conditional (condition : OperandKey) (thenBranch : OperandKey) (elseBranch : OperandKey)
  | cast (targetType : String) (operand : OperandKey)
deriving DecidableEq

namespace Expr

/-- The key of an expression, if it has no side effects. -/
def key? : Expr → Option OperandKey
  | paren inner _ => key? inner
  | literal _ text _ => some (.literal text)
  | name n _ => some (.name n)
  | self q _ => some (.self q)
  | super q _ => some (.super q)
  | field object f _ => do return .field (← key? object) f
  | index array i _ => do return .index (← key? array) (← key? i)
  | binary op left right _ => do return .binary op (← key? left) (← key? right)
  | unary op operand _ => do return .unary op (← key? operand)
  | conditional c t e _ => do return .conditional (← key? c) (← key? t) (← key? e)
  | cast targetType operand _ => do return .cast targetType (← key? operand)
  | call .. | new .. | update .. | assign .. | unknown .. => none

/-- Can the expression be evaluated repeatedly with the same result? -/
def isSideEffectFree (e : Expr) : Bool := e.key?.isSome

/-- Do both expressions denote the same accessed value? -/
def sameOperand (a b : Expr) : Bool :=
  match a.key?, b.key? with
  | some ka, some kb => ka == kb
  | _, _ => false

mutual

/-- Does the tree hold a construct that was not understood? -/
def containsUnknown : Expr → Bool
  | literal .. | name .. | self .. | super .. => false
  | field object _ _ => containsUnknown object
  | index array i _ => containsUnknown array || containsUnknown i
  | call receiver _ _ args _ => receiverContainsUnknown receiver || anyContainsUnknown args
  | new _ args _ => anyContainsUnknown args
  | binary _ left right _ => containsUnknown left || containsUnknown right
  | unary _ operand _ | update _ operand _ => containsUnknown operand
  | assign _ target value _ => containsUnknown target || containsUnknown value
  | conditional c t e _ => containsUnknown c || containsUnknown t || containsUnknown e
  | paren inner _ => containsUnknown inner
  | cast _ operand _ => containsUnknown operand
  | unknown .. => true

def receiverContainsUnknown : Option Expr → Bool
  | none => false
  | some receiver => containsUnknown receiver

def anyContainsUnknown : List Expr → Bool
  | [] => false
  | e :: rest => containsUnknown e || anyContainsUnknown rest

end

end Expr
end NullSafeEquality
