import NullSafeEquality.Expr.Basic

/-!
The three parts of a hand-written equality test: a call of the equality method, a comparison with
null and a comparison of identities. Each is read through any number of parentheses and negations;
a negation flips the flag of what it stands before.
-/

namespace NullSafeEquality

structure EqualsCall where
  receiver : Expr
  argument : Expr
  negated : Bool

structure NullCheck where
  operand : Expr
  isNull : Bool

/-- A test whether two operands, neither of them null, are the same object, or whether not. -/
structure IdentityCheck where
  left : Expr
  right : Expr
  isSame : Bool

namespace EqualsCall

def negate (c : EqualsCall) : EqualsCall := { c with negated := !c.negated }

end EqualsCall

namespace NullCheck

def negate (c : NullCheck) : NullCheck := { c with isNull := !c.isNull }

end NullCheck

namespace IdentityCheck

def negate (c : IdentityCheck) : IdentityCheck := { c with isSame := !c.isSame }

end IdentityCheck

namespace Expr

/-- Receivers that are never null gain nothing from a null-safe test. -/
def mayBeNull : Expr → Bool
  | self .. | super .. | literal .. | new .. => false
  | _ => true

def equalsCall? : Expr → Option EqualsCall
  | paren inner _ => equalsCall? inner
  | unary .not operand _ => (equalsCall? operand).map EqualsCall.negate
  | call (some receiver) _ method [argument] _ =>
      if method = "equals" ∧ receiver.stripParens.mayBeNull then
        some ⟨receiver.stripParens, argument.stripParens, false⟩
      else none
  | _ => none

def nullCheck? : Expr → Option NullCheck
  | paren inner _ => nullCheck? inner
  | unary .not operand _ => (nullCheck? operand).map NullCheck.negate
  | binary op left right _ =>
      if op = .eq ∨ op = .ne then
        match left.isNullLiteral, right.isNullLiteral with
        | false, true => some ⟨left.stripParens, op = .eq⟩
        | true, false => some ⟨right.stripParens, op = .eq⟩
        | _, _ => none
      else none
  | _ => none

def identityCheck? : Expr → Option IdentityCheck
  | paren inner _ => identityCheck? inner
  | unary .not operand _ => (identityCheck? operand).map IdentityCheck.negate
  | binary op left right _ =>
      if (op = .eq ∨ op = .ne) ∧ !left.isNullLiteral ∧ !right.isNullLiteral then
        some ⟨left.stripParens, right.stripParens, op = .eq⟩
      else none
  | _ => none

end Expr
end NullSafeEquality
