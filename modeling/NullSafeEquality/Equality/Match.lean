import NullSafeEquality.Config
import NullSafeEquality.Equality.Reading
import NullSafeEquality.Expr.Render
import NullSafeEquality.Operand

/-!
Recognition of hand-written null-safe equality tests. Parentheses are ignored everywhere, and every
operand that occurs more than once must be the same operand at each place:

    L.equals(R)                              unguarded
    L != null && L.equals(R)                 null guarded
    L == R || (L != null && L.equals(R))     identity guarded
    L == null || !L.equals(R)                negated, null guarded
    L != R && (L == null || !L.equals(R))    negated, identity guarded
    L == null ? R == null : L.equals(R)      conditional, also negated and with branches swapped

Only the expression itself decides; what stands around it does not.
-/

namespace NullSafeEquality

inductive Polarity where
  | equals | notEquals
deriving DecidableEq

inductive Shape where
  | unguarded | nullGuarded | identityGuarded | negatedNullGuarded | negatedIdentityGuarded | ternary
deriving DecidableEq

namespace Polarity

def all : List Polarity := [.equals, .notEquals]

def label : Polarity → String
  | .equals => "equals"
  | .notEquals => "not_equals"

def ofNegated (negated : Bool) : Polarity := if negated then .notEquals else .equals

end Polarity

namespace Shape

def all : List Shape :=
  [.unguarded, .nullGuarded, .identityGuarded, .negatedNullGuarded, .negatedIdentityGuarded,
   .ternary]

def label : Shape → String
  | .unguarded => "unguarded"
  | .nullGuarded => "null_guarded"
  | .identityGuarded => "identity_guarded"
  | .negatedNullGuarded => "negated_null_guarded"
  | .negatedIdentityGuarded => "negated_identity_guarded"
  | .ternary => "ternary"

end Shape

/-- The two sides of an equality test, parentheses removed. -/
structure Operands where
  left : Expr
  right : Expr

structure EqualsMatch where
  /-- Receiver of the equality call. -/
  left : Expr
  /-- Argument of the equality call. -/
  right : Expr
  polarity : Polarity
  shape : Shape
  /-- Place of the recognised expression. -/
  span : Span

namespace EqualsMatch

/-- The null-safe call that can stand in place of the match. -/
def replacement (m : EqualsMatch) : String :=
  (match m.polarity with
    | .equals => ""
    | .notEquals => "!") ++
  "Objects.equals(" ++ m.left.render ++ ", " ++ m.right.render ++ ")"

end EqualsMatch

namespace Expr

/-- A null check followed by an equality call on the checked operand. A negated pair is one whose
check asks for null and whose call is negated. -/
def guardedCall? (negated : Bool) (guard equality : Expr) : Option Operands := do
  let check ← guard.nullCheck?
  let call ← equality.equalsCall?
  if check.isNull = negated ∧ call.negated = negated ∧ check.operand.sameOperand call.receiver then
    some ⟨call.receiver, call.argument⟩
  else none

/-- An identity check beside a guarded call on the same two operands, in either order. The positive
form joins by disjunction around a conjunction, the negated form the other way round. -/
def identityGuarded? (isSame : Bool) (identity guarded : Expr) : Option Operands := do
  let identity ← identity.identityCheck?
  if identity.isSame = isSame then
    let operands ← match guarded.stripParens, isSame with
      | binary .and guard equality _, true => guardedCall? false guard equality
      | binary .or guard equality _, false => guardedCall? true guard equality
      | _, _ => none
    let direct := identity.left.sameOperand operands.left && identity.right.sameOperand operands.right
    let swapped := identity.left.sameOperand operands.right && identity.right.sameOperand operands.left
    if direct || swapped then some operands else none
  else none

/-- A conditional on a null check. The branch for null tests the other operand for null, the branch
for non-null holds the equality call, and both have one polarity. -/
def ternary? (condition thenBranch elseBranch : Expr) : Option (Operands × Polarity) := do
  let check ← condition.nullCheck?
  let nullBranch := if check.isNull then thenBranch else elseBranch
  let callBranch := if check.isNull then elseBranch else thenBranch
  let call ← callBranch.equalsCall?
  let rightCheck ← nullBranch.nullCheck?
  if check.operand.sameOperand call.receiver ∧ rightCheck.isNull ≠ call.negated ∧
      rightCheck.operand.sameOperand call.argument then
    some (⟨call.receiver, call.argument⟩, Polarity.ofNegated call.negated)
  else none

/-- The form of an expression without outer parentheses: its operands, polarity and shape. -/
def form? (config : InspectionConfig) : Expr → Option (Operands × Polarity × Shape)
  | conditional condition thenBranch elseBranch _ =>
      (ternary? condition thenBranch elseBranch).map fun (o, p) => (o, p, .ternary)
  | binary .and left right _ =>
      ((guardedCall? false left right).map fun o => (o, .equals, .nullGuarded)) <|>
      ((identityGuarded? false left right).map fun o => (o, .notEquals, .negatedIdentityGuarded))
  | binary .or left right _ =>
      ((guardedCall? true left right).map fun o => (o, .notEquals, .negatedNullGuarded)) <|>
      ((identityGuarded? true left right).map fun o => (o, .equals, .identityGuarded))
  | e@(call ..) =>
      if config.ignoreNullCheck then
        e.equalsCall?.map fun c => (⟨c.receiver, c.argument⟩, .equals, .unguarded)
      else none
  | _ => none

/-- Recognise an equality test. Operands that were not fully understood are left alone. -/
def recognize? (config : InspectionConfig) (e : Expr) : Option EqualsMatch := do
  let (operands, polarity, shape) ← form? config e.stripParens
  if operands.left.containsUnknown || operands.right.containsUnknown then none
  else some ⟨operands.left, operands.right, polarity, shape, e.span⟩

end Expr
end NullSafeEquality
