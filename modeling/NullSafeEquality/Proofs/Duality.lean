import NullSafeEquality.Proofs.Recognition

/-!
The dual of a test: its negation with the connectives and the comparisons exchanged. Each part of a
test has on the dual the same operands and the other flag. So the arms of the matcher that stand for
each other find the same operands, and the dual of a test is recognised as its negation.
-/

namespace NullSafeEquality

namespace Polarity

def opposite : Polarity → Polarity
  | .equals => .notEquals
  | .notEquals => .equals

theorem opposite_ofNegated (negated : Bool) :
    (ofNegated negated).opposite = ofNegated !negated := by
  cases negated <;> rfl

end Polarity

/-- The shape of the dual of a test. -/
def Shape.dual : Shape → Shape
  | .unguarded => .unguarded
  | .nullGuarded => .negatedNullGuarded
  | .negatedNullGuarded => .nullGuarded
  | .identityGuarded => .negatedIdentityGuarded
  | .negatedIdentityGuarded => .identityGuarded
  | .ternary => .ternary

/-- A match on the same operands at the same place that tests the opposite. -/
def EqualsMatch.dual (m : EqualsMatch) : EqualsMatch :=
  { m with polarity := m.polarity.opposite, shape := m.shape.dual }

namespace Expr

/-- The dual of an expression. Conjunctions and disjunctions change places, and so do the comparisons
of references; whatever is none of these gets a negation. -/
def dual : Expr → Expr
  | paren inner span => paren (dual inner) span
  | unary .not operand span => unary .not (dual operand) span
  | binary .eq left right span => binary .ne left right span
  | binary .ne left right span => binary .eq left right span
  | binary .and left right span => binary .or (dual left) (dual right) span
  | binary .or left right span => binary .and (dual left) (dual right) span
  | conditional condition thenBranch elseBranch span =>
      conditional condition (dual thenBranch) (dual elseBranch) span
  | e => unary .not e e.span

/-- A conjunction, a disjunction or a conditional. -/
inductive Connective : Expr → Prop where
  | and (left right span) : Connective (binary .and left right span)
  | or (left right span) : Connective (binary .or left right span)
  | conditional (condition thenBranch elseBranch span) :
      Connective (conditional condition thenBranch elseBranch span)

@[simp] theorem span_dual (e : Expr) : e.dual.span = e.span := by
  fun_cases dual e <;> rfl

theorem isParen_dual (e : Expr) : e.dual.isParen = e.isParen := by
  fun_cases dual e with
  | case8 e notParen =>
      cases e with
      | paren inner span => exact (notParen inner span rfl).elim
      | _ => rfl
  | _ => rfl

@[simp] theorem stripParens_dual (e : Expr) : e.dual.stripParens = e.stripParens.dual := by
  fun_induction stripParens e with
  | case1 inner span ih => exact ih
  | case2 e bare =>
      have noParen : e.isParen = false := by
        cases e with
        | paren inner span => exact (bare inner span rfl).elim
        | _ => rfl
      exact stripParens_of_isParen_eq_false ((isParen_dual e).trans noParen)

/-- The dual of a null check asks the opposite of the same operand. -/
theorem nullCheck?_dual (e : Expr) : e.dual.nullCheck? = e.nullCheck?.map NullCheck.negate := by
  fun_induction dual e with
  | case1 inner span ih => exact ih
  | case2 operand span ih => rw [nullCheck?, nullCheck?, ih]
  | case3 left right span | case4 left right span =>
      cases hl : left.isNullLiteral <;> cases hr : right.isNullLiteral <;>
        simp [nullCheck?, hl, hr, NullCheck.negate]
  | _ => rfl

theorem identityCheck?_dual (e : Expr) :
    e.dual.identityCheck? = e.identityCheck?.map IdentityCheck.negate := by
  fun_induction dual e with
  | case1 inner span ih => exact ih
  | case2 operand span ih => rw [identityCheck?, identityCheck?, ih]
  | case3 left right span | case4 left right span =>
      cases hl : left.isNullLiteral <;> cases hr : right.isNullLiteral <;>
        simp [identityCheck?, hl, hr, IdentityCheck.negate]
  | _ => rfl

theorem equalsCall?_dual (e : Expr) : e.dual.equalsCall? = e.equalsCall?.map EqualsCall.negate := by
  fun_induction dual e with
  | case1 inner span ih => exact ih
  | case2 operand span ih => rw [equalsCall?, equalsCall?, ih]
  | _ => rfl

/-- The dual of a guarded call is one of the other polarity, on the same operands. -/
theorem guardedCall?_dual (negated : Bool) (guard equality : Expr) :
    guardedCall? (!negated) guard.dual equality.dual = guardedCall? negated guard equality := by
  rw [guardedCall?, guardedCall?, nullCheck?_dual, equalsCall?_dual]
  cases guard.nullCheck? with
  | none => rfl
  | some check =>
      cases equality.equalsCall? with
      | none => rfl
      | some call => simp [NullCheck.negate, EqualsCall.negate]

theorem identityGuarded?_dual (isSame : Bool) (identity guarded : Expr) :
    identityGuarded? (!isSame) identity.dual guarded.dual =
      identityGuarded? isSame identity guarded := by
  rw [identityGuarded?, identityGuarded?, identityCheck?_dual, stripParens_dual]
  cases identity.identityCheck? with
  | none => rfl
  | some check =>
      simp only [Option.map_some, Option.bind_eq_bind, Option.bind_some, IdentityCheck.negate,
        Bool.not_inj_iff]
      congr 1
      fun_cases dual guarded.stripParens with
      | case5 left right span =>
          have same : guardedCall? true left.dual right.dual = guardedCall? false left right :=
            guardedCall?_dual false left right
          cases isSame <;> simp only [Bool.not_true, Bool.not_false, same]
      | case6 left right span =>
          have same : guardedCall? false left.dual right.dual = guardedCall? true left right :=
            guardedCall?_dual true left right
          cases isSame <;> simp only [Bool.not_true, Bool.not_false, same]
      | case8 =>
          -- Neither a conjunction nor a disjunction stands on either side.
          cases isSame <;> split <;> simp_all
      | _ => cases isSame <;> rfl

theorem ternary?_dual (condition thenBranch elseBranch : Expr) :
    ternary? condition thenBranch.dual elseBranch.dual =
      (ternary? condition thenBranch elseBranch).map (Prod.map id Polarity.opposite) := by
  rw [ternary?, ternary?]
  cases condition.nullCheck? with
  | none => rfl
  | some check =>
      simp only [Option.bind_eq_bind, Option.bind_some, ← apply_ite dual, equalsCall?_dual,
        nullCheck?_dual]
      cases (if check.isNull then elseBranch else thenBranch).equalsCall? with
      | none => rfl
      | some call =>
          cases (if check.isNull then thenBranch else elseBranch).nullCheck? with
          | none => rfl
          | some right =>
              have opposite : ((!right.isNull) ≠ !call.negated) = (right.isNull ≠ call.negated) := by
                rw [Ne, Ne, Bool.not_inj_iff]
              simp only [Option.map_some, Option.bind_some, EqualsCall.negate, NullCheck.negate,
                opposite, apply_ite (Option.map _), Option.map_none, Prod.map_apply, id,
                Polarity.opposite_ofNegated]

/-- The dual of a connective has the dual form. -/
theorem form?_dual (config : InspectionConfig) {e : Expr} (h : e.Connective) :
    form? config e.dual = (form? config e).map fun (o, p, s) => (o, p.opposite, s.dual) := by
  cases h with
  | and left right span =>
      have guarded := guardedCall?_dual false left right
      have identity := identityGuarded?_dual false left right
      simp only [Bool.not_false] at guarded identity
      simp only [dual, form?, guarded, identity, Option.orElse_eq_orElse, Option.orElse_eq_or,
        Option.map_or, Option.map_map]
      rfl
  | or left right span =>
      have guarded := guardedCall?_dual true left right
      have identity := identityGuarded?_dual true left right
      simp only [Bool.not_true] at guarded identity
      simp only [dual, form?, guarded, identity, Option.orElse_eq_orElse, Option.orElse_eq_or,
        Option.map_or, Option.map_map]
      rfl
  | conditional condition thenBranch elseBranch span =>
      simp only [dual, form?, ternary?_dual, Option.map_map]
      rfl

/-- The dual of a conjunction, a disjunction or a conditional is recognised exactly if the expression
is, with the same operands, the opposite polarity and the dual shape. -/
theorem recognize?_dual_of_connective (config : InspectionConfig) {e : Expr} (h : e.stripParens.Connective) :
    recognize? config e.dual = (recognize? config e).map EqualsMatch.dual := by
  rw [recognize?, recognize?, stripParens_dual, form?_dual config h]
  cases form? config e.stripParens with
  | none => rfl
  | some found =>
      obtain ⟨operands, polarity, shape⟩ := found
      simp only [Option.map_some, Option.bind_eq_bind, Option.bind_some,
        apply_ite (Option.map EqualsMatch.dual), Option.map_none, EqualsMatch.dual, span_dual]

/-- The test `(!(a != b) || !(b == null) && b.equals(a))`. -/
def negatedParts : Expr :=
  paren
    (binary .or (unary .not (paren (binary .ne (name "a" {}) (name "b" {}) {}) {}) {})
      (binary .and (unary .not (paren (binary .eq (name "b" {}) (literal .null "null" {}) {}) {}) {})
        (call (some (name "b" {})) none "equals" [name "a" {}] {}) {}) {}) {}

/-- The dual is `(!(a == b) && (!(b != null) || !b.equals(a)))`. -/
theorem negatedParts_dual_recognized :
    negatedParts.stripParens.Connective ∧
      recognize? {} negatedParts = some
        { left := name "b" {}, right := name "a" {}, polarity := .equals
          shape := .identityGuarded, span := {} } ∧
      negatedParts.dual =
        paren
          (binary .and (unary .not (paren (binary .eq (name "a" {}) (name "b" {}) {}) {}) {})
            (binary .or
              (unary .not (paren (binary .ne (name "b" {}) (literal .null "null" {}) {}) {}) {})
              (unary .not (call (some (name "b" {})) none "equals" [name "a" {}] {}) {}) {}) {}) {} ∧
      recognize? {} negatedParts.dual = some
        { left := name "b" {}, right := name "a" {}, polarity := .notEquals
          shape := .negatedIdentityGuarded, span := {} } := by
  have connective : negatedParts.stripParens.Connective := .or _ _ _
  have recognized : recognize? {} negatedParts = some
      { left := name "b" {}, right := name "a" {}, polarity := .equals
        shape := .identityGuarded, span := {} } := rfl
  have exchanged := recognize?_dual_of_connective {} connective
  rw [recognized] at exchanged
  exact ⟨connective, recognized, rfl, exchanged⟩

end Expr
end NullSafeEquality
