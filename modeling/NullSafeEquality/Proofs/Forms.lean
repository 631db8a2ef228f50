import NullSafeEquality.Equality.Match
import NullSafeEquality.Proofs.Nodes

/-!
The grammar of recognised forms. The three parts of a test are relations between an expression and
what it asks, closed under parentheses and negations; a form puts parts together on operands that
are the same at each place. The recogniser accepts what the grammar derives and nothing else, so
facts about matches go by cases on derivations and not by opening the matcher.
-/

namespace NullSafeEquality
namespace Expr

/-- The null literal, in any number of parentheses. -/
def IsNull (e : Expr) : Prop := ∃ text span, e.stripParens = literal .null text span

/-- Receivers that always are objects. -/
inductive NeverNull : Expr → Prop where
  | self (qualifier span) : NeverNull (self qualifier span)
  | super (qualifier span) : NeverNull (super qualifier span)
  | literal (kind text span) : NeverNull (literal kind text span)
  | new (className args span) : NeverNull (new className args span)

/-- The operators that compare references, and whether they ask for the same one. -/
inductive Compares : BinaryOp → Bool → Prop where
  | eq : Compares .eq true
  | ne : Compares .ne false

/-- The expression asks whether the operand is null, or whether it is not. -/
inductive NullTest : Expr → Expr → Bool → Prop where
  | paren {e x b} (span) : NullTest e x b → NullTest (paren e span) x b
  | not {e x b} (span) : NullTest e x b → NullTest (unary .not e span) x !b
  | nullRight {op x y b} (span) : Compares op b → ¬ x.IsNull → y.IsNull →
      NullTest (binary op x y span) x.stripParens b
  | nullLeft {op x y b} (span) : Compares op b → x.IsNull → ¬ y.IsNull →
      NullTest (binary op x y span) y.stripParens b

/-- The expression asks whether two operands, neither of them the null literal, are one object, or
whether they are not. -/
inductive IdentityTest : Expr → Expr → Expr → Bool → Prop where
  | paren {e x y b} (span) : IdentityTest e x y b → IdentityTest (paren e span) x y b
  | not {e x y b} (span) : IdentityTest e x y b → IdentityTest (unary .not e span) x y !b
  | compare {op x y b} (span) : Compares op b → ¬ x.IsNull → ¬ y.IsNull →
      IdentityTest (binary op x y span) x.stripParens y.stripParens b

/-- The expression calls the equality method of the left operand on the right one, an odd number of
negations before it or an even one. -/
inductive EqualsTest : Expr → Expr → Expr → Bool → Prop where
  | paren {e l r b} (span) : EqualsTest e l r b → EqualsTest (paren e span) l r b
  | not {e l r b} (span) : EqualsTest e l r b → EqualsTest (unary .not e span) l r !b
  | call {receiver} (typeArgs argument span) : ¬ receiver.stripParens.NeverNull →
      EqualsTest (call (some receiver) typeArgs "equals" [argument] span)
        receiver.stripParens argument.stripParens false

/-- A null test beside an equality call on the tested operand: for non-null beside the call, or for
null beside its negation. -/
def GuardedTest (negated : Bool) (guard call l r : Expr) : Prop :=
  ∃ x, NullTest guard x negated ∧ EqualsTest call l r negated ∧ x.sameOperand l = true

/-- Two pairs of the same operands, in either order. -/
def SamePair (a b l r : Expr) : Prop :=
  (a.sameOperand l = true ∧ b.sameOperand r = true) ∨
  (a.sameOperand r = true ∧ b.sameOperand l = true)

/-- The branches of a conditional on a null test, the one for null first. -/
def branches (isNull : Bool) (thenBranch elseBranch : Expr) : Expr × Expr :=
  if isNull then (thenBranch, elseBranch) else (elseBranch, thenBranch)

/-- An expression without outer parentheses, its operands, its polarity and its shape. -/
inductive Form (config : InspectionConfig) : Expr → Expr → Expr → Polarity → Shape → Prop where
  | unguarded {receiver typeArgs method args span l r} :
      config.ignoreNullCheck = true →
      EqualsTest (call receiver typeArgs method args span) l r false →
      Form config (call receiver typeArgs method args span) l r .equals .unguarded
  | nullGuarded {guard call l r} (span) : GuardedTest false guard call l r →
      Form config (binary .and guard call span) l r .equals .nullGuarded
  | negatedNullGuarded {guard call l r} (span) : GuardedTest true guard call l r →
      Form config (binary .or guard call span) l r .notEquals .negatedNullGuarded
  | identityGuarded {identity guarded guard call inner a b l r} (span) :
      IdentityTest identity a b true → guarded.stripParens = binary .and guard call inner →
      GuardedTest false guard call l r → SamePair a b l r →
      Form config (binary .or identity guarded span) l r .equals .identityGuarded
  | negatedIdentityGuarded {identity guarded guard call inner a b l r} (span) :
      IdentityTest identity a b false → guarded.stripParens = binary .or guard call inner →
      GuardedTest true guard call l r → SamePair a b l r →
      Form config (binary .and identity guarded span) l r .notEquals .negatedIdentityGuarded
  | ternary {condition t f x y l r isNull negated} (span) :
      NullTest condition x isNull → NullTest (branches isNull t f).1 y !negated →
      EqualsTest (branches isNull t f).2 l r negated →
      x.sameOperand l = true → y.sameOperand r = true →
      Form config (conditional condition t f span) l r (Polarity.ofNegated negated) .ternary

theorem isNullLiteral_iff (e : Expr) : e.isNullLiteral = true ↔ e.IsNull := by
  fun_induction isNullLiteral e with
  | case1 inner span ih => simpa only [IsNull, stripParens] using ih
  | case2 text span => simp [IsNull, stripParens]
  | case3 e bare other =>
      have plain : e.stripParens = e := by
        cases e with
        | paren inner span => exact (bare inner span rfl).elim
        | _ => rfl
      simp only [IsNull, plain, Bool.false_eq_true, false_iff]
      rintro ⟨text, span, rfl⟩
      exact other text span rfl

theorem isNullLiteral_eq_false_iff (e : Expr) : e.isNullLiteral = false ↔ ¬ e.IsNull := by
  rw [← isNullLiteral_iff, Bool.not_eq_true]

theorem mayBeNull_iff (e : Expr) : e.mayBeNull = true ↔ ¬ e.NeverNull := by
  constructor
  · rintro may ⟨⟩ <;> cases may
  · intro notNever
    cases e with
    | literal _ _ _ | self _ _ | super _ _ | new _ _ _ => exact (notNever (by constructor)).elim
    | _ => rfl

theorem compares_iff (op : BinaryOp) (b : Bool) :
    Compares op b ↔ (op = .eq ∨ op = .ne) ∧ decide (op = .eq) = b := by
  constructor
  · rintro ⟨⟩ <;> simp
  · rintro ⟨rfl | rfl, rfl⟩
    · exact .eq
    · exact .ne

theorem nullTest_of_nullCheck? {e : Expr} {check : NullCheck} (h : e.nullCheck? = some check) :
    NullTest e check.operand check.isNull := by
  fun_induction nullCheck? e generalizing check with
  | case1 inner span ih => exact .paren span (ih h)
  | case2 operand span ih =>
      obtain ⟨below, found, rfl⟩ := Option.map_eq_some_iff.mp h
      exact .not span (ih found)
  | case3 op l r span compares hr hl =>
      cases h
      exact .nullRight span ((compares_iff op _).mpr ⟨compares, rfl⟩)
        ((isNullLiteral_eq_false_iff l).mp hl) ((isNullLiteral_iff r).mp hr)
  | case4 op l r span compares hr hl =>
      cases h
      exact .nullLeft span ((compares_iff op _).mpr ⟨compares, rfl⟩)
        ((isNullLiteral_iff l).mp hl) ((isNullLiteral_eq_false_iff r).mp hr)
  | _ => cases h

theorem nullCheck?_of_nullTest {e x : Expr} {b : Bool} (h : NullTest e x b) :
    e.nullCheck? = some ⟨x, b⟩ := by
  induction h with
  | paren span _ ih => exact ih
  | not span _ ih => simp [nullCheck?, ih, NullCheck.negate]
  | nullRight span compares hx hy =>
      obtain ⟨op, rfl⟩ := (compares_iff _ _).mp compares
      simp only [nullCheck?, op, (isNullLiteral_eq_false_iff _).mpr hx,
        (isNullLiteral_iff _).mpr hy, if_true]
  | nullLeft span compares hx hy =>
      obtain ⟨op, rfl⟩ := (compares_iff _ _).mp compares
      simp only [nullCheck?, op, (isNullLiteral_iff _).mpr hx,
        (isNullLiteral_eq_false_iff _).mpr hy, if_true]

theorem nullCheck?_eq_some_iff (e : Expr) (check : NullCheck) :
    e.nullCheck? = some check ↔ NullTest e check.operand check.isNull :=
  ⟨nullTest_of_nullCheck?, nullCheck?_of_nullTest⟩

theorem identityTest_of_identityCheck? {e : Expr} {check : IdentityCheck}
    (h : e.identityCheck? = some check) :
    IdentityTest e check.left check.right check.isSame := by
  fun_induction identityCheck? e generalizing check with
  | case1 inner span ih => exact .paren span (ih h)
  | case2 operand span ih =>
      obtain ⟨below, found, rfl⟩ := Option.map_eq_some_iff.mp h
      exact .not span (ih found)
  | case3 op l r span holds =>
      cases h
      obtain ⟨compares, hl, hr⟩ := holds
      exact .compare span ((compares_iff op _).mpr ⟨compares, rfl⟩)
        ((isNullLiteral_eq_false_iff l).mp (by simpa using hl))
        ((isNullLiteral_eq_false_iff r).mp (by simpa using hr))
  | _ => cases h

theorem identityCheck?_of_identityTest {e x y : Expr} {b : Bool} (h : IdentityTest e x y b) :
    e.identityCheck? = some ⟨x, y, b⟩ := by
  induction h with
  | paren span _ ih => exact ih
  | not span _ ih => simp [identityCheck?, ih, IdentityCheck.negate]
  | compare span compares hx hy =>
      obtain ⟨op, rfl⟩ := (compares_iff _ _).mp compares
      simp [identityCheck?, op, (isNullLiteral_eq_false_iff _).mpr hx,
        (isNullLiteral_eq_false_iff _).mpr hy]

theorem identityCheck?_eq_some_iff (e : Expr) (check : IdentityCheck) :
    e.identityCheck? = some check ↔ IdentityTest e check.left check.right check.isSame :=
  ⟨identityTest_of_identityCheck?, identityCheck?_of_identityTest⟩

theorem equalsTest_of_equalsCall? {e : Expr} {found : EqualsCall}
    (h : e.equalsCall? = some found) :
    EqualsTest e found.receiver found.argument found.negated := by
  fun_induction equalsCall? e generalizing found with
  | case1 inner span ih => exact .paren span (ih h)
  | case2 operand span ih =>
      obtain ⟨below, hbelow, rfl⟩ := Option.map_eq_some_iff.mp h
      exact .not span (ih hbelow)
  | case3 receiver typeArgs method argument span holds =>
      cases h
      obtain ⟨rfl, may⟩ := holds
      exact .call typeArgs argument span ((mayBeNull_iff _).mp may)
  | _ => cases h

theorem equalsCall?_of_equalsTest {e l r : Expr} {b : Bool} (h : EqualsTest e l r b) :
    e.equalsCall? = some ⟨l, r, b⟩ := by
  induction h with
  | paren span _ ih => exact ih
  | not span _ ih => simp [equalsCall?, ih, EqualsCall.negate]
  | call typeArgs argument span may => simp [equalsCall?, (mayBeNull_iff _).mpr may]

theorem equalsCall?_eq_some_iff (e : Expr) (found : EqualsCall) :
    e.equalsCall? = some found ↔ EqualsTest e found.receiver found.argument found.negated :=
  ⟨equalsTest_of_equalsCall?, equalsCall?_of_equalsTest⟩

theorem samePair_keys {a b l r : Expr} (h : SamePair a b l r) :
    (∃ key, l.key? = some key) ∧ ∃ key, r.key? = some key := by
  simp only [SamePair, sameOperand_iff] at h
  rcases h with ⟨⟨k, _, hk⟩, k', _, hk'⟩ | ⟨⟨k, _, hk⟩, k', _, hk'⟩
  · exact ⟨⟨k, hk⟩, k', hk'⟩
  · exact ⟨⟨k', hk'⟩, k, hk⟩

end Expr
end NullSafeEquality
