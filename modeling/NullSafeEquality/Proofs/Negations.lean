import NullSafeEquality.Proofs.Recognition

/-!
Parts of tests under negations. The three readers go through negations and parentheses alike and
differ only in what they read at the bottom, so one induction counts the negations for all of them.
No expression is read by two of them. The two ways to read a conjunction or a disjunction therefore
never compete, and it does not matter which is tried first.
-/

namespace NullSafeEquality
namespace Expr

/-- An expression under so many negations, with any number of parentheses around each. -/
inductive Negated (base : Expr) : Nat → Expr → Prop where
  | base : Negated base 0 base
  | paren {n e} (span) : Negated base n e → Negated base n (paren e span)
  | not {n e} (span) : Negated base n e → Negated base (n + 1) (unary .not e span)

/-- At most one of the three readers gives something. -/
def ReadOneWay (e : Expr) : Prop :=
  (e.nullCheck? = none ∨ e.identityCheck? = none) ∧
  (e.nullCheck? = none ∨ e.equalsCall? = none) ∧
  (e.identityCheck? = none ∨ e.equalsCall? = none)

/-- The form of an expression, an identity check looked for before a null check. -/
def formIdentityFirst? (config : InspectionConfig) : Expr → Option (Operands × Polarity × Shape)
  | binary .and left right _ =>
      ((identityGuarded? false left right).map fun o => (o, .notEquals, .negatedIdentityGuarded)) <|>
      ((guardedCall? false left right).map fun o => (o, .equals, .nullGuarded))
  | binary .or left right _ =>
      ((identityGuarded? true left right).map fun o => (o, .equals, .identityGuarded)) <|>
      ((guardedCall? true left right).map fun o => (o, .notEquals, .negatedNullGuarded))
  | e => form? config e

/-- Recognise an equality test by some reader of forms. -/
def recognizeBy? (read : Expr → Option (Operands × Polarity × Shape)) (e : Expr) :
    Option EqualsMatch := do
  let (operands, polarity, shape) ← read e.stripParens
  if operands.left.containsUnknown || operands.right.containsUnknown then none
  else some ⟨operands.left, operands.right, polarity, shape, e.span⟩

variable {base e : Expr} {n : Nat}

theorem recognize?_eq_recognizeBy? (config : InspectionConfig) :
    recognize? config = recognizeBy? (form? config) :=
  rfl

/-- A reader that goes through parentheses and negations counts the negations by their parity. -/
theorem read_of_negated {α : Type} {read : Expr → Option α} {negate : α → α}
    (paren : ∀ e span, read (paren e span) = read e)
    (not : ∀ e span, read (unary .not e span) = (read e).map negate)
    (twice : ∀ a, negate (negate a) = a) (h : Negated base n e) :
    read e = (read base).map fun a => if n % 2 = 1 then negate a else a := by
  induction h with
  | base => simp
  | paren span _ ih => rw [paren, ih]
  | @not n e span _ ih =>
      rw [not, ih, Option.map_map]
      congr 1
      funext a
      by_cases odd : n % 2 = 1
      · have even : ¬ (n + 1) % 2 = 1 := by omega
        rw [if_neg even, Function.comp_apply, if_pos odd, twice]
      · have next : (n + 1) % 2 = 1 := by omega
        rw [if_pos next, Function.comp_apply, if_neg odd]

theorem nullCheck?_of_negated (h : Negated base n e) :
    e.nullCheck? = base.nullCheck?.map fun c => if n % 2 = 1 then c.negate else c := by
  refine read_of_negated (fun _ _ => ?_) (fun _ _ => ?_) (fun c => ?_) h
  · rw [nullCheck?]
  · rw [nullCheck?]
  · simp [NullCheck.negate]

theorem identityCheck?_of_negated (h : Negated base n e) :
    e.identityCheck? = base.identityCheck?.map fun c => if n % 2 = 1 then c.negate else c := by
  refine read_of_negated (fun _ _ => ?_) (fun _ _ => ?_) (fun c => ?_) h
  · rw [identityCheck?]
  · rw [identityCheck?]
  · simp [IdentityCheck.negate]

theorem equalsCall?_of_negated (h : Negated base n e) :
    e.equalsCall? = base.equalsCall?.map fun c => if n % 2 = 1 then c.negate else c := by
  refine read_of_negated (fun _ _ => ?_) (fun _ _ => ?_) (fun c => ?_) h
  · rw [equalsCall?]
  · rw [equalsCall?]
  · simp [EqualsCall.negate]

theorem nullCheck?_eq_none_of_equalsTest {l r : Expr} {b : Bool} (h : EqualsTest e l r b) :
    e.nullCheck? = none := by
  induction h with
  | paren span _ ih => exact ih
  | not span _ ih => rw [nullCheck?, ih, Option.map_none]
  | call => rfl

theorem identityCheck?_eq_none_of_equalsTest {l r : Expr} {b : Bool} (h : EqualsTest e l r b) :
    e.identityCheck? = none := by
  induction h with
  | paren span _ ih => exact ih
  | not span _ ih => rw [identityCheck?, ih, Option.map_none]
  | call => rfl

theorem readOneWay (e : Expr) : e.ReadOneWay := by
  cases equality : e.equalsCall? with
  | some found =>
      have test := equalsTest_of_equalsCall? equality
      exact ⟨Or.inl (nullCheck?_eq_none_of_equalsTest test),
        Or.inl (nullCheck?_eq_none_of_equalsTest test),
        Or.inl (identityCheck?_eq_none_of_equalsTest test)⟩
  | none =>
      refine ⟨?_, Or.inr equality, Or.inr equality⟩
      cases identity : e.identityCheck? with
      | none => exact Or.inr rfl
      | some check =>
          exact Or.inl (nullCheck?_eq_none_of_identityTest
            (identityTest_of_identityCheck? identity))

/-- A conjunction or disjunction is read in one way only. -/
theorem guardedCall?_or_identityGuarded?_eq_none (negated isSame : Bool) (left right : Expr) :
    guardedCall? negated left right = none ∨ identityGuarded? isSame left right = none := by
  cases identity : left.identityCheck? with
  | none => exact Or.inr (by simp [identityGuarded?, identity])
  | some check =>
      exact Or.inl (guardedCall?_eq_none_of_identityTest
        (identityTest_of_identityCheck? identity))

theorem orElse_comm_of_eq_none {α : Type} {a b : Option α} (h : a = none ∨ b = none) :
    (a <|> b) = (b <|> a) := by
  cases h with
  | inl h => simp [h]
  | inr h => simp [h]

theorem formIdentityFirst?_eq_form? (config : InspectionConfig) (e : Expr) :
    formIdentityFirst? config e = form? config e := by
  fun_cases formIdentityFirst? config e with
  | case1 left right span =>
      rw [form?]
      refine orElse_comm_of_eq_none ?_
      have one := guardedCall?_or_identityGuarded?_eq_none false false left right
      exact one.symm.imp (congrArg _) (congrArg _)
  | case2 left right span =>
      rw [form?]
      refine orElse_comm_of_eq_none ?_
      have one := guardedCall?_or_identityGuarded?_eq_none true true left right
      exact one.symm.imp (congrArg _) (congrArg _)
  | case3 => rfl

/-- Each expression is read by one reader at most, each reader counts negations by their parity, and
of the two ways to read a conjunction or a disjunction one at most succeeds, so that recognition does
not depend on which of them is tried first. -/
theorem readers_exclusive_and_count_negations :
    (∀ e : Expr, e.ReadOneWay) ∧
    (∀ n base e, Negated base n e →
      (e.nullCheck? = base.nullCheck?.map fun c =>
        if n % 2 = 1 then { c with isNull := !c.isNull } else c) ∧
      (e.identityCheck? = base.identityCheck?.map fun c =>
        if n % 2 = 1 then { c with isSame := !c.isSame } else c) ∧
      e.equalsCall? = base.equalsCall?.map fun c =>
        if n % 2 = 1 then { c with negated := !c.negated } else c) ∧
    (∀ negated isSame left right,
      guardedCall? negated left right = none ∨ identityGuarded? isSame left right = none) ∧
    ∀ config, recognizeBy? (formIdentityFirst? config) = recognize? config := by
  refine ⟨readOneWay, ?_, guardedCall?_or_identityGuarded?_eq_none, ?_⟩
  · intro n base e h
    exact ⟨nullCheck?_of_negated h, identityCheck?_of_negated h, equalsCall?_of_negated h⟩
  · intro config
    have same : formIdentityFirst? config = form? config :=
      funext (formIdentityFirst?_eq_form? config)
    rw [recognize?_eq_recognizeBy?, same]

/-- The test `a == null`. -/
def testForNull : Expr := binary .eq (name "a" {}) (literal .null "null" {}) {}

/-- The test `!(!!(a == null))`. -/
def thriceNegated : Expr :=
  unary .not (paren (unary .not (unary .not (paren testForNull {}) {}) {}) {}) {}

theorem thriceNegated_asks_for_nonNull :
    Negated testForNull 3 thriceNegated ∧
      thriceNegated.nullCheck? = some { operand := name "a" {}, isNull := false } ∧
      thriceNegated.identityCheck? = none ∧ thriceNegated.equalsCall? = none := by
  have chain : Negated testForNull 3 thriceNegated :=
    .not {} (.paren {} (.not {} (.not {} (.paren {} .base))))
  obtain ⟨check, identity, equality⟩ :=
    readers_exclusive_and_count_negations.2.1 3 testForNull thriceNegated chain
  exact ⟨chain, check, identity, equality⟩

end Expr
end NullSafeEquality
