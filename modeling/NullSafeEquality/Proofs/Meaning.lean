import NullSafeEquality.Proofs.Evaluation
import NullSafeEquality.Proofs.Recognition

/-!
What the forms mean. Each part of a form evaluates its operands once and answers by one comparison,
whatever parentheses and negations stand around it. Operands that occur twice have keys, so that
reading them again gives the same reference and the order of readings does not show.
-/

namespace NullSafeEquality
namespace Valuation

open NullSafeEquality.Expr

variable {Object Store : Type} [DecidableEq Object] (V : Valuation Object Store)

theorem test_compare {op : BinaryOp} {b : Bool} (h : Compares op b) (x y : Expr) (span : Span) :
    V.test (.binary op x y span) =
      (do let a ← V.operand x; let c ← V.operand y; return decide (a = c) == b) := by
  cases h <;> simp [test]

theorem test_of_nullTest {e x : Expr} {b : Bool} (h : NullTest e x b) (written : e.NullAsWritten) :
    V.test e = (do let a ← V.operand x; return decide (a = .null) == b) := by
  induction h with
  | paren span _ ih =>
      exact ih (nullAsWritten_of_mem_children written (List.mem_singleton.mpr rfl))
  | @not e x b span _ ih =>
      have below := ih (nullAsWritten_of_mem_children written (List.mem_singleton.mpr rfl))
      cases b <;> simp [test, below]
  | @nullRight op x y b span compares _ hy =>
      have hn := V.operand_of_isNull hy
        (nullAsWritten_of_mem_children written (by simp [children]))
      simp only [V.test_compare compares, hn, operand_stripParens, pure_bind]
  | @nullLeft op x y b span compares hx _ =>
      have hn := V.operand_of_isNull hx
        (nullAsWritten_of_mem_children written (by simp [children]))
      simp only [V.test_compare compares, hn, operand_stripParens, pure_bind, eq_comm]

theorem test_of_identityTest {e x y : Expr} {b : Bool} (h : IdentityTest e x y b) :
    V.test e =
      (do let a ← V.operand x; let c ← V.operand y; return decide (a = c) == b) := by
  induction h with
  | paren span _ ih => exact ih
  | @not e x y b span _ ih => cases b <;> simp [test, ih]
  | compare span compares _ _ => simp only [V.test_compare compares, operand_stripParens]

theorem test_of_equalsTest {e l r : Expr} {b : Bool} (h : EqualsTest e l r b) :
    V.test e = (do
      let a ← V.operand l
      let c ← V.operand r
      return (← V.invoke a c) ^^ b) := by
  induction h with
  | paren span _ ih => exact ih
  | not span _ ih => simp [test, ih]
  | call typeArgs argument span _ => simp [test]

omit [DecidableEq Object] in
theorem run_reading_bind {α : Type} (key : OperandKey)
    (next : Reference Object → Evaluation Store α) (store : Store) :
    (V.reading key >>= next).run store =
      match V.read key store with
      | some a => (next a).run store
      | none => .error .failure := by
  change (V.reading key store >>= fun (a, s) => (next a).run s) = _
  cases h : V.read key store <;> simp only [reading, h] <;> rfl

/-- The guard decides for null; for an object the call is made, on a receiver read again. -/
theorem test_of_guardedTest {negated : Bool} {guard call l r : Expr}
    (h : GuardedTest negated guard call l r) (written : guard.NullAsWritten) (span : Span) :
    V.test (.binary (if negated then .or else .and) guard call span) = (do
      let a ← V.operand l
      if a = .null then return negated
      else return (← V.invoke a (← V.operand r)) ^^ negated) := by
  obtain ⟨x, test, equal, same⟩ := h
  obtain ⟨key, -, hl⟩ := (sameOperand_iff x l).mp same
  have hguard := V.test_of_nullTest test written
  have hcall := V.test_of_equalsTest equal
  rw [V.operand_eq_of_sameOperand same] at hguard
  rw [V.operand_of_key? hl] at hguard hcall ⊢
  apply StateT.ext
  intro store
  cases hread : V.read key store with
  | none =>
      cases negated <;>
        simp [Valuation.test, hguard, run_reading_bind, hread, -StateT.run_bind]
  | some a =>
      cases negated <;> cases a <;>
        simp [Valuation.test, hguard, hcall, run_reading_bind, hread, -StateT.run_bind]

/-- Either order of an identity test compares the two operands, since reading them is no effect. -/
theorem test_of_samePair {e a b l r : Expr} {isSame : Bool} (h : IdentityTest e a b isSame)
    (pair : SamePair a b l r) :
    V.test e = (do
      let x ← V.operand l
      let y ← V.operand r
      return decide (x = y) == isSame) := by
  rw [V.test_of_identityTest h]
  rcases pair with ⟨left, right⟩ | ⟨left, right⟩
  · rw [V.operand_eq_of_sameOperand left, V.operand_eq_of_sameOperand right]
  · obtain ⟨keyRight, -, hr⟩ := (sameOperand_iff a r).mp left
    obtain ⟨keyLeft, -, hl⟩ := (sameOperand_iff b l).mp right
    rw [V.operand_eq_of_sameOperand left, V.operand_eq_of_sameOperand right,
      V.operand_of_key? hl, V.operand_of_key? hr]
    apply StateT.ext
    intro store
    simp only [run_reading_bind]
    cases V.read keyLeft store <;> cases V.read keyRight store <;> simp [eq_comm]

theorem test_of_identityGuarded {isSame : Bool} {identity guarded guard call a b l r : Expr}
    {inner : Span} (identityTest : IdentityTest identity a b isSame)
    (shape : guarded.stripParens = .binary (if isSame then .and else .or) guard call inner)
    (guardedTest : GuardedTest (!isSame) guard call l r) (pair : SamePair a b l r)
    (written : guard.NullAsWritten) (span : Span) :
    V.test (.binary (if isSame then .or else .and) identity guarded span) =
      V.nullSafeCall (.ofNegated !isSame) l r := by
  obtain ⟨⟨keyLeft, hl⟩, keyRight, hr⟩ := samePair_keys pair
  have hidentity : V.test (.binary (if isSame then .or else .and) identity guarded span) = (do
      let x ← V.operand l
      let y ← V.operand r
      if x = y then return isSame else V.test guarded) := by
    cases isSame <;> simp [Valuation.test, V.test_of_samePair identityTest pair]
  have hguarded := V.test_of_guardedTest guardedTest written inner
  have joined : (if (!isSame) = true then BinaryOp.or else .and) =
      if isSame then .and else .or := by
    cases isSame <;> rfl
  rw [joined, ← shape, test_stripParens] at hguarded
  rw [hidentity, hguarded, nullSafeCall, V.operand_of_key? hl, V.operand_of_key? hr]
  apply StateT.ext
  intro store
  cases hx : V.read keyLeft store with
  | none => simp only [run_reading_bind, hx]
  | some x =>
      cases hy : V.read keyRight store with
      | none => simp only [run_reading_bind, hx, hy]
      | some y =>
          simp only [run_reading_bind, hx, hy, Polarity.answer_ofNegated]
          by_cases same : x = y
          · subst same
            simp
          · cases x with
            | null => simp [run_reading_bind, hx, same, Ne.symm same, -StateT.run_bind]
            | object o => simp [run_reading_bind, hx, hy, same, -StateT.run_bind, -bind_pure_comp]

theorem test_of_ternary {condition t f x y l r : Expr} {isNull negated : Bool}
    (conditionTest : NullTest condition x isNull)
    (nullTest : NullTest (branches isNull t f).1 y !negated)
    (equalsTest : EqualsTest (branches isNull t f).2 l r negated)
    (left : x.sameOperand l = true) (right : y.sameOperand r = true)
    (written : condition.NullAsWritten) (writtenBranch : (branches isNull t f).1.NullAsWritten)
    (span : Span) :
    V.test (.conditional condition t f span) = V.nullSafeCall (.ofNegated negated) l r := by
  obtain ⟨keyLeft, -, hl⟩ := (sameOperand_iff x l).mp left
  obtain ⟨keyRight, -, hr⟩ := (sameOperand_iff y r).mp right
  have hcondition : V.test (.conditional condition t f span) = (do
      let a ← V.operand l
      if a = .null then V.test (branches isNull t f).1 else V.test (branches isNull t f).2) := by
    have h := V.test_of_nullTest conditionTest written
    rw [V.operand_eq_of_sameOperand left] at h
    cases isNull <;> simp [Valuation.test, branches, h]
  have hnull := V.test_of_nullTest nullTest writtenBranch
  have hequals := V.test_of_equalsTest equalsTest
  rw [V.operand_eq_of_sameOperand right] at hnull
  rw [hcondition, hnull, hequals, nullSafeCall, V.operand_of_key? hl, V.operand_of_key? hr]
  apply StateT.ext
  intro store
  cases hx : V.read keyLeft store with
  | none => simp only [run_reading_bind, hx]
  | some x =>
      cases hy : V.read keyRight store with
      | none => cases x <;> simp [run_reading_bind, hx, hy, -StateT.run_bind, -bind_pure_comp]
      | some y =>
          cases x <;>
            simp [run_reading_bind, hx, hy, Polarity.answer_ofNegated, -StateT.run_bind,
              -bind_pure_comp]
          cases y <;> simp

theorem test_of_exactForm {config : InspectionConfig} {e l r : Expr} {p : Polarity} {s : Shape}
    (h : Form config e l r p s) (written : e.NullAsWritten)
    (exact : s ∈ [Shape.identityGuarded, .negatedIdentityGuarded, .ternary]) :
    V.test e = V.nullSafeCall p l r ∧
      (∃ key, l.key? = some key) ∧ ∃ key, r.key? = some key := by
  cases h with
  | unguarded _ _ | nullGuarded _ _ | negatedNullGuarded _ _ => simp at exact
  | identityGuarded span test shape guarded pair
  | negatedIdentityGuarded span test shape guarded pair =>
      have writtenGuarded := nullAsWritten_stripParens
        (nullAsWritten_of_mem_children written (List.mem_cons_of_mem _ List.mem_cons_self))
      rw [shape] at writtenGuarded
      refine ⟨?_, samePair_keys pair⟩
      exact V.test_of_identityGuarded test shape guarded pair
        (nullAsWritten_of_mem_children writtenGuarded List.mem_cons_self) span
  | @ternary condition t f x y _ _ isNull negated span test nulls equal left right =>
      obtain ⟨keyLeft, -, hl⟩ := (sameOperand_iff x l).mp left
      obtain ⟨keyRight, -, hr⟩ := (sameOperand_iff y r).mp right
      refine ⟨?_, ⟨keyLeft, hl⟩, keyRight, hr⟩
      apply V.test_of_ternary test nulls equal left right
      · exact nullAsWritten_of_mem_children written List.mem_cons_self
      · apply nullAsWritten_of_mem_children written
        cases isNull <;> simp [branches, children]

omit [DecidableEq Object] in
theorem run_bind_of_ok {α β : Type} {x : Evaluation Store α} {next : α → Evaluation Store β}
    {store after : Store} {a : α} (h : x.run store = .ok (a, after)) :
    (x >>= next).run store = (next a).run after := by
  rw [StateT.run_bind, h]
  rfl

/-- Of two operands with keys the call fails exactly if one of them does, and never on null. -/
theorem nullSafeCall_stops {l r : Expr} {keyLeft keyRight : OperandKey} (hl : l.key? = some keyLeft)
    (hr : r.key? = some keyRight) (p : Polarity) (store : Store) :
    ((V.nullSafeCall p l r).run store = .error .failure ↔
      (V.operand l).run store = .error .failure ∨ (V.operand r).run store = .error .failure) ∧
    (V.nullSafeCall p l r).run store ≠ .error .nullDereference := by
  have failing (key : OperandKey) :
      (V.reading key).run store = .error .failure ↔ V.read key store = none := by
    change V.reading key store = _ ↔ _
    cases h : V.read key store <;> simp [reading, h]
  rw [V.operand_of_key? hl, V.operand_of_key? hr, failing, failing]
  have answered (answer : Bool) :
      (pure answer : Evaluation Store Bool).run store = .ok (answer, store) := rfl
  simp only [nullSafeCall, V.operand_of_key? hl, V.operand_of_key? hr, run_reading_bind, answered]
  cases V.read keyLeft store <;> cases V.read keyRight store <;> simp

/-- Beside a null guard the call is not made for null, so that two nulls come out as different. -/
theorem run_of_guardedTest {negated : Bool} {guard call left right : Expr}
    {store between after : Store} {l r : Reference Object} (h : GuardedTest negated guard call left right)
    (written : guard.NullAsWritten) (span : Span)
    (hl : (V.operand left).run store = .ok (l, between))
    (hr : (V.operand right).run between = .ok (r, after)) :
    ∃ final, (V.test (.binary (if negated then .or else .and) guard call span)).run store =
      .ok (if l = .null ∧ r = .null then !(V.nullSafe l r ^^ negated)
        else V.nullSafe l r ^^ negated, final) := by
  rw [V.test_of_guardedTest h written span, run_bind_of_ok hl]
  cases l with
  | null =>
      refine ⟨between, ?_⟩
      by_cases hnull : r = .null <;> simp [hnull] <;> rfl
  | object o =>
      refine ⟨after, ?_⟩
      simp only [reduceCtorEq, if_false, false_and]
      rw [run_bind_of_ok hr, invoke_object, pure_bind, nullSafe_object]
      rfl

theorem run_of_guardedForm {config : InspectionConfig} {e left right : Expr} {p : Polarity}
    {s : Shape} {store between after : Store} {l r : Reference Object}
    (h : Form config e left right p s) (written : e.NullAsWritten)
    (guarded : s ∈ [Shape.nullGuarded, .negatedNullGuarded])
    (hl : (V.operand left).run store = .ok (l, between))
    (hr : (V.operand right).run between = .ok (r, after)) :
    ∃ final, (V.test e).run store = .ok (if l = .null ∧ r = .null
      then !p.answer (V.nullSafe l r) else p.answer (V.nullSafe l r), final) := by
  cases h with
  | nullGuarded span test =>
      have writtenGuard := nullAsWritten_of_mem_children written List.mem_cons_self
      simpa [Polarity.answer] using V.run_of_guardedTest test writtenGuard span hl hr
  | negatedNullGuarded span test =>
      have writtenGuard := nullAsWritten_of_mem_children written List.mem_cons_self
      simpa [Polarity.answer] using V.run_of_guardedTest test writtenGuard span hl hr
  | _ => simp at guarded

theorem test_of_unguardedForm {config : InspectionConfig} {e l r : Expr} {p : Polarity}
    (h : Form config e l r p .unguarded) :
    p = .equals ∧ V.test e = (do let a ← V.operand l; let c ← V.operand r; V.invoke a c) := by
  cases h with
  | unguarded _ test => exact ⟨rfl, by simpa using V.test_of_equalsTest test⟩

end Valuation
end NullSafeEquality
