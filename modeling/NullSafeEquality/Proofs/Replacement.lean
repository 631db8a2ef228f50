import NullSafeEquality.Proofs.Meaning

/-!
Matches against their null-safe replacements. A match with an identity test, or a conditional, is
its replacement for all operands. A null guard without them tells two nulls apart from each other,
and a bare call is not made on null; these are the only deviations.
-/

namespace NullSafeEquality
namespace Valuation

open NullSafeEquality.Expr

variable {Object Store : Type} [DecidableEq Object] (V : Valuation Object Store)

/-- A match with an identity test or a conditional means its replacement, also for null on either
side: the same answer where both operands have a value, a failure exactly where one has none, and
no call on null. -/
theorem exact_match_means_replacement {config : InspectionConfig} {e : Expr} {m : EqualsMatch}
    (h : recognize? config e = some m) (written : e.NullAsWritten)
    (exact : m.shape ∈ [Shape.identityGuarded, .negatedIdentityGuarded, .ternary])
    (store : Store) :
    (V.test e).run store = (V.nullSafeCall m.polarity m.left m.right).run store ∧
      ((V.test e).run store = .error .failure ↔
        (V.operand m.left).run store = .error .failure ∨
          (V.operand m.right).run store = .error .failure) ∧
      (V.test e).run store ≠ .error .nullDereference := by
  have form := form_of_recognize? h
  obtain ⟨same, ⟨keyLeft, hl⟩, keyRight, hr⟩ :=
    V.test_of_exactForm form (nullAsWritten_stripParens written) exact
  rw [test_stripParens] at same
  rw [same]
  exact ⟨rfl, V.nullSafeCall_stops hl hr m.polarity store⟩

/-- Numbers as objects, equal if both are odd or both even. The name `n` is null and any other an
object; what has no key gives null and objects in turn. -/
def parity : Valuation Nat Nat where
  read key _ := match key with
    | .literal text => if text = "null" then some .null else none
    | .name text => some (if text = "n" then .null else .object text.length)
    | _ => none
  run _ count := some (if count % 2 = 0 then .null else .object count, count + 1)
  equals o other := match other with
    | .null => false
    | .object o' => o % 2 == o' % 2
  read_null _ := rfl
  equals_self o := beq_self_eq_true (o % 2)

/-- The test `!((y) == x) && (null == x || !!!x.equals((y)))`. -/
def crossedTest : Expr :=
  binary .and
    (unary .not (paren (binary .eq (paren (name "y" {}) {}) (name "x" {}) {}) {}) {})
    (paren
      (binary .or (binary .eq (literal .null "null" {}) (name "x" {}) {})
        (unary .not (unary .not (unary .not
          (call (some (name "x" {})) none "equals" [paren (name "y" {}) {}] {})
          {}) {}) {}) {}) {}) {}

def crossedMatch : EqualsMatch :=
  ⟨name "x" {}, name "y" {}, .notEquals, .negatedIdentityGuarded, {}⟩

theorem crossedTest_nullAsWritten : crossedTest.NullAsWritten := by
  intro kind text span h
  simp [crossedTest, nodes, nodesOfAll, nodesOfReceiver] at h
  simp [h]

theorem crossedTest_means_replacement :
    recognize? {} crossedTest = some crossedMatch ∧ crossedTest.NullAsWritten ∧
      crossedMatch.shape ∈ [Shape.identityGuarded, .negatedIdentityGuarded, .ternary] ∧
      (parity.test crossedTest).run 0 =
        (parity.nullSafeCall .notEquals (name "x" {}) (name "y" {})).run 0 ∧
      (parity.test crossedTest).run 0 ≠ .error .nullDereference := by
  have recognized : recognize? {} crossedTest = some crossedMatch := rfl
  have exact := parity.exact_match_means_replacement recognized crossedTest_nullAsWritten
    (by decide) 0
  exact ⟨recognized, crossedTest_nullAsWritten, by decide, exact.1, exact.2.2⟩

/-- A match with a null guard alone answers as its replacement does except where both operands are
null, and there it answers the opposite. A bare call agrees wherever its receiver is an object and
is a call on null wherever it is not. -/
theorem guarded_match_differs_on_nulls_only {config : InspectionConfig} {e : Expr} {m : EqualsMatch}
    (h : recognize? config e = some m) (written : e.NullAsWritten)
    {store between after : Store} {l r : Reference Object}
    (hl : (V.operand m.left).run store = .ok (l, between))
    (hr : (V.operand m.right).run between = .ok (r, after)) :
    ∃ equal, (V.nullSafeCall m.polarity m.left m.right).run store = .ok (equal, after) ∧
      (m.shape ∈ [Shape.nullGuarded, .negatedNullGuarded] → ∃ final, (V.test e).run store =
        .ok (if l = .null ∧ r = .null then !equal else equal, final)) ∧
      (m.shape = .unguarded →
        (l ≠ .null → (V.test e).run store = .ok (equal, after)) ∧
        ((V.test e).run store = .error .nullDereference ↔ l = .null)) := by
  have form := form_of_recognize? h
  have writtenInside := nullAsWritten_stripParens written
  rw [← test_stripParens]
  refine ⟨m.polarity.answer (V.nullSafe l r), ?_, ?_, ?_⟩
  · rw [nullSafeCall, run_bind_of_ok hl, run_bind_of_ok hr]
    rfl
  · exact fun guarded => V.run_of_guardedForm form writtenInside guarded hl hr
  · intro unguarded
    rw [unguarded] at form
    obtain ⟨polarity, meaning⟩ := V.test_of_unguardedForm form
    rw [meaning, polarity, run_bind_of_ok hl, run_bind_of_ok hr]
    cases l with
    | null => exact ⟨fun object => (object rfl).elim, fun _ => rfl, fun _ => rfl⟩
    | object o =>
        refine ⟨fun _ => by rw [nullSafe_object]; rfl, fun stopped => ?_, fun null => by cases null⟩
        cases stopped

/-- The test `!(n == null) && n.equals(next())`, where `n` is null and `next()` gives null first. -/
def guardedTest : Expr :=
  binary .and (unary .not (paren (binary .eq (name "n" {}) (literal .null "null" {}) {}) {}) {})
    (call (some (name "n" {})) none "equals" [call none none "next" [] {}] {}) {}

def guardedMatch : EqualsMatch :=
  ⟨name "n" {}, call none none "next" [] {}, .equals, .nullGuarded, {}⟩

theorem guardedTest_nullAsWritten : guardedTest.NullAsWritten := by
  intro kind text span h
  simp [guardedTest, nodes, nodesOfAll, nodesOfReceiver] at h
  simp [h]

theorem guardedTest_differs_on_nulls :
    recognize? {} guardedTest = some guardedMatch ∧ guardedTest.NullAsWritten ∧
      (parity.operand guardedMatch.left).run 0 = .ok (.null, 0) ∧
      (parity.operand guardedMatch.right).run 0 = .ok (.null, 1) ∧
      ∃ equal final, (parity.nullSafeCall .equals guardedMatch.left guardedMatch.right).run 0 =
          .ok (equal, 1) ∧
        (parity.test guardedTest).run 0 = .ok (!equal, final) := by
  have recognized : recognize? {} guardedTest = some guardedMatch := rfl
  have left : (parity.operand guardedMatch.left).run 0 = .ok (.null, 0) := rfl
  have right : (parity.operand guardedMatch.right).run 0 = .ok (.null, 1) := rfl
  obtain ⟨equal, replaced, guarded, -⟩ := parity.guarded_match_differs_on_nulls_only recognized
    guardedTest_nullAsWritten left right
  obtain ⟨final, answered⟩ := guarded (by decide)
  exact ⟨recognized, guardedTest_nullAsWritten, left, right, equal, final, replaced, answered⟩

end Valuation
end NullSafeEquality
