import NullSafeEquality.Proofs.Forms

/-!
Soundness and completeness of the matcher for the grammar of forms. Each helper of the matcher has
one equation with a relation of the grammar; the alternatives that it tries in turn never compete,
because no expression is both a null test and an identity test.
-/

namespace NullSafeEquality
namespace Expr

theorem guardedCall?_eq_some_iff (negated : Bool) (guard call : Expr) (o : Operands) :
    guardedCall? negated guard call = some o ↔ GuardedTest negated guard call o.left o.right := by
  constructor
  · intro h
    obtain ⟨check, hcheck, h⟩ := Option.bind_eq_some_iff.mp h
    obtain ⟨found, hfound, h⟩ := Option.bind_eq_some_iff.mp h
    split at h
    · next agree =>
        cases h
        obtain ⟨rfl, negations, same⟩ := agree
        exact ⟨check.operand, nullTest_of_nullCheck? hcheck,
          negations ▸ equalsTest_of_equalsCall? hfound, same⟩
    · cases h
  · rintro ⟨x, test, equal, same⟩
    simp [guardedCall?, nullCheck?_of_nullTest test, equalsCall?_of_equalsTest equal, same]

theorem samePair_iff (a b l r : Expr) :
    SamePair a b l r ↔
      (a.sameOperand l && b.sameOperand r || a.sameOperand r && b.sameOperand l) = true := by
  simp [SamePair]

theorem bind_ite_eq_some_iff {α : Type} {x : Option α} {p : α → Bool} {a : α} :
    (x.bind fun y => if p y then some y else none) = some a ↔ x = some a ∧ p a = true := by
  cases x with
  | none => simp
  | some y =>
      simp only [Option.bind_some, Option.ite_none_right_eq_some, Option.some.injEq]
      constructor
      · rintro ⟨holds, rfl⟩
        exact ⟨rfl, holds⟩
      · rintro ⟨rfl, holds⟩
        exact ⟨holds, rfl⟩

theorem identityGuarded?_eq_some_iff (isSame : Bool) (identity guarded : Expr) (o : Operands) :
    identityGuarded? isSame identity guarded = some o ↔
      ∃ a b guard call span, IdentityTest identity a b isSame ∧
        guarded.stripParens = binary (if isSame then .and else .or) guard call span ∧
        GuardedTest (!isSame) guard call o.left o.right ∧ SamePair a b o.left o.right := by
  simp only [samePair_iff, ← guardedCall?_eq_some_iff]
  constructor
  · intro h
    obtain ⟨check, hcheck, h⟩ := Option.bind_eq_some_iff.mp h
    obtain ⟨rfl, h⟩ := Option.ite_none_right_eq_some.mp h
    have test := identityTest_of_identityCheck? hcheck
    split at h
    · next guard call span shape same =>
        obtain ⟨inner, pair⟩ := bind_ite_eq_some_iff.mp h
        rw [same] at test ⊢
        exact ⟨_, _, guard, call, span, test, shape, inner, pair⟩
    · next guard call span shape same =>
        obtain ⟨inner, pair⟩ := bind_ite_eq_some_iff.mp h
        rw [same] at test ⊢
        exact ⟨_, _, guard, call, span, test, shape, inner, pair⟩
    · cases h
  · rintro ⟨a, b, guard, call, span, test, shape, inner, pair⟩
    rw [identityGuarded?, identityCheck?_of_identityTest test, shape]
    cases isSame <;>
      simp_all only [Bool.not_true, Bool.not_false, Bool.false_eq_true, if_true, if_false,
        Option.bind_eq_bind, Option.bind_some]

theorem ternary?_eq_some_iff (condition t f : Expr) (o : Operands) (p : Polarity) :
    ternary? condition t f = some (o, p) ↔
      ∃ x y isNull negated, NullTest condition x isNull ∧
        NullTest (branches isNull t f).1 y (!negated) ∧
        EqualsTest (branches isNull t f).2 o.left o.right negated ∧
        x.sameOperand o.left = true ∧ y.sameOperand o.right = true ∧
        p = Polarity.ofNegated negated := by
  constructor
  · intro h
    obtain ⟨check, hcheck, h⟩ := Option.bind_eq_some_iff.mp h
    obtain ⟨found, hfound, h⟩ := Option.bind_eq_some_iff.mp h
    obtain ⟨right, hright, h⟩ := Option.bind_eq_some_iff.mp h
    split at h
    · next agree =>
        cases h
        obtain ⟨left, opposite, same⟩ := agree
        have flags : right.isNull = !found.negated := by
          cases hr : right.isNull <;> cases hn : found.negated <;> simp_all
        refine ⟨check.operand, right.operand, check.isNull, found.negated,
          nullTest_of_nullCheck? hcheck, ?_, ?_, left, same, rfl⟩
        · rw [← flags]
          apply nullTest_of_nullCheck?
          rw [← hright, branches]
          split <;> rfl
        · apply equalsTest_of_equalsCall?
          rw [← hfound, branches]
          split <;> rfl
    · cases h
  · rintro ⟨x, y, isNull, negated, test, nulls, equal, left, right, rfl⟩
    have hnulls := nullCheck?_of_nullTest nulls
    have hequal := equalsCall?_of_equalsTest equal
    cases isNull <;>
      simp only [branches, Bool.false_eq_true, if_true, if_false] at hnulls hequal <;>
      simp [ternary?, nullCheck?_of_nullTest test, hnulls, hequal, left, right]

theorem nullCheck?_eq_none_of_identityTest {e x y : Expr} {b : Bool} (h : IdentityTest e x y b) :
    e.nullCheck? = none := by
  induction h with
  | paren span _ ih => exact ih
  | not span _ ih => simp [nullCheck?, ih]
  | compare span _ hx hy =>
      simp [nullCheck?, (isNullLiteral_eq_false_iff _).mpr hx,
        (isNullLiteral_eq_false_iff _).mpr hy]

theorem guardedCall?_eq_none_of_identityTest {negated : Bool} {guard call x y : Expr} {b : Bool}
    (h : IdentityTest guard x y b) : guardedCall? negated guard call = none := by
  simp [guardedCall?, nullCheck?_eq_none_of_identityTest h]

theorem form_of_form? {config : InspectionConfig} {e : Expr} {o : Operands} {p : Polarity}
    {s : Shape} (h : form? config e = some (o, p, s)) : Form config e o.left o.right p s := by
  fun_cases form? config e with
  | case1 condition t f span =>
      obtain ⟨⟨_, _⟩, found, same⟩ := Option.map_eq_some_iff.mp h
      cases same
      obtain ⟨x, y, isNull, negated, test, nulls, equal, left, right, rfl⟩ :=
        (ternary?_eq_some_iff ..).mp found
      exact .ternary span test nulls equal left right
  | case2 l r span =>
      simp only [form?, Option.orElse_eq_orElse, Option.orElse_eq_or, Option.or_eq_some_iff,
        Option.map_eq_some_iff] at h
      rcases h with ⟨o, found, same⟩ | ⟨_, o, found, same⟩
      · cases same
        exact .nullGuarded span ((guardedCall?_eq_some_iff ..).mp found)
      · cases same
        obtain ⟨a, b, guard, call, inner, test, shape, guarded, pair⟩ :=
          (identityGuarded?_eq_some_iff ..).mp found
        exact .negatedIdentityGuarded span test shape guarded pair
  | case3 l r span =>
      simp only [form?, Option.orElse_eq_orElse, Option.orElse_eq_or, Option.or_eq_some_iff,
        Option.map_eq_some_iff] at h
      rcases h with ⟨o, found, same⟩ | ⟨_, o, found, same⟩
      · cases same
        exact .negatedNullGuarded span ((guardedCall?_eq_some_iff ..).mp found)
      · cases same
        obtain ⟨a, b, guard, call, inner, test, shape, guarded, pair⟩ :=
          (identityGuarded?_eq_some_iff ..).mp found
        exact .identityGuarded span test shape guarded pair
  | case4 receiver typeArgs method args span reported =>
      simp only [form?, reported, if_true, Option.map_eq_some_iff] at h
      obtain ⟨found, hfound, same⟩ := h
      cases same
      have test := equalsTest_of_equalsCall? hfound
      have plain : found.negated = false := by
        cases found
        cases test
        rfl
      exact .unguarded reported (plain ▸ test)
  | case5 receiver typeArgs method args span notReported =>
      simp [form?, notReported] at h
  | case6 => simp_all [form?]

theorem form?_of_form {config : InspectionConfig} {e l r : Expr} {p : Polarity}
    {s : Shape} (h : Form config e l r p s) : form? config e = some (⟨l, r⟩, p, s) := by
  cases h with
  | unguarded reported test =>
      simp [form?, reported, equalsCall?_of_equalsTest test]
  | nullGuarded span test | negatedNullGuarded span test =>
      simp [form?, (guardedCall?_eq_some_iff _ _ _ ⟨l, r⟩).mpr test]
  | identityGuarded span test shape guarded pair =>
      have found := (identityGuarded?_eq_some_iff true _ _ ⟨l, r⟩).mpr
        ⟨_, _, _, _, _, test, shape, guarded, pair⟩
      simp [form?, guardedCall?_eq_none_of_identityTest test, found]
  | negatedIdentityGuarded span test shape guarded pair =>
      have found := (identityGuarded?_eq_some_iff false _ _ ⟨l, r⟩).mpr
        ⟨_, _, _, _, _, test, shape, guarded, pair⟩
      simp [form?, guardedCall?_eq_none_of_identityTest test, found]
  | ternary span test nulls equal left right =>
      have found := (ternary?_eq_some_iff _ _ _ ⟨l, r⟩ _).mpr
        ⟨_, _, _, _, test, nulls, equal, left, right, rfl⟩
      simp [form?, found]

theorem recognize?_eq_some_iff_form? (config : InspectionConfig) (e : Expr) (m : EqualsMatch) :
    recognize? config e = some m ↔
      form? config e.stripParens = some (⟨m.left, m.right⟩, m.polarity, m.shape) ∧
        m.left.containsUnknown = false ∧ m.right.containsUnknown = false ∧ m.span = e.span := by
  constructor
  · intro h
    obtain ⟨⟨o, p, s⟩, found, h⟩ := Option.bind_eq_some_iff.mp h
    obtain ⟨understood, same⟩ := Option.ite_none_left_eq_some.mp h
    cases same
    simp only [Bool.or_eq_true, not_or, Bool.not_eq_true] at understood
    exact ⟨found, understood.1, understood.2, rfl⟩
  · rintro ⟨found, left, right, span⟩
    simp [recognize?, found, left, right, ← span]

theorem form_of_recognize? {config : InspectionConfig} {e : Expr} {m : EqualsMatch}
    (h : recognize? config e = some m) :
    Form config e.stripParens m.left m.right m.polarity m.shape :=
  form_of_form? ((recognize?_eq_some_iff_form? config e m).mp h).1

/-- An expression derives at most one form. -/
theorem form_unique {config : InspectionConfig} {e l r l' r' : Expr} {p p' : Polarity}
    {s s' : Shape} (h : Form config e l r p s) (h' : Form config e l' r' p' s') :
    l' = l ∧ r' = r ∧ p' = p ∧ s' = s := by
  have same := (form?_of_form h').symm.trans (form?_of_form h)
  simpa [and_assoc] using same

theorem equalsTest_bare {e l r : Expr} {b : Bool} (h : EqualsTest e l r b) :
    l.isParen = false ∧ r.isParen = false := by
  induction h with
  | paren span _ ih | not span _ ih => exact ih
  | call typeArgs argument span _ => exact ⟨isParen_stripParens _, isParen_stripParens _⟩

theorem form_bare {config : InspectionConfig} {e l r : Expr} {p : Polarity} {s : Shape}
    (h : Form config e l r p s) : l.isParen = false ∧ r.isParen = false := by
  cases h with
  | unguarded _ test => exact equalsTest_bare test
  | nullGuarded span guarded | negatedNullGuarded span guarded
  | identityGuarded span _ _ guarded _ | negatedIdentityGuarded span _ _ guarded _ =>
      obtain ⟨x, _, test, _⟩ := guarded
      exact equalsTest_bare test
  | ternary span _ _ test _ _ => exact equalsTest_bare test

theorem containsUnknown_eq_false_iff (e : Expr) :
    e.containsUnknown = false ↔ ∀ x ∈ e.nodes, x.isUnknown = false := by
  rw [← Bool.not_eq_true, containsUnknown_iff_exists_nodes]
  simp only [not_exists, not_and, Bool.not_eq_true]

/-- The recogniser accepts exactly the derivable expressions whose operands were understood, with
the place of the whole expression, and each of them by one form only. -/
theorem recognize?_eq_some_iff_derives_one_form (config : InspectionConfig) (e : Expr)
    (m : EqualsMatch) :
    recognize? config e = some m ↔
      m.span = e.span ∧
        (∀ x ∈ m.left.nodes, x.isUnknown = false) ∧ (∀ x ∈ m.right.nodes, x.isUnknown = false) ∧
        m.left.isParen = false ∧ m.right.isParen = false ∧
        Form config e.stripParens m.left m.right m.polarity m.shape ∧
        ∀ l r p s, Form config e.stripParens l r p s →
          l = m.left ∧ r = m.right ∧ p = m.polarity ∧ s = m.shape := by
  rw [recognize?_eq_some_iff_form?, containsUnknown_eq_false_iff, containsUnknown_eq_false_iff]
  constructor
  · rintro ⟨found, left, right, span⟩
    have form := form_of_form? found
    obtain ⟨bareLeft, bareRight⟩ := form_bare form
    exact ⟨span, left, right, bareLeft, bareRight, form, fun _ _ _ _ => form_unique form⟩
  · rintro ⟨span, left, right, _, _, form, _⟩
    exact ⟨form?_of_form form, left, right, span⟩

end Expr
end NullSafeEquality
