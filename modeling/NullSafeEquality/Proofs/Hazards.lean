import NullSafeEquality.Proofs.Effects

/-!
Effects inside a match. Everything in a form that occurs twice has a key, and what has a key has no
effect. What is left is the call of the equality method and, where the argument occurs once, whatever
stands in the argument. Nodes are named by their paths, so that an occurrence is told from another.
-/

namespace NullSafeEquality
namespace Expr

theorem mem_nodes_of_at? {e x : Expr} {path : List Nat} (h : e.at? path = some x) :
    x ∈ e.nodes := by
  induction path generalizing e with
  | nil =>
      cases h
      exact self_mem_nodes x
  | cons i path ih =>
      obtain ⟨c, hc, below⟩ := Option.bind_eq_some_iff.mp h
      exact mem_nodes_of_mem_children (List.mem_of_getElem? hc) (ih below)

/-- The expression calls the equality method of the left operand on the right one, where parentheses
around the operands do not count. -/
inductive CallsEquals : Expr → Expr → Expr → Prop where
  | call (receiver typeArgs argument span) :
      CallsEquals (call (some receiver) typeArgs "equals" [argument] span)
        receiver.stripParens argument.stripParens

/-- The path leads to the node at a place, or into the second of its children. -/
def AtOrInArgument (place path : List Nat) : Prop :=
  path = place ∨ ∃ below, path = place ++ 1 :: below

theorem AtOrInArgument.cons {place path : List Nat} (h : AtOrInArgument place path) (i : Nat) :
    AtOrInArgument (i :: place) (i :: path) := by
  rcases h with rfl | ⟨below, rfl⟩
  · exact .inl rfl
  · exact .inr ⟨below, rfl⟩

/-- At the place stands a node, and no effects are in the tree but at this node and in the second of
its children. -/
structure EffectsAt (e : Expr) (place : List Nat) (node : Expr) : Prop where
  placed : e.at? place = some node
  only : ∀ path x, e.at? path = some x → x.isEffect = true → AtOrInArgument place path

theorem EffectsAt.of_child {e c node : Expr} {i : Nat} {place : List Nat}
    (below : EffectsAt c place node) (plain : e.isEffect = false) (hc : e.children[i]? = some c)
    (others : ∀ d ∈ e.children.eraseIdx i, d.EffectFree) : EffectsAt e (i :: place) node where
  placed := by rw [at?, hc, Option.bind_some, below.placed]
  only path x hx effect := by
    cases path with
    | nil =>
        cases hx
        cases plain.symm.trans effect
    | cons j path =>
        obtain ⟨d, hd, hx⟩ := Option.bind_eq_some_iff.mp hx
        by_cases same : j = i
        · subst same
          cases hc.symm.trans hd
          exact (below.only path x hx effect).cons j
        · have other : d ∈ e.children.eraseIdx i :=
            List.mem_eraseIdx_iff_getElem?.mpr ⟨j, same, hd⟩
          cases (others d other x (mem_nodes_of_at? hx)).symm.trans effect

/-- A node with effects whose first of two children has none. -/
theorem EffectsAt.here {e receiver argument : Expr} (children : e.children = [receiver, argument])
    (free : receiver.EffectFree) : EffectsAt e [] e where
  placed := rfl
  only path x hx effect := by
    cases path with
    | nil => exact .inl rfl
    | cons i path =>
        obtain ⟨c, hc, hx⟩ := Option.bind_eq_some_iff.mp hx
        rw [children] at hc
        match i with
        | 0 =>
            cases hc
            cases (free x (mem_nodes_of_at? hx)).symm.trans effect
        | 1 => exact .inr ⟨path, rfl⟩
        | _ + 2 => cases hc

theorem exists_effectsAt_of_stripParens {e node : Expr} {place : List Nat}
    (h : EffectsAt e.stripParens place node) : ∃ outer, EffectsAt e outer node := by
  fun_induction stripParens e with
  | case1 inner span ih =>
      obtain ⟨outer, below⟩ := ih h
      exact ⟨0 :: outer, below.of_child rfl rfl fun _ other => (List.not_mem_nil other).elim⟩
  | case2 e _ => exact ⟨place, h⟩

theorem effectFree_of_sameOperand {a b : Expr} (h : a.sameOperand b = true) :
    a.EffectFree ∧ b.EffectFree :=
  have both := (sameOperand_iff_bare_unkinded a b).mp h
  ⟨both.1, both.2.1⟩

theorem effectFree_of_isNull {e : Expr} (h : e.IsNull) : e.EffectFree := by
  obtain ⟨text, span, shape⟩ := h
  rw [← effectFree_stripParens, shape, ← isSome_key?_iff]
  rfl

theorem effectFree_binary {op : BinaryOp} {a b : Expr} {span : Span} (ha : a.EffectFree)
    (hb : b.EffectFree) : (binary op a b span).EffectFree := by
  rw [effectFree_iff_children]
  exact ⟨rfl, List.forall_mem_cons.mpr ⟨ha, List.forall_mem_singleton.mpr hb⟩⟩

theorem effectFree_of_only_child {e c : Expr} (plain : e.isEffect = false)
    (child : e.children = [c]) (free : c.EffectFree) : e.EffectFree := by
  rw [effectFree_iff_children, child]
  exact ⟨plain, List.forall_mem_singleton.mpr free⟩

theorem effectFree_of_nullTest {e x : Expr} {b : Bool} (h : NullTest e x b)
    (free : x.EffectFree) : e.EffectFree := by
  induction h with
  | paren span _ ih | not span _ ih => exact effectFree_of_only_child rfl rfl (ih free)
  | nullRight span _ _ hy =>
      exact effectFree_binary ((effectFree_stripParens _).mp free) (effectFree_of_isNull hy)
  | nullLeft span _ hx _ =>
      exact effectFree_binary (effectFree_of_isNull hx) ((effectFree_stripParens _).mp free)

theorem effectFree_of_identityTest {e x y : Expr} {b : Bool} (h : IdentityTest e x y b)
    (left : x.EffectFree) (right : y.EffectFree) : e.EffectFree := by
  induction h with
  | paren span _ ih | not span _ ih => exact effectFree_of_only_child rfl rfl (ih left right)
  | compare span _ _ _ =>
      exact effectFree_binary ((effectFree_stripParens _).mp left)
        ((effectFree_stripParens _).mp right)

/-- Somewhere in the tree the equality method is called on these operands, and no effects are
elsewhere but in the argument. -/
def EqualsIsOnlyEffect (e l r : Expr) : Prop :=
  ∃ place call, EffectsAt e place call ∧ CallsEquals call l r

theorem EqualsIsOnlyEffect.of_child {e c l r : Expr} {i : Nat} (h : EqualsIsOnlyEffect c l r)
    (plain : e.isEffect = false) (hc : e.children[i]? = some c)
    (others : ∀ d ∈ e.children.eraseIdx i, d.EffectFree) : EqualsIsOnlyEffect e l r := by
  obtain ⟨place, call, effects, calls⟩ := h
  exact ⟨i :: place, call, effects.of_child plain hc others, calls⟩

theorem EqualsIsOnlyEffect.of_only_child {e c l r : Expr} (h : EqualsIsOnlyEffect c l r)
    (plain : e.isEffect = false) (child : e.children = [c]) : EqualsIsOnlyEffect e l r := by
  have here : e.children[0]? = some c := by rw [child]; rfl
  have alone : e.children.eraseIdx 0 = [] := by rw [child]; rfl
  refine h.of_child plain here ?_
  rw [alone]
  exact fun _ other => (List.not_mem_nil other).elim

theorem EqualsIsOnlyEffect.of_second {op : BinaryOp} {a b l r : Expr} {span : Span}
    (h : EqualsIsOnlyEffect b l r) (first : a.EffectFree) :
    EqualsIsOnlyEffect (binary op a b span) l r :=
  h.of_child (i := 1) rfl rfl (List.forall_mem_singleton.mpr first)

theorem equalsIsOnlyEffect_of_equalsTest {e l r : Expr} {b : Bool} (h : EqualsTest e l r b)
    (free : l.EffectFree) : EqualsIsOnlyEffect e l r := by
  induction h with
  | paren span _ ih | not span _ ih => exact (ih free).of_only_child rfl rfl
  | call typeArgs argument span _ =>
      exact ⟨[], _, .here rfl ((effectFree_stripParens _).mp free), .call ..⟩

theorem equalsIsOnlyEffect_of_guardedTest {op : BinaryOp} {negated : Bool} {guard call l r : Expr}
    {span : Span} (h : GuardedTest negated guard call l r) :
    EqualsIsOnlyEffect (binary op guard call span) l r := by
  obtain ⟨x, test, equal, same⟩ := h
  obtain ⟨hx, hl⟩ := effectFree_of_sameOperand same
  exact (equalsIsOnlyEffect_of_equalsTest equal hl).of_second (effectFree_of_nullTest test hx)

theorem effectFree_of_samePair {a b l r : Expr} (h : SamePair a b l r) :
    (a.EffectFree ∧ b.EffectFree) ∧ l.EffectFree ∧ r.EffectFree := by
  rcases h with ⟨left, right⟩ | ⟨left, right⟩
  · obtain ⟨ha, hl⟩ := effectFree_of_sameOperand left
    obtain ⟨hb, hr⟩ := effectFree_of_sameOperand right
    exact ⟨⟨ha, hb⟩, hl, hr⟩
  · obtain ⟨ha, hr⟩ := effectFree_of_sameOperand left
    obtain ⟨hb, hl⟩ := effectFree_of_sameOperand right
    exact ⟨⟨ha, hb⟩, hl, hr⟩

theorem equalsIsOnlyEffect_of_identityGuarded {op inside : BinaryOp} {isSame negated : Bool}
    {identity guarded guard call a b l r : Expr} {inner span : Span}
    (identityTest : IdentityTest identity a b isSame)
    (shape : guarded.stripParens = binary inside guard call inner)
    (guardedTest : GuardedTest negated guard call l r) (pair : SamePair a b l r) :
    EqualsIsOnlyEffect (binary op identity guarded span) l r := by
  obtain ⟨⟨ha, hb⟩, -⟩ := effectFree_of_samePair pair
  have stripped : EqualsIsOnlyEffect (binary inside guard call inner) l r :=
    equalsIsOnlyEffect_of_guardedTest guardedTest
  rw [← shape] at stripped
  obtain ⟨place, found, effects, calls⟩ := stripped
  obtain ⟨outer, effects⟩ := exists_effectsAt_of_stripParens effects
  have second : EqualsIsOnlyEffect guarded l r := ⟨outer, found, effects, calls⟩
  exact second.of_second (effectFree_of_identityTest identityTest ha hb)

theorem equalsIsOnlyEffect_of_ternary {condition t f l r : Expr} {isNull : Bool} {span : Span}
    (test : condition.EffectFree) (nulls : (branches isNull t f).1.EffectFree)
    (equal : EqualsIsOnlyEffect (branches isNull t f).2 l r) :
    EqualsIsOnlyEffect (conditional condition t f span) l r := by
  have others : ∀ d ∈ [condition, (branches isNull t f).1], d.EffectFree :=
    List.forall_mem_cons.mpr ⟨test, List.forall_mem_singleton.mpr nulls⟩
  cases isNull with
  | true => exact equal.of_child (i := 2) rfl rfl others
  | false => exact equal.of_child (i := 1) rfl rfl others

/-- Whatever the form, the call is the only effect outside of its argument; and with an identity test
or a conditional the argument occurs twice and has none either. -/
theorem equalsIsOnlyEffect_of_form {config : InspectionConfig} {e l r : Expr} {p : Polarity}
    {s : Shape} (h : Form config e l r p s) (guarded : s ≠ .unguarded) :
    EqualsIsOnlyEffect e l r ∧
      (s ∈ [Shape.identityGuarded, .negatedIdentityGuarded, .ternary] → r.EffectFree) := by
  cases h with
  | unguarded _ _ => exact (guarded rfl).elim
  | nullGuarded span test | negatedNullGuarded span test =>
      exact ⟨equalsIsOnlyEffect_of_guardedTest test, by simp⟩
  | identityGuarded span test shape guardedTest pair
  | negatedIdentityGuarded span test shape guardedTest pair =>
      exact ⟨equalsIsOnlyEffect_of_identityGuarded test shape guardedTest pair,
        fun _ => (effectFree_of_samePair pair).2.2⟩
  | ternary span test nulls equal left right =>
      obtain ⟨hx, hl⟩ := effectFree_of_sameOperand left
      obtain ⟨hy, hr⟩ := effectFree_of_sameOperand right
      exact ⟨equalsIsOnlyEffect_of_ternary (effectFree_of_nullTest test hx)
        (effectFree_of_nullTest nulls hy) (equalsIsOnlyEffect_of_equalsTest equal hl),
        fun _ => hr⟩

theorem callsEquals_of_unguardedForm {config : InspectionConfig} {e l r : Expr} {p : Polarity}
    (h : Form config e l r p .unguarded) : CallsEquals e l r := by
  cases h with
  | unguarded _ test =>
      cases test
      exact .call ..

theorem at?_argument {call l r x : Expr} {below : List Nat} (calls : CallsEquals call l r)
    (h : call.at? (1 :: below) = some x) :
    ∃ argument : Expr, argument.stripParens = r ∧ argument.at? below = some x := by
  cases calls with
  | call receiver typeArgs argument span => exact ⟨argument, rfl, h⟩

theorem at?_append (e : Expr) (p q : List Nat) :
    e.at? (p ++ q) = (e.at? p).bind fun c => c.at? q := by
  induction p generalizing e with
  | nil => rfl
  | cons i p ih =>
      rw [List.cons_append, at?, at?, Option.bind_assoc]
      exact Option.bind_congr fun c _ => ih c

theorem containsUnknown_stripParens (e : Expr) :
    e.stripParens.containsUnknown = e.containsUnknown := by
  fun_induction stripParens e with
  | case1 inner span ih => rw [ih, containsUnknown]
  | case2 e _ => rfl

/-- What holds of all nodes in the argument of the call holds of all effects but the call. -/
theorem EffectsAt.argument {e call l r x : Expr} {place path : List Nat}
    (effects : EffectsAt e place call) (calls : CallsEquals call l r)
    (hx : e.at? path = some x) (effect : x.isEffect = true) :
    path = place ∧ x = call ∨
      ∃ argument : Expr, argument.stripParens = r ∧ x ∈ argument.nodes := by
  rcases effects.only path x hx effect with rfl | ⟨below, rfl⟩
  · cases effects.placed.symm.trans hx
    exact .inl ⟨rfl, rfl⟩
  · rw [at?_append, effects.placed, Option.bind_some] at hx
    obtain ⟨argument, same, hx⟩ := at?_argument calls hx
    exact .inr ⟨argument, same, mem_nodes_of_at? hx⟩

theorem containsUnknown_of_callsEquals {call l r : Expr} (calls : CallsEquals call l r) :
    call.containsUnknown = (l.containsUnknown || r.containsUnknown) := by
  cases calls with
  | call receiver typeArgs argument span =>
      simp [containsUnknown, receiverContainsUnknown, anyContainsUnknown,
        containsUnknown_stripParens]

theorem isUnknown_eq_false_of_callsEquals {call l r : Expr} (calls : CallsEquals call l r) :
    call.isUnknown = false := by
  cases calls with
  | call receiver typeArgs argument span => rfl

theorem isEffect_of_isUnknown {x : Expr} (h : x.isUnknown = true) : x.isEffect = true := by
  cases x with
  | unknown _ _ _ _ => rfl
  | _ => cases h

theorem isUnknown_eq_false_of_at? {e x : Expr} {path : List Nat}
    (understood : e.containsUnknown = false) (h : e.at? path = some x) : x.isUnknown = false :=
  (containsUnknown_eq_false_iff e).mp understood x (mem_nodes_of_at? h)

theorem exists_at?_of_mem_nodes {e x : Expr} (h : x ∈ e.nodes) : ∃ path, e.at? path = some x := by
  induction e using childrenInduction with
  | node e ih =>
      rw [nodes_eq_cons_flatMap] at h
      rcases List.mem_cons.mp h with rfl | below
      · exact ⟨[], rfl⟩
      · obtain ⟨c, hc, inside⟩ := List.mem_flatMap.mp below
        obtain ⟨i, hi⟩ := List.getElem?_of_mem hc
        obtain ⟨path, hx⟩ := ih c hc inside
        exact ⟨i :: path, by rw [at?, hi, Option.bind_some, hx]⟩

theorem exists_at?_stripParens (e : Expr) : ∃ path, e.at? path = some e.stripParens :=
  exists_at?_of_mem_nodes (stripParens_mem_nodes e)

section Recognized

variable {config : InspectionConfig} {e : Expr} {m : EqualsMatch}
  (h : recognize? config e = some m)
include h

theorem callsEquals_of_recognized (bare : m.shape = .unguarded) :
    CallsEquals e.stripParens m.left m.right :=
  callsEquals_of_unguardedForm (bare ▸ form_of_recognize? h)

theorem equalsIsOnlyEffect_of_recognized (guarded : m.shape ≠ .unguarded) :
    EqualsIsOnlyEffect e m.left m.right ∧
      (m.shape ∈ [Shape.identityGuarded, .negatedIdentityGuarded, .ternary] →
        m.right.EffectFree) := by
  obtain ⟨⟨place, call, effects, calls⟩, exact⟩ :=
    equalsIsOnlyEffect_of_form (form_of_recognize? h) guarded
  obtain ⟨outer, effects⟩ := exists_effectsAt_of_stripParens effects
  exact ⟨⟨outer, call, effects, calls⟩, exact⟩

/-- Whatever was not understood would be an effect, so it could only be in the argument, which is
searched for it. -/
theorem containsUnknown_eq_false_of_recognized : e.containsUnknown = false := by
  obtain ⟨-, left, right, -⟩ := (recognize?_eq_some_iff_form? config e m).mp h
  by_cases bare : m.shape = .unguarded
  · rw [← containsUnknown_stripParens,
      containsUnknown_of_callsEquals (callsEquals_of_recognized h bare), left, right]
    rfl
  · obtain ⟨⟨place, call, effects, calls⟩, -⟩ := equalsIsOnlyEffect_of_recognized h bare
    refine (containsUnknown_eq_false_iff e).mpr fun x hx => Bool.eq_false_iff.mpr fun unknown => ?_
    obtain ⟨path, hx⟩ := exists_at?_of_mem_nodes hx
    rcases effects.argument calls hx (isEffect_of_isUnknown unknown) with
      ⟨-, rfl⟩ | ⟨argument, same, inside⟩
    · cases (isUnknown_eq_false_of_callsEquals calls).symm.trans unknown
    · rw [← same, containsUnknown_stripParens, containsUnknown_eq_false_iff] at right
      cases (right x inside).symm.trans unknown

/-- The matched operands are those of a call in the matched expression. -/
theorem exists_call_of_recognized :
    ∃ place call, e.at? place = some call ∧ CallsEquals call m.left m.right := by
  by_cases bare : m.shape = .unguarded
  · obtain ⟨place, placed⟩ := exists_at?_stripParens e
    exact ⟨place, _, placed, callsEquals_of_recognized h bare⟩
  · obtain ⟨⟨place, call, effects, calls⟩, -⟩ := equalsIsOnlyEffect_of_recognized h bare
    exact ⟨place, call, effects.placed, calls⟩

/-- No match holds a construct that was not understood, at whatever place. With a guard there is the
call of the equality method at one place, and all calls, creations, updates and assignments are this
call or in its argument. With an identity test or a conditional it is the only one. A match without a
guard is the call. -/
theorem effects_of_recognized :
    (∀ path x, e.at? path = some x → x.isUnknown = false) ∧
    (m.shape ≠ .unguarded → ∃ place call,
      e.at? place = some call ∧ CallsEquals call m.left m.right ∧
      (∀ path x, e.at? path = some x → x.isEffect = true → AtOrInArgument place path) ∧
      (m.shape ∈ [Shape.identityGuarded, .negatedIdentityGuarded, .ternary] →
        ∀ path x, e.at? path = some x → x.isEffect = true → path = place)) ∧
    (m.shape = .unguarded → CallsEquals e.stripParens m.left m.right) := by
  refine ⟨fun path x hx =>
    isUnknown_eq_false_of_at? (containsUnknown_eq_false_of_recognized h) hx, fun guarded => ?_,
    callsEquals_of_recognized h⟩
  obtain ⟨⟨place, call, effects, calls⟩, exact⟩ := equalsIsOnlyEffect_of_recognized h guarded
  refine ⟨place, call, effects.placed, calls, effects.only, fun shape path x hx effect => ?_⟩
  rcases effects.argument calls hx effect with ⟨same, -⟩ | ⟨argument, same, inside⟩
  · exact same
  · have free := exact shape
    rw [← same, effectFree_stripParens] at free
    cases (free x inside).symm.trans effect

end Recognized

/-- The test `a == b || a != null && a.equals((b))`. -/
def identityTest : Expr :=
  binary .or (binary .eq (name "a" {}) (name "b" {}) {})
    (binary .and (binary .ne (name "a" {}) (literal .null "null" {}) {})
      (call (some (name "a" {})) none "equals" [paren (name "b" {}) {}] {}) {}) {}

theorem identityTest_call_is_only_effect :
    recognize? {} identityTest =
        some ⟨name "a" {}, name "b" {}, .equals, .identityGuarded, {}⟩ ∧
      (∀ path x, identityTest.at? path = some x → x.isUnknown = false) ∧
      ∃ place call, identityTest.at? place = some call ∧
        CallsEquals call (name "a" {}) (name "b" {}) ∧
        ∀ path x, identityTest.at? path = some x → x.isEffect = true → path = place := by
  have recognized : recognize? {} identityTest =
      some ⟨name "a" {}, name "b" {}, .equals, .identityGuarded, {}⟩ := rfl
  obtain ⟨understood, guarded, -⟩ := effects_of_recognized recognized
  obtain ⟨place, call, placed, calls, -, single⟩ := guarded (by decide)
  exact ⟨recognized, understood, place, call, placed, calls, single (by decide)⟩

end Expr
end NullSafeEquality
