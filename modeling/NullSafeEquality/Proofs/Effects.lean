import NullSafeEquality.Proofs.Parentheses

/-!
Expressions without effects. Exactly these have keys, and a key holds all of an expression but its
parentheses, its places and the kinds of its literals. So being the same operand is equality of what
is left, on expressions without effects.
-/

namespace NullSafeEquality
namespace Expr

/-- Nodes that may do something else, or give another value, each time they are evaluated. -/
def isEffect : Expr → Bool
  | call .. | new .. | update .. | assign .. | unknown .. => true
  | _ => false

/-- No node at any depth has an effect. -/
def EffectFree (e : Expr) : Prop := ∀ x ∈ e.nodes, x.isEffect = false

theorem effectFree_iff_children (e : Expr) :
    e.EffectFree ↔ e.isEffect = false ∧ ∀ c ∈ e.children, c.EffectFree :=
  forall_mem_nodes_iff

theorem isSome_key?_eq (e : Expr) :
    e.key?.isSome = (!e.isEffect && e.children.all fun c => c.key?.isSome) := by
  cases e with
  | literal _ _ _ | name _ _ | self _ _ | super _ _ => rfl
  | call _ _ _ _ _ | new _ _ _ | update _ _ _ | assign _ _ _ _ | unknown _ _ _ _ => rfl
  | paren inner _ => simp [key?, children, isEffect]
  | field a _ _ | unary _ a _ | cast _ a _ =>
      cases ha : a.key? <;> simp [key?, children, isEffect, ha]
  | index a b _ | binary _ a b _ =>
      cases ha : a.key? <;> cases hb : b.key? <;> simp [key?, children, isEffect, ha, hb]
  | conditional c t f _ =>
      cases hc : c.key? <;> cases ht : t.key? <;> cases hf : f.key? <;>
        simp [key?, children, isEffect, hc, ht, hf]

/-- A single effect anywhere leaves an expression without a key. -/
theorem isSome_key?_iff (e : Expr) : e.key?.isSome = true ↔ e.EffectFree := by
  induction e using childrenInduction with
  | node e ih =>
      rw [isSome_key?_eq, effectFree_iff_children, Bool.and_eq_true, Bool.not_eq_true',
        List.all_eq_true]
      exact and_congr_right fun _ => forall₂_congr ih

theorem effectFree_of_key? {e : Expr} {key : OperandKey} (h : e.key? = some key) :
    e.EffectFree := by
  rw [← isSome_key?_iff, h]
  rfl

theorem effectFree_stripParens (e : Expr) : e.stripParens.EffectFree ↔ e.EffectFree := by
  rw [← isSome_key?_iff, ← isSome_key?_iff, key?_stripParens]

mutual

/-- An expression with one kind for all literals. -/
def unkinded : Expr → Expr
  | literal _ text s => literal .string text s
  | name n s => name n s
  | self q s => self q s
  | super q s => super q s
  | field object f s => field (unkinded object) f s
  | index array i s => index (unkinded array) (unkinded i) s
  | call receiver typeArgs method args s =>
      call (unkindedReceiver receiver) typeArgs method (unkindedAll args) s
  | new className args s => new className (unkindedAll args) s
  | binary op left right s => binary op (unkinded left) (unkinded right) s
  | unary op operand s => unary op (unkinded operand) s
  | update op operand s => update op (unkinded operand) s
  | assign op target value s => assign op (unkinded target) (unkinded value) s
  | conditional c t e s => conditional (unkinded c) (unkinded t) (unkinded e) s
  | paren inner s => paren (unkinded inner) s
  | cast targetType operand s => cast targetType (unkinded operand) s
  | unknown kind text children s => unknown kind text (unkindedAll children) s

def unkindedReceiver : Option Expr → Option Expr
  | none => none
  | some receiver => some (unkinded receiver)

def unkindedAll : List Expr → List Expr
  | [] => []
  | e :: rest => unkinded e :: unkindedAll rest

end

@[simp] theorem key?_unkinded (e : Expr) : e.unkinded.key? = e.key? := by
  fun_induction key? e <;> simp_all only [unkinded, key?]

end Expr

/-- The expression that a key was read from, as far as the key knows it. -/
def OperandKey.expr : OperandKey → Expr
  | literal text => .literal .string text {}
  | name n => .name n {}
  | self q => .self q {}
  | super q => .super q {}
  | field object f => .field object.expr f {}
  | index array i => .index array.expr i.expr {}
  | binary op left right => .binary op left.expr right.expr {}
  | unary op operand => .unary op operand.expr {}
  | conditional c t e => .conditional c.expr t.expr e.expr {}
  | cast targetType operand => .cast targetType operand.expr {}

namespace Expr

/-- Nothing but parentheses, places and kinds of literals is lost in a key. -/
theorem bare_unkinded_of_key? {e : Expr} {key : OperandKey} (h : e.key? = some key) :
    e.bare.unkinded = key.expr := by
  induction e using childrenInduction generalizing key with
  | node e ih =>
      cases e with
      | literal _ _ _ | name _ _ | self _ _ | super _ _ =>
          cases h
          rfl
      | call _ _ _ _ _ | new _ _ _ | update _ _ _ | assign _ _ _ _ | unknown _ _ _ _ => cases h
      | paren inner _ => exact ih inner (List.mem_singleton.mpr rfl) h
      | field a _ _ | unary _ a _ | cast _ a _ =>
          obtain ⟨ka, ha, same⟩ := Option.bind_eq_some_iff.mp h
          cases same
          simp only [bare, unkinded, OperandKey.expr, ih a (List.mem_singleton.mpr rfl) ha]
      | index a b _ | binary _ a b _ =>
          obtain ⟨ka, ha, h⟩ := Option.bind_eq_some_iff.mp h
          obtain ⟨kb, hb, same⟩ := Option.bind_eq_some_iff.mp h
          cases same
          simp only [bare, unkinded, OperandKey.expr, ih a (by simp [children]) ha,
            ih b (by simp [children]) hb]
      | conditional c t f _ =>
          obtain ⟨kc, hc, h⟩ := Option.bind_eq_some_iff.mp h
          obtain ⟨kt, ht, h⟩ := Option.bind_eq_some_iff.mp h
          obtain ⟨kf, hf, same⟩ := Option.bind_eq_some_iff.mp h
          cases same
          simp only [bare, unkinded, OperandKey.expr, ih c (by simp [children]) hc,
            ih t (by simp [children]) ht, ih f (by simp [children]) hf]

theorem sameOperand_iff_bare_unkinded (a b : Expr) :
    a.sameOperand b = true ↔
      a.EffectFree ∧ b.EffectFree ∧ a.bare.unkinded = b.bare.unkinded := by
  rw [sameOperand_iff]
  constructor
  · rintro ⟨key, ha, hb⟩
    refine ⟨effectFree_of_key? ha, effectFree_of_key? hb, ?_⟩
    rw [bare_unkinded_of_key? ha, bare_unkinded_of_key? hb]
  · rintro ⟨free, -, same⟩
    obtain ⟨key, ha⟩ := Option.isSome_iff_exists.mp ((isSome_key?_iff a).mpr free)
    refine ⟨key, ha, ?_⟩
    rw [← key?_bare b, ← key?_unkinded, ← same, key?_unkinded, key?_bare, ha]

/-- Two expressions are the same operand exactly if neither has an effect at any depth and they are
equal once parentheses, places and kinds of literals are taken away. So exactly the expressions
without effects have a key, and on them being the same operand is an equivalence. -/
theorem sameOperand_equivalence_on_effectFree (a b : Expr) :
    (a.sameOperand b = true ↔
      a.EffectFree ∧ b.EffectFree ∧ a.bare.unkinded = b.bare.unkinded) ∧
    (a.key?.isSome = true ↔ a.EffectFree) ∧
    (a.sameOperand a = true ↔ a.EffectFree) ∧
    (a.sameOperand b = b.sameOperand a) ∧
    ∀ c, a.sameOperand b = true → b.sameOperand c = true → a.sameOperand c = true := by
  refine ⟨sameOperand_iff_bare_unkinded a b, isSome_key?_iff a, ?_, ?_, ?_⟩
  · simp [sameOperand_iff_bare_unkinded]
  · rw [Bool.eq_iff_iff, sameOperand_iff_bare_unkinded, sameOperand_iff_bare_unkinded]
    exact ⟨fun ⟨ha, hb, same⟩ => ⟨hb, ha, same.symm⟩, fun ⟨hb, ha, same⟩ => ⟨ha, hb, same.symm⟩⟩
  · intro c
    simp only [sameOperand_iff_bare_unkinded]
    rintro ⟨ha, -, first⟩ ⟨-, hc, second⟩
    exact ⟨ha, hc, first.trans second⟩

end Expr
end NullSafeEquality
