import NullSafeEquality.Operand

/-!
The nodes of an expression tree. Recursion over the sixteen constructors is done once, for the list
of children; everything said of a whole tree then goes by induction on children. Parentheses are
nodes like others here, and only `stripParens` looks through them.
-/

namespace NullSafeEquality
namespace Expr

def isParen : Expr → Bool
  | paren .. => true
  | _ => false

def isUnknown : Expr → Bool
  | unknown .. => true
  | _ => false

theorem sizeOf_lt_of_mem_children {e c : Expr} (h : c ∈ e.children) : sizeOf c < sizeOf e := by
  cases e with
  | literal _ _ _ | name _ _ | self _ _ | super _ _ => cases h
  | field a _ _ | unary _ a _ | update _ a _ | paren a _ | cast _ a _ =>
      cases List.mem_singleton.mp h
      simp +arith
  | index a b _ | binary _ a b _ | assign _ a b _ =>
      rcases (show c = a ∨ c = b by simpa [children] using h) with rfl | rfl <;> simp +arith
  | conditional a b d _ =>
      rcases (show c = a ∨ c = b ∨ c = d by simpa [children] using h) with rfl | rfl | rfl <;>
        simp +arith
  | call receiver _ _ args _ =>
      rcases List.mem_append.mp h with here | there
      · cases Option.mem_toList.mp here
        simp +arith
      · have smaller := List.sizeOf_lt_of_mem there
        simp only [call.sizeOf_spec]
        omega
  | new _ args _ | unknown _ _ args _ =>
      have smaller := List.sizeOf_lt_of_mem (show c ∈ args from h)
      simp only [new.sizeOf_spec, unknown.sizeOf_spec]
      omega

/-- What holds of a node whenever it holds of all its children holds of every tree. -/
@[elab_as_elim]
theorem childrenInduction {motive : Expr → Prop}
    (node : ∀ e, (∀ c ∈ e.children, motive c) → motive e) (e : Expr) : motive e :=
  node e fun c _ => childrenInduction node c
termination_by sizeOf e
decreasing_by exact sizeOf_lt_of_mem_children ‹_›

mutual

/-- All nodes of a tree, each as often as it occurs, a node before what is below it. -/
def nodes : Expr → List Expr
  | e@(literal ..) | e@(name ..) | e@(self ..) | e@(super ..) => [e]
  | e@(field a _ _) | e@(unary _ a _) | e@(update _ a _) | e@(paren a _) | e@(cast _ a _) =>
      e :: nodes a
  | e@(index a b _) | e@(binary _ a b _) | e@(assign _ a b _) => e :: (nodes a ++ nodes b)
  | e@(conditional c t f _) => e :: (nodes c ++ (nodes t ++ nodes f))
  | e@(call receiver _ _ args _) => e :: (nodesOfReceiver receiver ++ nodesOfAll args)
  | e@(new _ args _) | e@(unknown _ _ args _) => e :: nodesOfAll args

def nodesOfReceiver : Option Expr → List Expr
  | none => []
  | some receiver => nodes receiver

def nodesOfAll : List Expr → List Expr
  | [] => []
  | e :: rest => nodes e ++ nodesOfAll rest

end

theorem nodesOfAll_eq_flatMap (es : List Expr) : nodesOfAll es = es.flatMap nodes := by
  induction es with
  | nil => simp [nodesOfAll]
  | cons e rest ih => simp only [nodesOfAll, ih, List.flatMap_cons]

theorem nodes_eq_cons_flatMap (e : Expr) : e.nodes = e :: e.children.flatMap nodes := by
  cases e with
  | call receiver _ _ args _ =>
      cases receiver <;> simp [nodes, nodesOfReceiver, children, nodesOfAll_eq_flatMap]
  | _ => simp [nodes, children, nodesOfAll_eq_flatMap]

theorem self_mem_nodes (e : Expr) : e ∈ e.nodes := by
  rw [nodes_eq_cons_flatMap]
  exact List.mem_cons_self

theorem mem_nodes_of_mem_children {e c x : Expr} (h : c ∈ e.children) (hx : x ∈ c.nodes) :
    x ∈ e.nodes := by
  rw [nodes_eq_cons_flatMap]
  exact List.mem_cons_of_mem _ (List.mem_flatMap.mpr ⟨c, h, hx⟩)

/-- What holds of all nodes holds of the topmost and of all nodes below each child. -/
theorem forall_mem_nodes_iff {P : Expr → Prop} {e : Expr} :
    (∀ x ∈ e.nodes, P x) ↔ P e ∧ ∀ c ∈ e.children, ∀ x ∈ c.nodes, P x := by
  rw [nodes_eq_cons_flatMap, List.forall_mem_cons]
  refine and_congr_right fun _ => ⟨fun h c hc x hx => ?_, fun h x hx => ?_⟩
  · exact h x (List.mem_flatMap.mpr ⟨c, hc, hx⟩)
  · obtain ⟨c, hc, below⟩ := List.mem_flatMap.mp hx
    exact h c hc x below

theorem anyContainsUnknown_eq_any (es : List Expr) :
    anyContainsUnknown es = es.any containsUnknown := by
  induction es with
  | nil => simp [anyContainsUnknown]
  | cons e rest ih => simp only [anyContainsUnknown, ih, List.any_cons]

theorem containsUnknown_eq_or_any_children (e : Expr) :
    e.containsUnknown = (e.isUnknown || e.children.any containsUnknown) := by
  cases e with
  | call receiver _ _ args _ =>
      cases receiver <;>
        simp [containsUnknown, receiverContainsUnknown, children, isUnknown,
          anyContainsUnknown_eq_any]
  | _ => simp [containsUnknown, children, isUnknown, anyContainsUnknown_eq_any, Bool.or_assoc]

/-- A construct that was not understood is found at any depth. -/
theorem containsUnknown_iff_exists_nodes (e : Expr) :
    e.containsUnknown = true ↔ ∃ x ∈ e.nodes, x.isUnknown = true := by
  induction e using childrenInduction with
  | node e ih =>
      rw [containsUnknown_eq_or_any_children, nodes_eq_cons_flatMap]
      simp only [Bool.or_eq_true, List.any_eq_true, List.mem_cons,
        List.mem_flatMap, exists_eq_or_imp]
      refine or_congr_right ?_
      constructor
      · rintro ⟨c, hc, found⟩
        obtain ⟨x, hx, unknown⟩ := (ih c hc).mp found
        exact ⟨x, ⟨c, hc, hx⟩, unknown⟩
      · rintro ⟨x, ⟨c, hc, hx⟩, unknown⟩
        exact ⟨c, hc, (ih c hc).mpr ⟨x, hx, unknown⟩⟩

theorem isParen_stripParens (e : Expr) : e.stripParens.isParen = false := by
  fun_induction stripParens e with
  | case1 inner span ih => exact ih
  | case2 e bare =>
      cases e with
      | paren inner span => exact (bare inner span rfl).elim
      | _ => rfl

theorem stripParens_of_isParen_eq_false {e : Expr} (h : e.isParen = false) :
    e.stripParens = e := by
  cases e with
  | paren inner span => cases h
  | _ => rfl

@[simp] theorem stripParens_stripParens (e : Expr) :
    e.stripParens.stripParens = e.stripParens :=
  stripParens_of_isParen_eq_false (isParen_stripParens e)

theorem stripParens_mem_nodes (e : Expr) : e.stripParens ∈ e.nodes := by
  fun_induction stripParens e with
  | case1 inner span ih => exact mem_nodes_of_mem_children (List.mem_singleton.mpr rfl) ih
  | case2 e _ => exact self_mem_nodes e

/-- Parentheses leave no trace in the key. -/
@[simp] theorem key?_stripParens (e : Expr) : e.stripParens.key? = e.key? := by
  fun_induction stripParens e with
  | case1 inner span ih => rw [ih, key?]
  | case2 e _ => rfl

/-- The same operand means the same key; what has no key is not even the same as itself. -/
theorem sameOperand_iff (a b : Expr) :
    a.sameOperand b = true ↔ ∃ key, a.key? = some key ∧ b.key? = some key := by
  unfold sameOperand
  cases ha : a.key? with
  | none => simp
  | some ka =>
      cases hb : b.key? with
      | none => simp
      | some kb =>
          constructor
          · intro same
            exact ⟨kb, congrArg some (eq_of_beq same), rfl⟩
          · rintro ⟨key, left, right⟩
            cases left
            cases right
            exact beq_self_eq_true _

end Expr
end NullSafeEquality
