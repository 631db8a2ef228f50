import NullSafeEquality.Proofs.Effects

/-!
Evaluation twice. An interpretation leaves open what values are, how operators combine them, when an
operand is passed over and what effects do. It is bound only by what an expression is made of: parts
are evaluated from left to right, parentheses do nothing, and an operator has no effect of its own.
Under each interpretation a key fixes the outcome in each store, and evaluation leaves the store
alone.
-/

namespace NullSafeEquality

/-- What a node without effects does with its operands. -/
inductive Operation where
  | literal (text : String)
  | name (name : String)
  | self (qualifier : Option String)
  | super (qualifier : Option String)
  | field (field : String)
  | index
  | binary (op : BinaryOp)
  | unary (op : UnaryOp)
  | conditional
  | cast (targetType : String)

/-- The meaning of expressions over a store. Outcomes of operands are listed in source order; an
operand that was passed over has none. Short circuits, the choice of a branch and the end at the first
failure are ways of passing over operands. -/
structure Interpretation (Value : Type) (Failure : Type) (Store : Type) where
  /-- Is the next operand evaluated, after the operands before it? -/
  meets : Operation → List (Option (Except Failure Value)) → Store → Bool
  combine : Operation → List (Option (Except Failure Value)) → Store → Except Failure Value
  /-- Calls, creations, updates, assignments and what was not understood. -/
  effect : Expr → Store → Except Failure Value × Store

/-- The computation leaves each store as it was. -/
def KeepsStore {Store Result : Type} (computation : StateM Store Result) : Prop :=
  ∀ store, (computation.run store).2 = store

namespace Interpretation

variable {Value : Type} {Failure : Type} {Store : Type} (I : Interpretation Value Failure Store)

def operands (operation : Operation) (before : List (Option (Except Failure Value))) :
    List (StateM Store (Except Failure Value)) →
      StateM Store (List (Option (Except Failure Value)))
  | [] => pure before
  | operand :: rest => do
      if I.meets operation before (← get) then
        let outcome ← operand
        operands operation (before ++ [some outcome]) rest
      else
        operands operation (before ++ [none]) rest

def node (operation : Operation) (parts : List (StateM Store (Except Failure Value))) :
    StateM Store (Except Failure Value) := do
  let outcomes ← I.operands operation [] parts
  return I.combine operation outcomes (← get)

def eval : Expr → StateM Store (Except Failure Value)
  | .literal _ text _ => I.node (.literal text) []
  | .name n _ => I.node (.name n) []
  | .self q _ => I.node (.self q) []
  | .super q _ => I.node (.super q) []
  | .field object f _ => I.node (.field f) [eval object]
  | .index array i _ => I.node .index [eval array, eval i]
  | .binary op left right _ => I.node (.binary op) [eval left, eval right]
  | .unary op operand _ => I.node (.unary op) [eval operand]
  | .conditional c t e _ => I.node .conditional [eval c, eval t, eval e]
  | .cast targetType operand _ => I.node (.cast targetType) [eval operand]
  | .paren inner _ => eval inner
  | .call receiver typeArgs method args span => I.effect (.call receiver typeArgs method args span)
  | .new className args span => I.effect (.new className args span)
  | .update op operand span => I.effect (.update op operand span)
  | .assign op target value span => I.effect (.assign op target value span)
  | .unknown kind text children span => I.effect (.unknown kind text children span)

theorem run_operands_of_met {operation : Operation}
    {before : List (Option (Except Failure Value))} {part : StateM Store (Except Failure Value)}
    {rest : List (StateM Store (Except Failure Value))} {store : Store}
    (met : I.meets operation before store = true) :
    (I.operands operation before (part :: rest)).run store =
      (I.operands operation (before ++ [some (part.run store).1]) rest).run
        (part.run store).2 := by
  simp only [operands, StateT.run_bind, StateT.run_get, pure_bind, met, if_true]
  rfl

theorem run_operands_of_passed {operation : Operation}
    {before : List (Option (Except Failure Value))} {part : StateM Store (Except Failure Value)}
    {rest : List (StateM Store (Except Failure Value))} {store : Store}
    (passed : I.meets operation before store = false) :
    (I.operands operation before (part :: rest)).run store =
      (I.operands operation (before ++ [none]) rest).run store := by
  simp [operands, passed]

theorem operands_keepsStore (operation : Operation)
    (before : List (Option (Except Failure Value)))
    {parts : List (StateM Store (Except Failure Value))} (keep : ∀ part ∈ parts, KeepsStore part) :
    KeepsStore (I.operands operation before parts) := by
  induction parts generalizing before with
  | nil => exact fun store => rfl
  | cons part rest ih =>
      obtain ⟨first, others⟩ := List.forall_mem_cons.mp keep
      intro store
      cases met : I.meets operation before store with
      | true =>
          rw [I.run_operands_of_met met, first store]
          exact ih _ others store
      | false =>
          rw [I.run_operands_of_passed met]
          exact ih _ others store

theorem node_keepsStore (operation : Operation)
    {parts : List (StateM Store (Except Failure Value))} (keep : ∀ part ∈ parts, KeepsStore part) :
    KeepsStore (I.node operation parts) :=
  I.operands_keepsStore operation [] keep

/-- Only effects change a store. -/
theorem eval_keepsStore {e : Expr} (free : e.EffectFree) : KeepsStore (I.eval e) := by
  induction e using Expr.childrenInduction with
  | node e ih =>
      obtain ⟨plain, below⟩ := (Expr.effectFree_iff_children e).mp free
      have parts (c : Expr) (hc : c ∈ e.children) : KeepsStore (I.eval c) := ih c hc (below c hc)
      cases e with
      | literal _ _ _ | name _ _ | self _ _ | super _ _ => exact I.node_keepsStore _ (by simp)
      | field _ _ _ | index _ _ _ | binary _ _ _ _ | unary _ _ _ | conditional _ _ _ _
      | cast _ _ _ =>
          exact I.node_keepsStore _ (by simpa [Expr.children] using parts)
      | paren inner _ =>
          rw [eval]
          exact parts inner (List.mem_singleton.mpr rfl)
      | call _ _ _ _ _ | new _ _ _ | update _ _ _ | assign _ _ _ _ | unknown _ _ _ _ => cases plain

/-- A key knows all that an evaluation depends on. -/
theorem eval_of_key? {e : Expr} {key : OperandKey} (h : e.key? = some key) :
    I.eval e = I.eval key.expr := by
  induction e using Expr.childrenInduction generalizing key with
  | node e ih =>
      cases e with
      | literal _ _ _ | name _ _ | self _ _ | super _ _ =>
          cases h
          rfl
      | call _ _ _ _ _ | new _ _ _ | update _ _ _ | assign _ _ _ _ | unknown _ _ _ _ => cases h
      | paren inner _ =>
          rw [eval]
          exact ih inner (List.mem_singleton.mpr rfl) h
      | field a _ _ | unary _ a _ | cast _ a _ =>
          obtain ⟨ka, ha, same⟩ := Option.bind_eq_some_iff.mp h
          cases same
          simp only [eval, OperandKey.expr, ih a (List.mem_singleton.mpr rfl) ha]
      | index a b _ | binary _ a b _ =>
          obtain ⟨ka, ha, h⟩ := Option.bind_eq_some_iff.mp h
          obtain ⟨kb, hb, same⟩ := Option.bind_eq_some_iff.mp h
          cases same
          simp only [eval, OperandKey.expr, ih a (by simp [Expr.children]) ha,
            ih b (by simp [Expr.children]) hb]
      | conditional c t f _ =>
          obtain ⟨kc, hc, h⟩ := Option.bind_eq_some_iff.mp h
          obtain ⟨kt, ht, h⟩ := Option.bind_eq_some_iff.mp h
          obtain ⟨kf, hf, same⟩ := Option.bind_eq_some_iff.mp h
          cases same
          simp only [eval, OperandKey.expr, ih c (by simp [Expr.children]) hc,
            ih t (by simp [Expr.children]) ht, ih f (by simp [Expr.children]) hf]

theorem eval_eq_of_sameOperand {a b : Expr} (h : a.sameOperand b = true) :
    I.eval a = I.eval b := by
  obtain ⟨key, ha, hb⟩ := (Expr.sameOperand_iff a b).mp h
  rw [I.eval_of_key? ha, I.eval_of_key? hb]

/-- The outcomes of two evaluations, one after the other. -/
def both (a b : Expr) : StateM Store (Except Failure Value × Except Failure Value) := do
  let first ← I.eval a
  let second ← I.eval b
  return (first, second)

theorem both_eq_of_keepsStore {a b : Expr} (same : I.eval a = I.eval b)
    (keeps : KeepsStore (I.eval b)) (store : Store) :
    (I.both a b).run store = ((((I.eval b).run store).1, ((I.eval b).run store).1), store) := by
  change ((((I.eval a).run store).1, ((I.eval b).run ((I.eval a).run store).2).1),
    ((I.eval b).run ((I.eval a).run store).2).2) = _
  rw [same, keeps store, keeps store]

/-- Whatever expressions mean, one with a key leaves each store alone, and the same operand has the
same outcome when it is met again, be it a value or a failure. -/
theorem sameOperand_same_outcome (a b : Expr) :
    (a.key?.isSome = true → ∀ store, ((I.eval a).run store).2 = store) ∧
    (a.sameOperand b = true → ∀ store, ∃ outcome,
      (I.both a b).run store = ((outcome, outcome), store) ∧
      (I.both b a).run store = ((outcome, outcome), store)) := by
  refine ⟨fun key => I.eval_keepsStore ((Expr.isSome_key?_iff a).mp key), fun same store => ?_⟩
  obtain ⟨-, free, -⟩ := (Expr.sameOperand_iff_bare_unkinded a b).mp same
  have equal := I.eval_eq_of_sameOperand same
  have keeps := I.eval_keepsStore free
  refine ⟨((I.eval b).run store).1, I.both_eq_of_keepsStore equal keeps store, ?_⟩
  rw [I.both_eq_of_keepsStore equal.symm (equal ▸ keeps) store, equal]

/-- Names tell whether the store is even. Effects tell the same and count it up. -/
def counting : Interpretation Bool Unit Nat where
  meets
    | .binary .and, [some (.ok left)], _ => left
    | .binary .or, [some (.ok left)], _ => !left
    | .conditional, [some (.ok condition)], _ => condition
    | .conditional, [some (.ok condition), _], _ => !condition
    | _, before, _ => before.all fun outcome => outcome matches some (.ok _)
  combine
    | .literal text, _, _ => .ok (text == "true")
    | .name _, _, store => .ok (store % 2 == 0)
    | .unary .not, [some (.ok operand)], _ => .ok (!operand)
    | _, outcomes, _ => (outcomes.filterMap id).getLastD (.error ())
  effect _ store := (.ok (store % 2 == 0), store + 1)

theorem counting_same_outcome :
    counting.both (.call none none "next" [] {}) (.call none none "next" [] {}) 0 =
        ((.ok true, .ok false), 2) ∧
      Expr.sameOperand (.binary .and (.name "a" {}) (.name "b" {}) {})
        (.binary .and (.paren (.name "a" {}) {}) (.name "b" {}) {}) = true ∧
      ∀ store, ∃ outcome,
        (counting.both (.binary .and (.name "a" {}) (.name "b" {}) {})
          (.binary .and (.paren (.name "a" {}) {}) (.name "b" {}) {})).run store =
            ((outcome, outcome), store) := by
  have same : Expr.sameOperand (.binary .and (.name "a" {}) (.name "b" {}) {})
      (.binary .and (.paren (.name "a" {}) {}) (.name "b" {}) {}) = true := rfl
  refine ⟨rfl, same, fun store => ?_⟩
  obtain ⟨outcome, first, -⟩ := (counting.sameOperand_same_outcome _ _).2 same store
  exact ⟨outcome, first⟩

end Interpretation
end NullSafeEquality
