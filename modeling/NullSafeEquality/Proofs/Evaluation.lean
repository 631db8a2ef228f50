import NullSafeEquality.Proofs.Forms

/-!
Evaluation of equality tests over references. Operands are left open: an operand with a key has a
value that only the store decides, any other may change the store and give another reference each
time it is met. On top of them the connectives, the comparisons of references and the call of the
equality method have their usual meaning, from left to right and with short circuits. Answers are
thereby functions of a start store, and a failing operand and a call on null are told apart.
-/

namespace NullSafeEquality

inductive Reference (Object : Type) where
  | null
  | object (o : Object)
deriving DecidableEq

/-- Why an evaluation ends without an answer. -/
inductive Stop where
  /-- An operand has no value. -/
  | failure
  /-- The equality method is called on null. -/
  | nullDereference
  /-- The expression is not a test. -/
  | noTest
deriving DecidableEq

/-- Values of operands and the equality method of objects. The method may say anything of null and
of other objects, but must find each object equal to itself. -/
structure Valuation (Object : Type) (Store : Type) where
  read : OperandKey → Store → Option (Reference Object)
  run : Expr → Store → Option (Reference Object × Store)
  equals : Object → Reference Object → Bool
  read_null : ∀ store, read (.literal "null") store = some .null
  equals_self : ∀ o, equals o (.object o) = true

abbrev Evaluation (Store : Type) := StateT Store (Except Stop)

namespace Polarity

/-- The answer of a test of this polarity, given whether its operands are equal. -/
def answer : Polarity → Bool → Bool
  | .equals, equal => equal
  | .notEquals, equal => !equal

theorem answer_ofNegated (negated equal : Bool) :
    (ofNegated negated).answer equal = (equal ^^ negated) := by
  cases negated <;> cases equal <;> rfl

end Polarity

namespace Expr

/-- Each literal of the tree is the null literal exactly if it is written so. -/
def NullAsWritten (e : Expr) : Prop :=
  ∀ kind text span, literal kind text span ∈ e.nodes → (kind = .null ↔ text = "null")

theorem nullAsWritten_of_mem_children {e c : Expr} (written : e.NullAsWritten)
    (h : c ∈ e.children) : c.NullAsWritten :=
  fun kind text span hx => written kind text span (mem_nodes_of_mem_children h hx)

theorem nullAsWritten_stripParens {e : Expr} (written : e.NullAsWritten) :
    e.stripParens.NullAsWritten := by
  fun_induction stripParens e with
  | case1 inner span ih =>
      exact ih (nullAsWritten_of_mem_children written (List.mem_singleton.mpr rfl))
  | case2 e _ => exact written

end Expr

namespace Valuation

variable {Object : Type} {Store : Type} (V : Valuation Object Store)

/-- The value of a key, which leaves the store alone. -/
def reading (key : OperandKey) : Evaluation Store (Reference Object) := fun store =>
  match V.read key store with
  | some value => .ok (value, store)
  | none => .error .failure

def operand (e : Expr) : Evaluation Store (Reference Object) :=
  match e.key? with
  | some key => V.reading key
  | none => fun store =>
      match V.run e.stripParens store with
      | some result => .ok result
      | none => .error .failure

theorem operand_of_key? {e : Expr} {key : OperandKey} (h : e.key? = some key) :
    V.operand e = V.reading key := by
  simp only [operand, h]

@[simp] theorem operand_stripParens (e : Expr) : V.operand e.stripParens = V.operand e := by
  simp only [operand, Expr.key?_stripParens, Expr.stripParens_stripParens]

theorem operand_eq_of_sameOperand {a b : Expr} (h : a.sameOperand b = true) :
    V.operand a = V.operand b := by
  obtain ⟨key, ha, hb⟩ := (Expr.sameOperand_iff a b).mp h
  rw [V.operand_of_key? ha, V.operand_of_key? hb]

theorem operand_of_isNull {e : Expr} (h : e.IsNull) (written : e.NullAsWritten) :
    V.operand e = pure .null := by
  obtain ⟨text, span, shape⟩ := h
  have spelled : text = "null" :=
    (written .null text span (shape ▸ Expr.stripParens_mem_nodes e)).mp rfl
  have key : (Expr.literal .null "null" span).key? = some (.literal "null") := rfl
  rw [← operand_stripParens, shape, spelled, V.operand_of_key? key]
  funext store
  simp only [reading, V.read_null]
  rfl

/-- Call the equality method. Its argument has been evaluated before its receiver is looked at. -/
def invoke (receiver argument : Reference Object) : Evaluation Store Bool :=
  match receiver with
  | .null => throw .nullDereference
  | .object o => pure (V.equals o argument)

@[simp] theorem invoke_null (argument : Reference Object) :
    V.invoke .null argument = throw .nullDereference := rfl

@[simp] theorem invoke_object (o : Object) (argument : Reference Object) :
    V.invoke (.object o) argument = pure (V.equals o argument) := rfl

variable [DecidableEq Object]

def test : Expr → Evaluation Store Bool
  | .paren inner _ => test inner
  | .unary .not e _ => do return !(← test e)
  | .binary .and a b _ => do if ← test a then test b else return false
  | .binary .or a b _ => do if ← test a then return true else test b
  | .binary .eq a b _ => do return decide ((← V.operand a) = (← V.operand b))
  | .binary .ne a b _ => do return !decide ((← V.operand a) = (← V.operand b))
  | .conditional c t f _ => do if ← test c then test t else test f
  | .call (some receiver) _ method [argument] _ => do
      if method = "equals" then V.invoke (← V.operand receiver) (← V.operand argument)
      else throw .noTest
  | _ => throw .noTest

/-- Null-safe equality of references: the same one, or an object that finds the other equal. -/
def nullSafe (a b : Reference Object) : Bool :=
  a = b || match a with
    | .null => false
    | .object o => V.equals o b

/-- Evaluation of the null-safe call on two operands, or of its negation. -/
def nullSafeCall (p : Polarity) (l r : Expr) : Evaluation Store Bool := do
  let a ← V.operand l
  let b ← V.operand r
  return p.answer (V.nullSafe a b)

@[simp] theorem nullSafe_self (a : Reference Object) : V.nullSafe a a = true := by
  simp [nullSafe]

@[simp] theorem nullSafe_null (b : Reference Object) : V.nullSafe .null b = decide (b = .null) := by
  simp [nullSafe, eq_comm]

/-- Asking an object first whether it is the other one makes no difference. -/
@[simp] theorem nullSafe_object (o : Object) (b : Reference Object) :
    V.nullSafe (.object o) b = V.equals o b := by
  by_cases h : .object o = b
  · simp [nullSafe, ← h, V.equals_self]
  · simp [nullSafe, h]

@[simp] theorem test_stripParens (e : Expr) : V.test e.stripParens = V.test e := by
  fun_induction Expr.stripParens e with
  | case1 inner span ih => rw [ih, test]
  | case2 e _ => rfl

end Valuation
end NullSafeEquality
