import NullSafeEquality.Expr.Render
import NullSafeEquality.Proofs.Nodes
import NullSafeEquality.Text.IdentifierChars

/-!
Reading the text of an expression back. The expressions are accesses by name, by index and in
parentheses, with signs, increments and decrements around them. A reader goes over the text once and
holds what is begun on a stack. It finds the expression again, except that it takes an increment or
decrement in front of its operand for two signs.
-/

namespace NullSafeEquality
namespace Expr

mutual

/-- An expression without places. -/
@[simp] def placeless : Expr → Expr
  | literal kind text _ => literal kind text {}
  | name n _ => name n {}
  | self q _ => self q {}
  | super q _ => super q {}
  | field object f _ => field (placeless object) f {}
  | index array i _ => index (placeless array) (placeless i) {}
  | call receiver typeArgs method args _ =>
      call (placelessReceiver receiver) typeArgs method (placelessAll args) {}
  | new className args _ => new className (placelessAll args) {}
  | binary op left right _ => binary op (placeless left) (placeless right) {}
  | unary op operand _ => unary op (placeless operand) {}
  | update op operand _ => update op (placeless operand) {}
  | assign op target value _ => assign op (placeless target) (placeless value) {}
  | conditional c t e _ => conditional (placeless c) (placeless t) (placeless e) {}
  | paren inner _ => paren (placeless inner) {}
  | cast targetType operand _ => cast targetType (placeless operand) {}
  | unknown kind text children _ => unknown kind text (placelessAll children) {}

def placelessReceiver : Option Expr → Option Expr
  | none => none
  | some receiver => some (placeless receiver)

def placelessAll : List Expr → List Expr
  | [] => []
  | e :: rest => placeless e :: placelessAll rest

end

/-- The characters besides words with which accesses and signs are written. -/
def marks : List Char := ['.', '[', ']', '(', ')', '+', '-', '!', '~']

/-- A text that may stand as a name: it is not empty, it is not the word for the current object, and
it has no marks. -/
def IsWord (text : String) : Prop :=
  text ≠ "" ∧ text ≠ "this" ∧ ∀ c ∈ text.toList, c ∉ marks

/-- Does the expression begin with a sign, or is it an increment or decrement? -/
@[simp] def isSigned : Expr → Bool
  | unary .. | update .. => true
  | _ => false

/-- An operand: an access, that with one sign or more in front, or the increment or decrement of an
access. The accesses are the operands that are not signed. -/
@[simp] def Shaped : Expr → Prop
  | name n _ => IsWord n
  | self q _ => q = none
  | field object f _ => Shaped object ∧ object.isSigned = false ∧ IsWord f
  | index array i _ => Shaped array ∧ array.isSigned = false ∧ Shaped i
  | paren inner _ => Shaped inner
  | unary _ operand _ => Shaped operand
  | update _ operand _ => Shaped operand ∧ operand.isSigned = false
  | _ => False

/-- An operand with two signs for each increment or decrement in front. -/
@[simp] def spelledOut : Expr → Expr
  | field object f s => field (spelledOut object) f s
  | index array i s => index (spelledOut array) (spelledOut i) s
  | paren inner s => paren (spelledOut inner) s
  | unary op operand s => unary op (spelledOut operand) s
  | update .preInc operand s => unary .plus (unary .plus (spelledOut operand) s) s
  | update .preDec operand s => unary .neg (unary .neg (spelledOut operand) s) s
  | update .postInc operand s => update .postInc (spelledOut operand) s
  | update .postDec operand s => update .postDec (spelledOut operand) s
  | e => e

/-- Whatever the grammar takes for an identifier is a word. -/
theorem isWord_of_identifier {text : String} {c : Char} {rest : List Char}
    (shape : text.toList = c :: rest) (first : Text.isIdentifierStart c = true)
    (later : ∀ d ∈ rest, Text.isIdentifierPart d = true) (notThis : text ≠ "this") :
    IsWord text := by
  have noMark : marks.all (fun d => !Text.isIdentifierPart d) = true := by decide
  have part : ∀ d ∈ text.toList, Text.isIdentifierPart d = true := by
    rw [shape]
    refine List.forall_mem_cons.mpr ⟨?_, later⟩
    simp only [Text.isIdentifierPart, first, Bool.true_or]
  refine ⟨?_, notThis, fun d hd mark => ?_⟩
  · rintro rfl
    cases shape
  · exact absurd (part d hd) (by simpa using List.all_eq_true.mp noMark d mark)

end Expr

/-! The reader -/

namespace Readback

open NullSafeEquality.Expr

/-- What is begun and goes on behind an operand. -/
inductive Frame where
  | sign (op : UnaryOp)
  | index (array : Expr)
  | paren

/-- What is known of a text up to a character. -/
inductive State where
  /-- A word may begin or go on, behind an object if there is one. The latest letter is first. -/
  | word (frames : List Frame) (object : Option Expr) (letters : List Char)
  | whole (frames : List Frame) (e : Expr)
  /-- Behind an access one sign of an increment or decrement was read. -/
  | half (frames : List Frame) (e : Expr) (sign : Char)
  | lost

def signOf? : Char → Option UnaryOp
  | '-' => some .neg
  | '+' => some .plus
  | '!' => some .not
  | '~' => some .bitNot
  | _ => none

/-- The access that ends with a word. -/
def named (object : Option Expr) (text : String) : Expr :=
  match object with
  | some e => field e text {}
  | none => if text = "this" then self none {} else name text {}

/-- A word ends where it has letters. -/
def settle : State → State
  | .word frames object (c :: letters) =>
      .whole frames (named object (String.ofList (c :: letters).reverse))
  | state => state

/-- Put the signs around an operand that were begun last. -/
def close : List Frame → Expr → List Frame × Expr
  | .sign op :: rest, e => close rest (unary op e {})
  | frames, e => (frames, e)

/-- Read a mark behind a word that has ended. -/
def mark : State → Char → State
  | .word frames none [], c =>
      if c = '(' then .word (.paren :: frames) none []
      else match signOf? c with
        | some op => .word (.sign op :: frames) none []
        | none => .lost
  | .whole frames e, '.' => .word frames (some e) []
  | .whole frames e, '[' => .word (.index e :: frames) none []
  | .whole frames e, ']' =>
      match close frames e with
      | (.index array :: rest, i) => .whole rest (index array i {})
      | _ => .lost
  | .whole frames e, ')' =>
      match close frames e with
      | (.paren :: rest, inner) => .whole rest (paren inner {})
      | _ => .lost
  | .whole frames e, '+' => .half frames e '+'
  | .whole frames e, '-' => .half frames e '-'
  | .half frames e '+', '+' => .whole frames (update .postInc e {})
  | .half frames e '-', '-' => .whole frames (update .postDec e {})
  | _, _ => .lost

def letter : State → Char → State
  | .word frames object letters, c => .word frames object (c :: letters)
  | _, _ => .lost

def step (state : State) (c : Char) : State :=
  if c ∈ marks then mark (settle state) c else letter state c

/-- Read a text behind another. -/
def run (state : State) (text : String) : State :=
  text.toList.foldl step state

/-- Read a text as an operand. -/
def read? (text : String) : Option Expr :=
  match settle (run (.word [] none []) text) with
  | .whole frames e =>
      match close frames e with
      | ([], e) => some e
      | _ => none
  | _ => none

/-- An operand with signs around it, the innermost first. -/
def signed : List UnaryOp → Expr → Expr
  | [], e => e
  | op :: rest, e => signed rest (unary op e {})

theorem signed_append (ops others : List UnaryOp) (e : Expr) :
    signed (ops ++ others) e = signed others (signed ops e) := by
  induction ops generalizing e with
  | nil => rfl
  | cons op ops ih => exact ih (unary op e {})

theorem close_signs (ops : List UnaryOp) (frames : List Frame) (e : Expr) :
    close (ops.map .sign ++ frames) e = close frames (signed ops e) := by
  induction ops generalizing e with
  | nil => rfl
  | cons op ops ih => exact ih (unary op e {})

theorem run_append (state : State) (front back : String) :
    run state (front ++ back) = run (run state front) back := by
  rw [run, String.toList_append, List.foldl_append, run, run]

theorem run_mark {state : State} (text : String) (c : Char) (h : text.toList = [c])
    (mem : c ∈ marks) : run state text = mark (settle state) c := by
  rw [run, h, List.foldl_cons, List.foldl_nil, step, if_pos mem]

theorem run_mark_twice {state : State} (text : String) (c : Char) (h : text.toList = [c, c])
    (mem : c ∈ marks) : run state text = mark (settle (mark (settle state) c)) c := by
  rw [run, h, List.foldl_cons, List.foldl_cons, List.foldl_nil, step, step, if_pos mem, if_pos mem]

theorem run_letters {text : String} (h : ∀ c ∈ text.toList, c ∉ marks) (frames : List Frame)
    (object : Option Expr) :
    run (.word frames object []) text = .word frames object text.toList.reverse := by
  have goOn (cs letters : List Char) (h : ∀ c ∈ cs, c ∉ marks) :
      cs.foldl step (.word frames object letters) =
        .word frames object (cs.reverse ++ letters) := by
    induction cs generalizing letters with
    | nil => rfl
    | cons c cs ih =>
        obtain ⟨here, later⟩ := List.forall_mem_cons.mp h
        rw [List.foldl_cons, step, if_neg here, letter, ih _ later, List.reverse_cons,
          List.append_assoc]
        rfl
  rw [run, goOn _ _ h, List.append_nil]

/-- A text without marks is read to its end as one word. -/
theorem settle_run_letters {text : String} (ne : text ≠ "") (h : ∀ c ∈ text.toList, c ∉ marks)
    (frames : List Frame) (object : Option Expr) :
    settle (run (.word frames object []) text) = .whole frames (named object text) := by
  rw [run_letters h]
  cases letters : text.toList.reverse with
  | nil => exact absurd (String.toList_eq_nil_iff.mp (List.reverse_eq_nil_iff.mp letters)) ne
  | cons c rest => rw [settle, ← letters, List.reverse_reverse, String.ofList_toList]

theorem settle_run_isWord {text : String} (h : IsWord text) (frames : List Frame)
    (object : Option Expr) :
    settle (run (.word frames object []) text) = .whole frames (named object text) :=
  settle_run_letters h.1 h.2.2 frames object

/-- A sign in front of an operand is written with one mark. -/
theorem run_token (op : UnaryOp) (frames : List Frame) :
    run (.word frames none []) op.token = .word (.sign op :: frames) none [] := by
  cases op <;> rfl

/-- The state behind the text of an operand: the signs in front of it are begun, and the rest of it
is whole. -/
def Reads (frames : List Frame) (e : Expr) (state : State) : Prop :=
  ∃ ops core, settle state = .whole (ops.map .sign ++ frames) core ∧
    signed ops core = e.spelledOut.placeless ∧ (e.isSigned = false → ops = [])

theorem Reads.of_whole {frames : List Frame} {e : Expr} {state : State}
    (h : settle state = .whole frames e.spelledOut.placeless) : Reads frames e state :=
  ⟨[], _, h, rfl, fun _ => rfl⟩

theorem Reads.whole {frames : List Frame} {e : Expr} {state : State} (h : Reads frames e state)
    (unsigned : e.isSigned = false) : settle state = .whole frames e.spelledOut.placeless := by
  obtain ⟨ops, core, settled, same, none⟩ := h
  cases none unsigned
  exact same ▸ settled

/-- Behind an operand what was begun in front of it is closed. -/
theorem Reads.close {frames : List Frame} {e : Expr} {state : State} (h : Reads frames e state) :
    ∃ all core, settle state = .whole all core ∧
      Readback.close all core = Readback.close frames e.spelledOut.placeless := by
  obtain ⟨ops, core, settled, same, -⟩ := h
  exact ⟨_, core, settled, same ▸ close_signs ops frames core⟩

/-- A sign in front of an operand belongs to it, and so do two for an increment or decrement. -/
theorem Reads.sign {frames : List Frame} {op : UnaryOp} {e : Expr} {state : State}
    (h : Reads (.sign op :: frames) e state) (outer : Expr)
    (written : outer.spelledOut.placeless = unary op e.spelledOut.placeless {})
    (isSigned : outer.isSigned = true) : Reads frames outer state := by
  obtain ⟨ops, core, settled, same, -⟩ := h
  refine ⟨ops ++ [op], core, ?_, ?_, fun h => absurd (isSigned.symm.trans h) nofun⟩
  · rw [settled, List.map_append, List.append_assoc]
    rfl
  · rw [signed_append, same, written]
    rfl

/-- The text of an operand is read to its end. The statement leaves open what was begun in front of
it, so that it holds for the operands inside brackets as well. -/
theorem reads_render {e : Expr} (h : e.Shaped) (frames : List Frame) :
    Reads frames e (run (.word frames none []) e.render) := by
  induction e using childrenInduction generalizing frames with
  | node e ih =>
      cases e with
      | literal _ _ _ | super _ _ | call _ _ _ _ _ | new _ _ _ | binary _ _ _ _ | assign _ _ _ _
      | conditional _ _ _ _ | cast _ _ _ | unknown _ _ _ _ => exact h.elim
      | name n s =>
          refine .of_whole ?_
          rw [render, settle_run_isWord h, named, if_neg h.2.1]
          rfl
      | self q s =>
          cases h
          refine .of_whole ?_
          rw [render, settle_run_letters (by decide) (by simp [marks]), named, if_pos rfl]
          rfl
      | field object f s =>
          obtain ⟨shaped, unsigned, word⟩ := h
          have front := (ih object (by simp [children]) shaped frames).whole unsigned
          refine .of_whole ?_
          rw [render, run_append, run_append, run_mark "." '.' rfl (by decide), front, mark,
            settle_run_isWord word, named]
          rfl
      | index array i s =>
          obtain ⟨shaped, unsigned, inner⟩ := h
          have front := (ih array (by simp [children]) shaped frames).whole unsigned
          obtain ⟨all, core, settled, closed⟩ := (ih i (by simp [children]) inner
            (.index array.spelledOut.placeless :: frames)).close
          refine .of_whole ?_
          rw [render, run_append, run_append, run_append, run_mark "]" ']' rfl (by decide),
            run_mark "[" '[' rfl (by decide), front, mark, settled, mark, closed]
          rfl
      | paren inner s =>
          obtain ⟨all, core, settled, closed⟩ := (ih inner (by simp [children]) h
            (.paren :: frames)).close
          have opened : run (.word frames none []) "(" = .word (.paren :: frames) none [] := rfl
          refine .of_whole ?_
          rw [render, run_append, run_append, run_mark ")" ')' rfl (by decide), opened, settled,
            mark, closed]
          rfl
      | unary op operand s =>
          rw [render, run_append, run_token]
          exact (ih operand (by simp [children]) h (.sign op :: frames)).sign _ rfl rfl
      | update op operand s =>
          obtain ⟨shaped, unsigned⟩ := h
          have operandReads := ih operand (by simp [children]) shaped
          cases op with
          | preInc =>
              rw [render, run_append]
              have inner := (operandReads (.sign .plus :: .sign .plus :: frames)).sign
                (unary .plus operand s) rfl rfl
              exact inner.sign _ rfl rfl
          | preDec =>
              rw [render, run_append]
              have inner := (operandReads (.sign .neg :: .sign .neg :: frames)).sign
                (unary .neg operand s) rfl rfl
              exact inner.sign _ rfl rfl
          | postInc =>
              refine .of_whole ?_
              rw [render, run_append, run_mark_twice "++" '+' rfl (by decide),
                (operandReads frames).whole unsigned]
              rfl
          | postDec =>
              refine .of_whole ?_
              rw [render, run_append, run_mark_twice "--" '-' rfl (by decide),
                (operandReads frames).whole unsigned]
              rfl

/-- The text of an operand is read as the operand, with two signs for each increment or decrement in
front of its operand. -/
theorem read?_render {e : Expr} (h : e.Shaped) : read? e.render = some e.spelledOut.placeless := by
  obtain ⟨all, core, settled, closed⟩ := (reads_render h []).close
  have bare : close [] e.spelledOut.placeless = ([], e.spelledOut.placeless) := rfl
  rw [read?, settled]
  simp only [closed, bare]

end Readback
end NullSafeEquality
