import NullSafeEquality.Expr.Basic

/-!
Text of expressions. One blank stands on each side of an operator between operands, none after an
operator in front of its operand; parentheses are written where the tree has them and nowhere else.
-/

namespace NullSafeEquality
namespace Expr

mutual

def render : Expr → String
  | literal _ text _ => text
  | name n _ => n
  | self none _ => "this"
  | self (some q) _ => q ++ ".this"
  | super none _ => "super"
  | super (some q) _ => q ++ ".super"
  | field object f _ => render object ++ "." ++ f
  | index array i _ => render array ++ "[" ++ render i ++ "]"
  | call receiver typeArgs method args _ =>
      renderReceiver receiver ++ typeArgs.getD "" ++ method ++ "(" ++ renderArgs args ++ ")"
  | new className args _ => "new " ++ className ++ "(" ++ renderArgs args ++ ")"
  | binary op left right _ => render left ++ " " ++ op.token ++ " " ++ render right
  | unary op operand _ => op.token ++ render operand
  | update .preInc operand _ => "++" ++ render operand
  | update .preDec operand _ => "--" ++ render operand
  | update .postInc operand _ => render operand ++ "++"
  | update .postDec operand _ => render operand ++ "--"
  | assign op target value _ => render target ++ " " ++ op ++ " " ++ render value
  | conditional condition thenBranch elseBranch _ =>
      render condition ++ " ? " ++ render thenBranch ++ " : " ++ render elseBranch
  | paren inner _ => "(" ++ render inner ++ ")"
  | cast targetType operand _ => "(" ++ targetType ++ ") " ++ render operand
  | unknown _ text _ _ => text

/-- The receiver of a call and the dot after it. -/
def renderReceiver : Option Expr → String
  | none => ""
  | some receiver => render receiver ++ "."

/-- Arguments, separated by a comma and a blank. -/
def renderArgs : List Expr → String
  | [] => ""
  | arg :: rest => render arg ++ renderMoreArgs rest

def renderMoreArgs : List Expr → String
  | [] => ""
  | arg :: rest => ", " ++ render arg ++ renderMoreArgs rest

end

end Expr
end NullSafeEquality
