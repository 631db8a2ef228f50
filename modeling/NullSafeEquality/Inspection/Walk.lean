import NullSafeEquality.Inspection.Diagnostic

/-!
The walk over expression trees. A recognised expression is reported and nothing below it is looked
at, so that a guarded test is reported once and not again for the call inside it. Parentheses are
never reported themselves; the expression inside them is. Findings are put at the end of a list that
grows through the whole walk.
-/

namespace NullSafeEquality
namespace Expr

/-- The finding on an expression itself, not on what is below it. -/
def ownDiagnostic? (config : InspectionConfig) : Expr → Option Diagnostic
  | paren .. => none
  | e => (recognize? config e).map (Diagnostic.ofMatch e)

mutual

/-- Put the findings in an expression at the end of those already there, outermost first and in
source order. -/
def report (config : InspectionConfig) (e : Expr) (sink : Array Diagnostic) : Array Diagnostic :=
  match ownDiagnostic? config e with
  | some d => sink.push d
  | none =>
    match e with
    | literal .. | name .. | self .. | super .. => sink
    | field object _ _ => report config object sink
    | index array i _ => report config i (report config array sink)
    | call receiver _ _ args _ => reportAll config args (reportReceiver config receiver sink)
    | new _ args _ => reportAll config args sink
    | binary _ left right _ => report config right (report config left sink)
    | unary _ operand _ | update _ operand _ => report config operand sink
    | assign _ target value _ => report config value (report config target sink)
    | conditional c t e _ => report config e (report config t (report config c sink))
    | paren inner _ => report config inner sink
    | cast _ operand _ => report config operand sink
    | unknown _ _ children _ => reportAll config children sink

def reportReceiver (config : InspectionConfig) (receiver : Option Expr)
    (sink : Array Diagnostic) : Array Diagnostic :=
  match receiver with
  | none => sink
  | some e => report config e sink

def reportAll (config : InspectionConfig) (es : List Expr)
    (sink : Array Diagnostic) : Array Diagnostic :=
  match es with
  | [] => sink
  | e :: rest => reportAll config rest (report config e sink)

end

end Expr
end NullSafeEquality
