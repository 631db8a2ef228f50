import NullSafeEquality.Java.Grammar
import NullSafeEquality.Parsing.SyntaxNode

/-!
The order of the labelled parts of a construct, read off its rule. A label precedes another if the
rule can write them in this order and never in the other one. Rules that a rule refers to are not
followed, so nothing is said of labels that only these give.
-/

namespace NullSafeEquality
namespace Rule

mutual

/-- The labels that a rule gives itself. -/
def labels : Rule → List String
  | .blank | .text _ | .ref _ => []
  | .seq rules | .choice rules => labelsOfAll rules
  | .field label _ => [label]
  | .repeat1 body | .renamed _ body | .prec _ _ body | .weight _ body => labels body

def labelsOfAll : List Rule → List String
  | [] => []
  | r :: rest => labels r ++ labelsOfAll rest

end

mutual

/-- Can a rule write a part with the first label in front of one with the second? -/
def mayPrecede (a b : String) : Rule → Bool
  | .blank | .text _ | .ref _ => false
  | .seq rules => mayPrecedeInRow a b rules
  | .choice rules => mayPrecedeInSome a b rules
  | .field label _ => a == label && b == label
  | .repeat1 body => (labels body).contains a && (labels body).contains b
  | .renamed _ body | .prec _ _ body | .weight _ body => mayPrecede a b body

def mayPrecedeInRow (a b : String) : List Rule → Bool
  | [] => false
  | r :: rest =>
      mayPrecede a b r || (labels r).contains a && (labelsOfAll rest).contains b ||
        mayPrecedeInRow a b rest

def mayPrecedeInSome (a b : String) : List Rule → Bool
  | [] => false
  | r :: rest => mayPrecede a b r || mayPrecedeInSome a b rest

end

end Rule

namespace Java

/-- In the constructs of a kind the first label always stands in front of the second. -/
def precedes (kind a b : String) : Bool :=
  match grammar.definitions.lookup kind with
  | some (.rule body) => body.mayPrecede a b && !body.mayPrecede b a
  | _ => false

theorem ne_of_precedes {kind a b : String} (h : precedes kind a b = true) : a ≠ b := by
  rintro rfl
  unfold precedes at h
  split at h
  · simp at h
  · cases h

/-- The labelled children of a node stand in the order of its rule. -/
def FieldsInOrder (n : SyntaxNode) : Prop :=
  n.children.Pairwise fun c d =>
    ∀ a ∈ c.info.label, ∀ b ∈ d.info.label, precedes n.kind b a = false

instance : DecidablePred FieldsInOrder := fun n =>
  inferInstanceAs (Decidable (n.children.Pairwise fun c d =>
    ∀ a ∈ c.info.label, ∀ b ∈ d.info.label, precedes n.kind b a = false))

end Java
end NullSafeEquality
