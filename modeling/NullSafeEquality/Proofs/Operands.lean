import NullSafeEquality.Proofs.Hazards
import NullSafeEquality.Proofs.Origin

/-!
The operands of a match in the concrete tree. A match takes its operands from the receiver and the
argument of a call of the equality method; they are the conversions of the nodes that stand there
without the parentheses around them.
-/

namespace NullSafeEquality
namespace Java

open SyntaxNode

/-- The second node is the first without the parentheses around it. -/
inductive WithoutParens : SyntaxNode → SyntaxNode → Prop where
  | plain {n} : n.kind ≠ "parenthesized_expression" → WithoutParens n n
  | paren {n inner m} : n.kind = "parenthesized_expression" →
      (n.children.find? fun c => isPart c.info) = some inner → WithoutParens inner m →
      WithoutParens n m

/-- The node calls the equality method of the left node on the right one, where parentheses around
the operands do not count. -/
structure CallsEquals (src : Source) (call left right : SyntaxNode) : Prop where
  kind : call.kind = "method_invocation"
  name : labelledText? src "name" call.children = some "equals"
  receiver : ∃ object, labelled? "object" call.children = some object ∧ WithoutParens object left
  argument : ∃ list c, labelled? "arguments" call.children = some list ∧
    (list.children.filter fun c => isPart c.info) = [c] ∧ WithoutParens c right

variable {src : Source} {n c : SyntaxNode}

theorem exists_paren_of_kind (kind : n.kind = "parenthesized_expression")
    (known : (convert src n).isUnknown = false) :
    ∃ inner, (n.children.find? fun c => isPart c.info) = some inner ∧
      convert src n = .paren (convert src inner) (n.span src) := by
  obtain ⟨info, children⟩ := n
  replace kind : info.kind = "parenthesized_expression" := kind
  cases found : children.find? fun c => isPart c.info with
  | none =>
      simp only [convert, kind, convertFirst_eq_map, found, Option.map_none] at known
      cases known
  | some inner =>
      refine ⟨inner, found, ?_⟩
      simp only [convert, kind, convertFirst_eq_map, found, Option.map_some]
      rfl

theorem stripParens_of_kind (kind : n.kind ≠ "parenthesized_expression") :
    (convert src n).stripParens = convert src n := by
  have conv := conversion_of src n
  generalize convert src n = e at conv
  cases conv with
  | paren same _ => exact (kind same).elim
  | _ => rfl

/-- Parentheses are taken off the expression as they are off the node. -/
theorem exists_withoutParens (n : SyntaxNode) (known : (convert src n).containsUnknown = false) :
    ∃ m, WithoutParens n m ∧ ConvertedWithin src n m ∧
      (convert src n).stripParens = convert src m := by
  induction n using belowInduction with
  | node n ih =>
      by_cases kind : n.kind = "parenthesized_expression"
      · have here := (Expr.containsUnknown_eq_false_iff _).mp known _ (Expr.self_mem_nodes _)
        obtain ⟨inner, found, same⟩ := exists_paren_of_kind kind here
        obtain ⟨i, picked, hi⟩ := exists_mem_firstPlace found
        have hInner : n.at? [i] = some inner := at?_cons_eq_some_iff.mpr ⟨inner, hi, at?_nil inner⟩
        have pick : [i] ∈ picks n.children (convert src n) := by
          rw [same]
          exact picked
        rw [same, Expr.containsUnknown] at known
        obtain ⟨m, without, within, stripped⟩ := ih [i] inner (List.cons_ne_nil i []) hInner known
        refine ⟨m, .paren kind found without, (ConvertedWithin.of_pick pick hInner).trans within, ?_⟩
        rw [same, Expr.stripParens, stripped]
      · exact ⟨n, .plain kind, .refl n, stripParens_of_kind kind⟩

theorem call_of_convert {receiver : Option Expr} {typeArgs : Option String} {name : String}
    {args : List Expr} {span : Span} (h : convert src n = .call receiver typeArgs name args span) :
    n.kind = "method_invocation" ∧ labelledText? src "name" n.children = some name ∧
      receiver = (labelled? "object" n.children).map (convert src) ∧
      args = ((labelled? "arguments" n.children).elim [] fun list =>
        list.children.filter fun c => isPart c.info).map (convert src) := by
  have conv := conversion_of src n
  rw [h] at conv
  cases conv with
  | call kind hName => exact ⟨kind, by rw [labelledText?, hName, Option.map_some], rfl, rfl⟩

/-- A call of the equality method was converted from one, and its operands from those of the node. -/
theorem exists_callsEquals_of_convert {l r : Expr} (calls : Expr.CallsEquals (convert src n) l r)
    (left : l.containsUnknown = false) (right : r.containsUnknown = false) :
    ∃ left right, CallsEquals src n left right ∧ ConvertedWithin src n left ∧
      ConvertedWithin src n right ∧ l = convert src left ∧ r = convert src right := by
  generalize same : convert src n = e at calls
  obtain ⟨receiver, typeArgs, argument, span⟩ := calls
  rw [Expr.containsUnknown_stripParens] at left right
  obtain ⟨kind, name, hReceiver, hArgument⟩ := call_of_convert same
  obtain ⟨object, hObject, rfl⟩ := Option.map_eq_some_iff.mp hReceiver.symm
  obtain ⟨c, hc, rfl⟩ := List.map_eq_singleton_iff.mp hArgument.symm
  have picked : picks n.children (convert src n) =
      firstPlace (hasLabel "object") n.children ++ argumentPlaces n.children := by rw [same]; rfl
  obtain ⟨l, bareLeft, withinLeft, strippedLeft⟩ := exists_withoutParens object left
  obtain ⟨r, bareRight, withinRight, strippedRight⟩ := exists_withoutParens c right
  have toObject : ConvertedWithin src n object := by
    obtain ⟨i, place, hi⟩ := exists_mem_firstPlace hObject
    refine .of_pick ?_ (at?_cons_eq_some_iff.mpr ⟨object, hi, at?_nil object⟩)
    rw [picked]
    exact List.mem_append_left _ place
  cases hList : labelled? "arguments" n.children with
  | none =>
      rw [hList] at hc
      cases hc
  | some list =>
      rw [hList, Option.elim_some] at hc
      have part : c ∈ list.children.filter fun c => isPart c.info := by
        rw [hc]
        exact List.mem_singleton.mpr rfl
      obtain ⟨mem, named⟩ := List.mem_filter.mp part
      have toArgument : ConvertedWithin src n c := by
        obtain ⟨i, j, place, hi, hj⟩ := exists_mem_argumentPlaces hList mem named
        refine .of_pick ?_ (at?_cons_eq_some_iff.mpr
          ⟨list, hi, at?_cons_eq_some_iff.mpr ⟨c, hj, at?_nil c⟩⟩)
        rw [picked]
        exact List.mem_append_right _ place
      exact ⟨l, r, ⟨kind, name, ⟨object, hObject, bareLeft⟩, list, c, hList, hc, bareRight⟩,
        toObject.trans withinLeft, toArgument.trans withinRight, strippedLeft, strippedRight⟩

theorem ConvertedWithin.understood (within : ConvertedWithin src n c)
    (known : (convert src n).containsUnknown = false) :
    (convert src c).containsUnknown = false := by
  obtain ⟨path, p, hp, hc⟩ := within
  refine (Expr.containsUnknown_eq_false_iff _).mpr fun x hx => ?_
  obtain ⟨further, hx⟩ := Expr.exists_at?_of_mem_nodes hx
  have placed : (convert src n).at? (path ++ further) = some x := by
    rw [Expr.at?_append, at?_convert, hp, Option.bind_some, hc, Option.map_some, Option.bind_some, hx]
  exact Expr.isUnknown_eq_false_of_at? known placed

/-- The operands of a match are those of a call in the matched node. -/
theorem exists_callsEquals_of_recognized {config : InspectionConfig} {m : EqualsMatch}
    (h : Expr.recognize? config (convert src n) = some m) :
    ∃ call left right, ConvertedWithin src n call ∧ CallsEquals src call left right ∧
      ConvertedWithin src n left ∧ ConvertedWithin src n right ∧ m.left = convert src left ∧
      m.right = convert src right := by
  obtain ⟨-, left, right, -⟩ := (Expr.recognize?_eq_some_iff_form? config _ m).mp h
  obtain ⟨place, e, he, calls⟩ := Expr.exists_call_of_recognized h
  rw [at?_convert] at he
  obtain ⟨p, hp, converted⟩ := Option.bind_eq_some_iff.mp he
  obtain ⟨call, hCall, rfl⟩ := Option.map_eq_some_iff.mp converted
  have within : ConvertedWithin src n call := ⟨place, p, hp, hCall⟩
  obtain ⟨l, r, found, hl, hr, sameLeft, sameRight⟩ := exists_callsEquals_of_convert calls left right
  exact ⟨call, l, r, within, found, within.trans hl, within.trans hr, sameLeft, sameRight⟩

end Java
end NullSafeEquality
