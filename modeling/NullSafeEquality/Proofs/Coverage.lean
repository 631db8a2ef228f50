import NullSafeEquality.Proofs.Constructs
import NullSafeEquality.Proofs.Derivability
import NullSafeEquality.Proofs.Origin

/-!
Which nodes are converted. The conversion of a construct picks some of its parts and omits the
others: types, type arguments, the qualifier of a qualified word, the inside of string literals that
are operands, and whatever a creation has besides its arguments. Every compound node that is in no
omitted part is converted.
-/

namespace NullSafeEquality
namespace Java

open Grammar SyntaxNode

/-- Kinds of nodes whose operands stand among their children. -/
def operandKinds : List String :=
  ["parenthesized_expression", "field_access", "array_access", "method_invocation",
   "binary_expression", "unary_expression", "update_expression", "assignment_expression",
   "ternary_expression", "cast_expression"]

/-- A creation that is no declaration of a class without a name. -/
def IsPlainCreation (n : SyntaxNode) : Prop :=
  n.kind = "object_creation_expression" ∧ ∀ c ∈ n.children, c.kind ≠ "class_body"

/-- The place of a part that the conversion of a node does not go into. Of most such parts the text is
kept: of the first type of a cast, the type arguments of a call, the qualifier of a qualified word,
the type of a creation, and a string literal. The other types of a cast are dropped, and so is what
else a creation has besides its arguments: the outer object, annotations, and type arguments of the
constructor. -/
inductive Omits (n : SyntaxNode) : List Nat → Prop where
  | castType {i c} : n.kind = "cast_expression" → n.children[i]? = some c →
      c.info.label = some "type" → Omits n [i]
  | typeArguments {i c} : n.kind = "method_invocation" → n.children[i]? = some c →
      c.info.label = some "type_arguments" → Omits n [i]
  | qualifier {i c word} : n.kind = "field_access" → n.children[i]? = some c →
      c.info.label = some "object" → labelled? "field" n.children = some word →
      word.kind = "this" ∨ word.kind = "super" → Omits n [i]
  | creation {i c} : IsPlainCreation n → n.children[i]? = some c →
      c.info.label ≠ some "arguments" → Omits n [i]
  | literal {i c} : n.kind ∈ operandKinds → n.children[i]? = some c →
      c.kind = "string_literal" → Omits n [i]
  | argument {i j list c} : n.kind = "method_invocation" ∨ IsPlainCreation n →
      n.children[i]? = some list → list.info.label = some "arguments" →
      list.children[j]? = some c → c.kind = "string_literal" → Omits n [i, j]

/-- The place is that of an omitted part or below it. -/
def Omitted (tree : SyntaxNode) (path : List Nat) : Prop :=
  ∃ above place below n, path = above ++ place ++ below ∧ tree.at? above = some n ∧
    Omits n place

theorem not_omitted_of_at? {n c : SyntaxNode} {above path : List Nat}
    (clear : ¬ Omitted n (above ++ path)) (h : n.at? above = some c) : ¬ Omitted c path := by
  rintro ⟨before, place, below, m, rfl, hm, omits⟩
  refine clear ⟨above ++ before, place, below, m, ?_, (at?_append_of_at? h before).trans hm, omits⟩
  simp only [List.append_assoc]

theorem not_omits_of_not_omitted {n : SyntaxNode} {i : Nat} {path : List Nat}
    (clear : ¬ Omitted n (i :: path)) : ¬ Omits n [i] :=
  fun omits => clear ⟨[], [i], path, n, rfl, at?_nil n, omits⟩

/-- A compound node stands at the node or below it. -/
def Leads (n : SyntaxNode) : Prop := ∃ path m, n.at? path = some m ∧ isCompound m.kind = true

variable {src : Source} {n c : SyntaxNode}

theorem not_leads_of_leaf (leaf : c.children = []) (kind : isCompound c.kind = false) :
    ¬ Leads c := by
  rintro ⟨path, m, hm, compound⟩
  cases path with
  | nil =>
      cases hm
      cases kind.symm.trans compound
  | cons i path =>
      obtain ⟨d, hd, -⟩ := at?_cons_eq_some_iff.mp hm
      rw [leaf] at hd
      cases hd

theorem isCompound_eq_false_of_isToken {kind : String} (h : grammar.isToken kind = true) :
    isCompound kind = false := by
  have none : (compoundKinds.all fun kind => !grammar.isToken kind) = true := by decide +kernel
  refine Bool.eq_false_iff.mpr fun compound => ?_
  have absent := List.all_eq_true.mp none kind (List.contains_iff_mem.mp compound)
  rw [h] at absent
  cases absent

theorem not_leads_of_isWord {label : Option String} (h : IsWord grammar label c) : ¬ Leads c :=
  not_leads_of_leaf h.leaf (isCompound_eq_false_of_isToken h.kind)

theorem not_leads_of_isExtra (h : IsExtra grammar src c) : ¬ Leads c := by
  obtain ⟨token, found, -⟩ := h.token
  refine not_leads_of_leaf h.leaf (isCompound_eq_false_of_isToken ?_)
  rw [isToken, found]

theorem not_leads_of_isText {label : Option String} {token : String} (grown : Grown src c)
    (h : IsText src label token c) : ¬ Leads c := by
  obtain ⟨leaf, kind⟩ := leaf_of_unnamed grown h.fits.named
  exact not_leads_of_leaf leaf kind

theorem findIdx?_eq_of_once {accepts : SyntaxNode → Bool} {nodes : List SyntaxNode} {i : Nat}
    (once : nodes.countP accepts ≤ 1) (hc : nodes[i]? = some c) (h : accepts c = true) :
    nodes.findIdx? accepts = some i := by
  induction nodes generalizing i with
  | nil => cases hc
  | cons n rest ih =>
      cases i with
      | zero =>
          cases hc
          rw [List.findIdx?_cons, h]
          rfl
      | succ i =>
          have later : 0 < rest.countP accepts :=
            List.countP_pos_iff.mpr ⟨c, List.mem_of_getElem? hc, h⟩
          rw [List.countP_cons] at once
          have other : accepts n = false := by
            refine Bool.eq_false_iff.mpr fun accepted => ?_
            rw [if_pos accepted] at once
            omega
          rw [other, if_neg Bool.false_ne_true] at once
          rw [List.findIdx?_cons, other, ih once hc]
          rfl

/-- Children that lead to compound nodes carry one of these labels; those that are picked are carried
once. -/
structure Covers (picked omitted : List String) (n : SyntaxNode) : Prop where
  leads : ∀ c ∈ n.children, Leads c → ∃ label ∈ picked ++ omitted, c.info.label = some label
  once : ∀ label ∈ picked, n.children.countP (hasLabel label) ≤ 1

theorem countP_parts {accepts : SyntaxNode → Bool}
    (plain : ∀ c ∈ n.children, c.info.extra = true → accepts c = false) :
    (parts n).countP accepts = n.children.countP accepts := by
  rw [parts, List.countP_filter]
  refine List.countP_congr fun c hc => ?_
  cases extra : c.info.extra with
  | true => simp [plain c hc extra]
  | false => simp

theorem named_of_leads (grown : Everywhere (Grown src) n) (lead : Leads n) :
    n.info.named = true := by
  refine Bool.not_eq_false _ |>.mp fun unnamed => ?_
  obtain ⟨leaf, kind⟩ := leaf_of_unnamed grown.here unnamed
  exact not_leads_of_leaf leaf kind lead

/-- What leads to a compound node is a part. -/
theorem isPart_of_leads (grown : Everywhere (Grown src) n) (hc : c ∈ n.children) (lead : Leads c) :
    isPart c.info = true := by
  have plain : c.info.extra = false := by
    refine Bool.eq_false_iff.mpr fun extra => ?_
    exact not_leads_of_isExtra (extras_of_grown grown.here c hc extra) lead
  rw [isPart, named_of_leads (grown.child hc) lead, plain]
  rfl

/-- Labels cover a node if they cover its parts; extra nodes have no label and lead nowhere. -/
theorem covers_of_parts {picked omitted : List String} (grown : Grown src n)
    (leads : ∀ c ∈ parts n, Leads c → ∃ label ∈ picked ++ omitted, c.info.label = some label)
    (once : ∀ label ∈ picked, (parts n).countP (hasLabel label) ≤ 1) : Covers picked omitted n where
  leads c hc lead := by
    cases extra : c.info.extra with
    | true => exact (not_leads_of_isExtra (extras_of_grown grown c hc extra) lead).elim
    | false => exact leads c (mem_parts hc extra) lead
  once label mem := by
    rw [← countP_parts fun c hc extra => ?_]
    · exact once label mem
    · rw [hasLabel, (extras_of_grown grown c hc extra).label]
      rfl

theorem grown_of_mem_parts (grown : Everywhere (Grown src) n) (hc : c ∈ parts n) :
    Everywhere (Grown src) c :=
  grown.child (List.mem_filter.mp hc).1

theorem not_leads_text (grown : Everywhere (Grown src) n) {label : Option String} {token : String}
    (hc : c ∈ parts n) (h : IsText src label token c) : ¬ Leads c :=
  not_leads_of_isText (grown_of_mem_parts grown hc).here h

theorem leads_of_following {label : Option String} {token : String} {nodes : List SyntaxNode}
    (grown : ∀ c ∈ nodes, Everywhere (Grown src) c)
    (h : Following src token (IsNamed label) nodes) :
    ∀ c ∈ nodes, Leads c → IsNamed label c := by
  induction h with
  | nil => exact fun _ hc => nomatch hc
  | cons hMark hn _ ih =>
      obtain ⟨first, later⟩ := List.forall_mem_cons.mp grown
      obtain ⟨-, rest⟩ := List.forall_mem_cons.mp later
      refine List.forall_mem_cons.mpr ⟨fun lead => ?_, List.forall_mem_cons.mpr ⟨fun _ => hn, ih rest⟩⟩
      exact (not_leads_of_isText first.here hMark lead).elim

theorem countP_hasLabel_eq_zero {label : String} {nodes : List SyntaxNode}
    (h : ∀ c ∈ nodes, c.info.label ≠ some label) : nodes.countP (hasLabel label) = 0 := by
  rw [List.countP_eq_zero]
  intro c hc same
  exact h c hc (eq_of_beq same)

theorem label_of_following {label : Option String} {token : String} {nodes : List SyntaxNode}
    (h : Following src token (IsNamed label) nodes) :
    ∀ c ∈ nodes, c.info.label = none ∨ c.info.label = label := by
  induction h with
  | nil => exact fun _ hc => nomatch hc
  | cons hMark hn _ ih =>
      exact List.forall_mem_cons.mpr ⟨.inl hMark.fits.label,
        List.forall_mem_cons.mpr ⟨.inr hn.label, ih⟩⟩

theorem unlabelled_of_isDetour {nodes : List SyntaxNode} (h : IsDetour src nodes) :
    ∀ c ∈ nodes, c.info.label = none := by
  rcases h with rfl | ⟨super, dot, rfl | rfl, hDot, hSuper⟩
  · exact fun _ hc => nomatch hc
  · exact List.forall_mem_cons.mpr
      ⟨hSuper.word.named.label, List.forall_mem_singleton.mpr hDot.fits.label⟩
  · exact List.forall_mem_cons.mpr
      ⟨hDot.fits.label, List.forall_mem_singleton.mpr hSuper.word.named.label⟩

theorem not_leads_of_isDetour {nodes : List SyntaxNode} (h : IsDetour src nodes)
    (grown : ∀ c ∈ nodes, Everywhere (Grown src) c) : ∀ c ∈ nodes, ¬ Leads c := by
  rcases h with rfl | ⟨super, dot, rfl | rfl, hDot, hSuper⟩
  · exact fun _ hc => nomatch hc
  · have dotEnds := not_leads_of_isText (grown dot (by simp)).here hDot
    exact List.forall_mem_cons.mpr
      ⟨not_leads_of_isWord hSuper.word, List.forall_mem_singleton.mpr dotEnds⟩
  · have dotEnds := not_leads_of_isText (grown dot (by simp)).here hDot
    exact List.forall_mem_cons.mpr
      ⟨dotEnds, List.forall_mem_singleton.mpr (not_leads_of_isWord hSuper.word)⟩

section Kinds

variable (grown : Everywhere (Grown src) n) (ne : n.children ≠ [])
include grown ne

theorem covers_index (kind : n.kind = "array_access") : Covers ["array", "index"] [] n := by
  obtain ⟨array, opening, index, closing, whole, hArray, hOpening, hIndex, hClosing⟩ :=
    parts_of_index grown.here ne kind
  refine covers_of_parts grown.here ?_ ?_
  · have openingEnds : ¬ Leads opening := not_leads_text grown (by rw [whole]; simp) hOpening
    have closingEnds : ¬ Leads closing := not_leads_text grown (by rw [whole]; simp) hClosing
    rw [whole]
    simp [hArray.label, openingEnds, hIndex.label, closingEnds]
  · rw [whole]
    simp [hasLabel, hArray.label, hOpening.fits.label, hIndex.label, hClosing.fits.label]

theorem covers_conditional (kind : n.kind = "ternary_expression") :
    Covers ["condition", "consequence", "alternative"] [] n := by
  obtain ⟨c, mark, t, colon, e, whole, hc, hMark, ht, hColon, he⟩ :=
    parts_of_conditional grown.here ne kind
  refine covers_of_parts grown.here ?_ ?_
  · have markEnds : ¬ Leads mark := not_leads_text grown (by rw [whole]; simp) hMark
    have colonEnds : ¬ Leads colon := not_leads_text grown (by rw [whole]; simp) hColon
    rw [whole]
    simp [hc.label, markEnds, ht.label, colonEnds, he.label]
  · rw [whole]
    simp [hasLabel, hc.label, hMark.fits.label, ht.label, hColon.fits.label, he.label]

theorem covers_sides (kind : n.kind = "binary_expression" ∨ n.kind = "assignment_expression") :
    Covers ["left", "right"] [] n := by
  obtain ⟨left, operator, right, token, whole, hLeft, hOperator, hRight⟩ :=
    parts_of_sides grown.here ne kind
  refine covers_of_parts grown.here ?_ ?_
  · have operatorEnds : ¬ Leads operator := not_leads_text grown (by rw [whole]; simp) hOperator
    rw [whole]
    simp [hLeft.label, operatorEnds, hRight.label]
  · rw [whole]
    simp [hasLabel, hLeft.label, hOperator.fits.label, hRight.label]

theorem covers_unary (kind : n.kind = "unary_expression") : Covers ["operand"] [] n := by
  obtain ⟨operator, operand, token, whole, hOperator, hOperand, -⟩ :=
    parts_of_unary grown.here ne kind
  refine covers_of_parts grown.here ?_ ?_
  · have operatorEnds : ¬ Leads operator := not_leads_text grown (by rw [whole]; simp) hOperator
    rw [whole]
    simp [operatorEnds, hOperand.label]
  · rw [whole]
    simp [hasLabel, hOperator.fits.label, hOperand.label]

theorem covers_field (kind : n.kind = "field_access") : Covers ["object"] [] n := by
  obtain ⟨object, detour, dot, field, whole, hObject, hDetour, hDot, hField⟩ :=
    parts_of_field grown.here ne kind
  refine covers_of_parts grown.here ?_ ?_
  · have dotEnds : ¬ Leads dot := not_leads_text grown (by rw [whole]; simp) hDot
    have detourEnds : ∀ c ∈ detour, ¬ Leads c := not_leads_of_isDetour hDetour fun c hc =>
      grown_of_mem_parts grown (by rw [whole]; simp [hc])
    rw [whole]
    simp only [List.forall_mem_cons, List.forall_mem_append]
    exact ⟨fun _ => ⟨"object", by simp, hObject.label⟩, fun c hc lead => (detourEnds c hc lead).elim,
      fun lead => (dotEnds lead).elim, fun lead => (not_leads_of_isWord hField lead).elim,
      fun _ hc => nomatch hc⟩
  · have noLabel := unlabelled_of_isDetour hDetour
    have detourNone := countP_hasLabel_eq_zero fun c hc => by
      rw [noLabel c hc]
      exact fun same : none = some "object" => nomatch same
    rw [whole]
    simp [hasLabel, List.countP_append, detourNone, hObject.label, hDot.fits.label, hField.named.label]

theorem covers_cast (kind : n.kind = "cast_expression") : Covers ["value"] ["type"] n := by
  obtain ⟨opening, type, bounds, closing, operand, whole, hOpening, hType, hBounds, hClosing,
    hOperand⟩ := parts_of_cast grown.here ne kind
  refine covers_of_parts grown.here ?_ ?_
  · have openingEnds : ¬ Leads opening := not_leads_text grown (by rw [whole]; simp) hOpening
    have closingEnds : ¬ Leads closing := not_leads_text grown (by rw [whole]; simp) hClosing
    have boundTypes : ∀ c ∈ bounds, Leads c → IsNamed (some "type") c :=
      leads_of_following (fun c hc => grown_of_mem_parts grown (by rw [whole]; simp [hc])) hBounds
    rw [whole]
    simp only [List.forall_mem_cons, List.forall_mem_append]
    exact ⟨fun lead => (openingEnds lead).elim, fun _ => ⟨"type", by simp, hType.label⟩,
      fun c hc lead => ⟨"type", by simp, (boundTypes c hc lead).label⟩,
      fun lead => (closingEnds lead).elim, fun _ => ⟨"value", by simp, hOperand.label⟩,
      fun _ hc => nomatch hc⟩
  · have boundLabels := label_of_following hBounds
    have boundsNone : bounds.countP (hasLabel "value") = 0 := countP_hasLabel_eq_zero fun c hc => by
      rcases boundLabels c hc with label | label <;> rw [label] <;> simp
    rw [whole]
    simp [hasLabel, List.countP_append, boundsNone, hOpening.fits.label, hType.label,
      hClosing.fits.label, hOperand.label]

theorem covers_call (kind : n.kind = "method_invocation") :
    Covers ["object", "arguments"] ["type_arguments"] n := by
  obtain ⟨front, name, arguments, whole, hFront, hName, hArguments, -⟩ :=
    parts_of_call grown.here ne kind
  have nameEnds : ¬ Leads name := not_leads_of_isWord hName
  have argumentsCovered : ∃ label ∈ ["object", "arguments"] ++ ["type_arguments"],
      arguments.info.label = some label := ⟨"arguments", by simp, hArguments.label⟩
  rcases hFront with rfl | ⟨object, dot, detour, types, rfl, hObject, hDot, hDetour, hTypes⟩
  · refine covers_of_parts grown.here ?_ ?_
    · rw [whole]
      simp [nameEnds, hArguments.label]
    · rw [whole]
      simp [hasLabel, hName.named.label, hArguments.label]
  · have noLabel := unlabelled_of_isDetour hDetour
    have detourNone (label : String) : detour.countP (hasLabel label) = 0 :=
      countP_hasLabel_eq_zero fun c hc => by
        rw [noLabel c hc]
        nofun
    have typeLabels : ∀ c ∈ types, c.info.label = some "type_arguments" := by
      rcases hTypes with rfl | ⟨t, rfl, ht⟩
      · exact fun _ hc => nomatch hc
      · exact List.forall_mem_singleton.mpr ht.label
    have typesNone {label : String} (other : label ≠ "type_arguments") :
        types.countP (hasLabel label) = 0 :=
      countP_hasLabel_eq_zero fun c hc => by
        rw [typeLabels c hc]
        exact fun same => other (Option.some.inj same).symm
    refine covers_of_parts grown.here ?_ ?_
    · have dotEnds : ¬ Leads dot := not_leads_text grown (by rw [whole]; simp) hDot
      have detourEnds : ∀ c ∈ detour, ¬ Leads c := not_leads_of_isDetour hDetour fun c hc =>
        grown_of_mem_parts grown (by rw [whole]; simp [hc])
      rw [whole]
      simp only [List.forall_mem_cons, List.forall_mem_append, List.cons_append]
      exact ⟨fun _ => ⟨"object", by simp, hObject.label⟩, fun lead => (dotEnds lead).elim,
        ⟨fun c hc lead => (detourEnds c hc lead).elim,
          fun c hc _ => ⟨"type_arguments", by simp, typeLabels c hc⟩⟩,
        fun lead => (nameEnds lead).elim, fun _ => argumentsCovered, fun _ hc => nomatch hc⟩
    · rw [whole]
      simp [hasLabel, List.countP_append, detourNone, typesNone, hObject.label, hDot.fits.label,
        hName.named.label, hArguments.label]

theorem once_part (kind : n.kind = "parenthesized_expression" ∨ n.kind = "update_expression") :
    n.children.countP (fun c => isPart c.info) ≤ 1 := by
  rw [← countP_parts fun c _ extra => by rw [isPart, extra, Bool.not_true, Bool.and_false]]
  rcases kind with kind | kind
  · obtain ⟨opening, inner, closing, whole, hOpening, hInner, hClosing⟩ :=
      parts_of_paren grown.here ne kind
    rw [whole]
    simp [isPart, hOpening.fits.named, hInner.named, hInner.placed, hClosing.fits.named]
  · obtain ⟨operator, operand, token, hOperator, hOperand, -, whole | whole⟩ :=
      parts_of_update grown.here ne kind
    · rw [whole]
      simp [isPart, hOperator.fits.named, hOperand.named, hOperand.placed]
    · rw [whole]
      simp [isPart, hOperator.fits.named, hOperand.named, hOperand.placed]

theorem once_arguments (kind : n.kind = "object_creation_expression") :
    n.children.countP (hasLabel "arguments") ≤ 1 := by
  obtain ⟨outer, new, before, type, arguments, body, whole, hOuter, hNew, hBefore, hType, hArguments,
    -, hBody⟩ := parts_of_creation grown.here ne kind
  have outerNone : outer.countP (hasLabel "arguments") = 0 :=
    countP_hasLabel_eq_zero fun c hc => (hOuter c hc).2
  have beforeNone : before.countP (hasLabel "arguments") = 0 :=
    countP_hasLabel_eq_zero fun c hc => (hBefore c hc).2
  have bodyNone : body.countP (hasLabel "arguments") = 0 := by
    rcases hBody with rfl | ⟨b, rfl, hb, -⟩
    · rfl
    · simp [hasLabel, hb.label]
  rw [← countP_parts fun c hc extra => by
    rw [hasLabel, (extras_of_grown grown.here c hc extra).label]; rfl, whole]
  simp [hasLabel, List.countP_append, outerNone, beforeNone, bodyNone, hNew.fits.label, hType.label,
    hArguments.label]

theorem kind_of_arguments
    (kind : n.kind = "method_invocation" ∨ n.kind = "object_creation_expression")
    (hc : c ∈ n.children) (label : c.info.label = some "arguments") : c.kind = "argument_list" := by
  have once : n.children.countP (hasLabel "arguments") ≤ 1 :=
    kind.elim (fun kind => (covers_call grown ne kind).once "arguments" (by simp))
      (once_arguments grown ne)
  obtain ⟨arguments, mem, hArguments, listKind⟩ : ∃ arguments, arguments ∈ parts n ∧
      IsNamed (some "arguments") arguments ∧ arguments.kind = "argument_list" := by
    rcases kind with kind | kind
    · obtain ⟨front, name, arguments, whole, -, -, hArguments, listKind⟩ :=
        parts_of_call grown.here ne kind
      exact ⟨arguments, by rw [whole]; simp, hArguments, listKind⟩
    · obtain ⟨outer, new, before, type, arguments, body, whole, -, -, -, -, hArguments, listKind, -⟩ :=
        parts_of_creation grown.here ne kind
      exact ⟨arguments, by rw [whole]; simp, hArguments, listKind⟩
  have same : c = arguments := by
    obtain ⟨i, hi⟩ := List.getElem?_of_mem hc
    obtain ⟨j, hj⟩ := List.getElem?_of_mem (List.mem_filter.mp mem).1
    have atC := findIdx?_eq_of_once once hi (beq_iff_eq.mpr label)
    have atArguments := findIdx?_eq_of_once once hj (beq_iff_eq.mpr hArguments.label)
    cases atC.symm.trans atArguments
    exact Option.some.inj (hi.symm.trans hj)
  rw [same, listKind]

end Kinds

theorem leads_of_at? {path : List Nat} {m : SyntaxNode} (h : c.at? path = some m)
    (compound : isCompound m.kind = true) : Leads c := ⟨path, m, h, compound⟩

/-- On the way to a compound node in a row stands an outermost one. -/
theorem exists_compoundPlace {nodes : List SyntaxNode} {k : Nat} {path : List Nat} {m : SyntaxNode}
    (grown : ∀ n ∈ nodes, Everywhere (Grown src) n) (h : inRow? nodes (k :: path) = some m)
    (compound : isCompound m.kind = true) :
    ∃ place below c, k :: path = place ++ below ∧ place ∈ compoundPlaces 0 nodes ∧
      inRow? nodes place = some c ∧ isCompound c.kind = true := by
  induction path generalizing nodes k with
  | nil =>
      obtain ⟨c, hc, hm⟩ := Option.bind_eq_some_iff.mp h
      cases hm
      have named := named_of_leads (grown m (List.mem_of_getElem? hc)) ⟨[], m, at?_nil m, compound⟩
      exact ⟨[k], [], m, rfl, mem_compoundPlaces_of_compound hc named compound, h, compound⟩
  | cons j path ih =>
      obtain ⟨c, hc, hm⟩ := Option.bind_eq_some_iff.mp h
      have mem : c ∈ nodes := List.mem_of_getElem? hc
      have named := named_of_leads (grown c mem) ⟨j :: path, m, hm, compound⟩
      cases here : isCompound c.kind with
      | true =>
          refine ⟨[k], j :: path, c, rfl, mem_compoundPlaces_of_compound hc named here, ?_, here⟩
          rw [inRow?, hc, Option.bind_some, at?_nil]
      | false =>
          rw [at?_eq_inRow? c (List.cons_ne_nil j path)] at hm
          obtain ⟨place, below, d, split, inside, hd, found⟩ :=
            ih (fun d hd => (grown c mem).child hd) hm
          refine ⟨k :: place, below, d, by rw [split, List.cons_append],
            mem_compoundPlaces_of_inside hc named here inside, ?_, found⟩
          rw [inRow?, hc, Option.bind_some, at?_eq_inRow? c (compoundPlaces_ne_nil place inside), hd]

theorem Covers.pick {picked omitted : List String} (covers : Covers picked omitted n) {i : Nat}
    (hc : n.children[i]? = some c) (lead : Leads c) :
    (∃ label ∈ picked, [i] ∈ firstPlace (hasLabel label) n.children) ∨
      ∃ label ∈ omitted, c.info.label = some label := by
  obtain ⟨label, mem, same⟩ := covers.leads c (List.mem_of_getElem? hc) lead
  rcases List.mem_append.mp mem with here | there
  · refine .inl ⟨label, here, ?_⟩
    exact mem_firstPlace (findIdx?_eq_of_once (covers.once label here) hc (beq_iff_eq.mpr same))
  · exact .inr ⟨label, there, same⟩

/-- An argument on the way to a compound node is picked. -/
theorem exists_argument_pick (grown : Everywhere (Grown src) n)
    (kind : n.kind = "method_invocation" ∨ IsPlainCreation n) {i : Nat} {path : List Nat}
    (clear : ¬ Omitted n (i :: path)) (hc : n.children[i]? = some c)
    (label : c.info.label = some "arguments") {m : SyntaxNode} (hm : c.at? path = some m)
    (compound : isCompound m.kind = true) :
    ∃ place below d, i :: path = place ++ below ∧ place ∈ argumentPlaces n.children ∧
      n.at? place = some d ∧ d.kind ≠ "string_literal" := by
  have mem : c ∈ n.children := List.mem_of_getElem? hc
  have ne : n.children ≠ [] := List.ne_nil_of_mem mem
  have listKind : c.kind = "argument_list" :=
    kind_of_arguments grown ne (kind.imp id And.left) mem label
  have once : n.children.countP (hasLabel "arguments") ≤ 1 :=
    kind.elim (fun kind => (covers_call grown ne kind).once "arguments" (by simp))
      fun plain => once_arguments grown ne plain.1
  cases path with
  | nil =>
      cases hm
      rw [listKind] at compound
      cases compound
  | cons j path =>
      obtain ⟨d, hd, hm⟩ := at?_cons_eq_some_iff.mp hm
      have lead : Leads d := leads_of_at? hm compound
      have part : isPart d.info = true :=
        isPart_of_leads (grown.child mem) (List.mem_of_getElem? hd) lead
      have found := findIdx?_eq_of_once once hc (beq_iff_eq.mpr label)
      refine ⟨[i, j], path, d, rfl, mem_argumentPlaces found hc hd part, ?_, ?_⟩
      · simp [at?_cons, hc, hd]
      · intro literal
        exact clear ⟨[], [i, j], path, n, rfl, at?_nil n, .argument kind hc label hd literal⟩

/-- In a call, the object or an argument is picked. -/
theorem exists_call_pick (grown : Everywhere (Grown src) n) (kind : n.kind = "method_invocation")
    {i : Nat} {path : List Nat} (clear : ¬ Omitted n (i :: path)) (hc : n.children[i]? = some c)
    (lead : Leads c) {m : SyntaxNode} (hm : c.at? path = some m)
    (compound : isCompound m.kind = true) :
    ∃ place below d, i :: path = place ++ below ∧
      place ∈ firstPlace (hasLabel "object") n.children ++ argumentPlaces n.children ∧
      n.at? place = some d ∧ d.kind ≠ "string_literal" := by
  have mem : c ∈ n.children := List.mem_of_getElem? hc
  have covers := covers_call grown (List.ne_nil_of_mem mem) kind
  have clearHere := not_omits_of_not_omitted clear
  obtain ⟨label, hLabel, same⟩ := covers.leads c mem lead
  simp only [List.cons_append, List.nil_append, List.mem_cons, List.not_mem_nil, or_false]
    at hLabel
  rcases hLabel with rfl | rfl | rfl
  · have picked := mem_firstPlace
      (findIdx?_eq_of_once (covers.once "object" (by simp)) hc (beq_iff_eq.mpr same))
    exact ⟨[i], path, c, rfl, List.mem_append_left _ picked,
      at?_cons_eq_some_iff.mpr ⟨c, hc, at?_nil c⟩, fun literal =>
        clearHere (.literal (by rw [kind]; decide) hc literal)⟩
  · obtain ⟨place, below, d, split, picked, found⟩ :=
      exists_argument_pick grown (.inl kind) clear hc same hm compound
    exact ⟨place, below, d, split, List.mem_append_right _ picked, found⟩
  · exact (clearHere (.typeArguments kind hc same)).elim

/-- On the way from a converted node to a compound node below it a node is picked, unless a part is
omitted there. -/
theorem exists_pick (grown : Everywhere (Grown src) n) (notString : n.kind ≠ "string_literal")
    {i : Nat} {path : List Nat} (clear : ¬ Omitted n (i :: path)) {m : SyntaxNode}
    (h : n.at? (i :: path) = some m) (compound : isCompound m.kind = true) :
    ∃ place below c, i :: path = place ++ below ∧ place ∈ picks n.children (convert src n) ∧
      n.at? place = some c ∧ c.kind ≠ "string_literal" := by
  obtain ⟨c, hc, hm⟩ := at?_cons_eq_some_iff.mp h
  have mem : c ∈ n.children := List.mem_of_getElem? hc
  have ne : n.children ≠ [] := List.ne_nil_of_mem mem
  have lead : Leads c := leads_of_at? hm compound
  have clearHere := not_omits_of_not_omitted clear
  have direct {kind : String} (same : n.kind = kind) (operand : kind ∈ operandKinds)
      (picked : [i] ∈ picks n.children (convert src n)) :
      ∃ place below c, i :: path = place ++ below ∧ place ∈ picks n.children (convert src n) ∧
        n.at? place = some c ∧ c.kind ≠ "string_literal" :=
    ⟨[i], path, c, rfl, picked, at?_cons_eq_some_iff.mpr ⟨c, hc, at?_nil c⟩, fun literal =>
      clearHere (.literal (same ▸ operand) hc literal)⟩
  obtain ⟨info, children⟩ := n
  have conv := conversion src info children
  generalize convert src (.node info children) = e at conv direct ⊢
  cases conv with
  | literal found => exact (ne (leaf_of_literal grown.here found notString)).elim
  | name kind =>
      have leaf : children = [] :=
        kind.elim (leaf_of_kind grown.here · (by decide)) (leaf_of_kind grown.here · (by decide))
      exact (ne leaf).elim
  | self kind => exact (ne (leaf_of_kind grown.here kind (by decide))).elim
  | super kind => exact (ne (leaf_of_kind grown.here kind (by decide))).elim
  | outerSelf kind _ hField word =>
      have label := (covers_field grown ne kind).leads c mem lead
      exact (clearHere (.qualifier kind hc (by simpa using label) hField (.inl word))).elim
  | outerSuper kind _ hField word =>
      have label := (covers_field grown ne kind).leads c mem lead
      exact (clearHere (.qualifier kind hc (by simpa using label) hField (.inr word))).elim
  | field kind _ _ _ _ =>
      have picked := (covers_field grown ne kind).pick hc lead
      exact direct kind (by decide) (by simpa [picks] using picked)
  | index kind _ _ =>
      have picked := (covers_index grown ne kind).pick hc lead
      exact direct kind (by decide) (by simpa [picks] using picked)
  | call kind _ => exact exists_call_pick grown kind clear hc lead hm compound
  | new kind _ noBody =>
      have plain : IsPlainCreation (.node info children) := by
        refine ⟨kind, fun d hd body => ?_⟩
        have present : (children.any fun c => c.kind == "class_body") = true :=
          List.any_eq_true.mpr ⟨d, hd, beq_iff_eq.mpr body⟩
        cases noBody.symm.trans present
      have label : c.info.label = some "arguments" :=
        Decidable.byContradiction fun other => clearHere (.creation plain hc other)
      exact exists_argument_pick grown (.inr plain) clear hc label hm compound
  | binary kind _ _ _ _ =>
      have picked := (covers_sides grown ne (.inl kind)).pick hc lead
      exact direct kind (by decide) (by simpa [picks] using picked)
  | unary kind _ _ _ =>
      have picked := (covers_unary grown ne kind).pick hc lead
      exact direct kind (by decide) (by simpa [picks] using picked)
  | update kind _ _ =>
      have picked := mem_firstPlace (findIdx?_eq_of_once (once_part grown ne (.inr kind)) hc
        (isPart_of_leads grown mem lead))
      exact direct kind (by decide) picked
  | assign kind _ _ _ =>
      have picked := (covers_sides grown ne (.inr kind)).pick hc lead
      exact direct kind (by decide) (by simpa [picks] using picked)
  | conditional kind _ _ _ =>
      have picked := (covers_conditional grown ne kind).pick hc lead
      exact direct kind (by decide) (by simpa [picks] using picked)
  | paren kind _ =>
      have picked := mem_firstPlace (findIdx?_eq_of_once (once_part grown ne (.inl kind)) hc
        (isPart_of_leads grown mem lead))
      exact direct kind (by decide) picked
  | cast kind _ _ =>
      rcases (covers_cast grown ne kind).pick hc lead with
        ⟨label, mem, picked⟩ | ⟨label, mem, same⟩
      · cases List.mem_singleton.mp mem
        exact direct kind (by decide) picked
      · cases List.mem_singleton.mp mem
        exact (clearHere (.castType kind hc same)).elim
  | unknown =>
      obtain ⟨place, below, d, same, picked, hd, found⟩ :=
        exists_compoundPlace (fun c hc => grown.child hc) h compound
      refine ⟨place, below, d, same, picked, ?_, ?_⟩
      · exact (at?_eq_inRow? (.node info children) (compoundPlaces_ne_nil place picked)).trans hd
      · rintro literal
        rw [literal] at found
        cases found

/-- Every compound node below a converted node and in no omitted part is converted. -/
theorem exists_origin (grown : Everywhere (Grown src) n) (notString : n.kind ≠ "string_literal")
    {path : List Nat} (clear : ¬ Omitted n path) {m : SyntaxNode} (h : n.at? path = some m)
    (compound : isCompound m.kind = true) : ∃ q, origin? src n q = some path := by
  induction n using belowInduction generalizing path with
  | node n ih =>
      cases path with
      | nil => exact ⟨[], rfl⟩
      | cons i path =>
          obtain ⟨place, below, c, split, picked, hc, notText⟩ :=
            exists_pick grown notString clear h compound
          rw [split] at clear h ⊢
          rw [at?_append_of_at? hc] at h
          obtain ⟨q, hq⟩ := ih place c (picks_ne_nil place picked) hc (grown.at? hc) notText
            (not_omitted_of_at? clear hc) h
          obtain ⟨j, hj⟩ := List.getElem?_of_mem picked
          exact ⟨j :: q, through?_eq_some_iff.mpr ⟨place, c, below, hj, hc, hq, rfl⟩⟩

theorem exists_rootOrigin {tree : SyntaxNode} (grown : Everywhere (Grown src) tree)
    {path : List Nat} (clear : ¬ Omitted tree path) {m : SyntaxNode} (h : tree.at? path = some m)
    (compound : isCompound m.kind = true) : ∃ q, rootOrigin? src tree q = some path := by
  have notString {n : SyntaxNode} (kind : isCompound n.kind = true) :
      n.kind ≠ "string_literal" := by
    intro literal
    rw [literal] at kind
    cases kind
  cases root : isCompound tree.kind with
  | true =>
      obtain ⟨q, hq⟩ := exists_origin grown (notString root) clear h compound
      refine ⟨0 :: q, through?_eq_some_iff.mpr ⟨[], tree, path, ?_, at?_nil tree, hq, rfl⟩⟩
      rw [rootPlaces, if_pos root]
      rfl
  | false =>
      cases path with
      | nil =>
          cases h
          cases root.symm.trans compound
      | cons i path =>
          have row : inRow? tree.children (i :: path) = some m :=
            (at?_eq_inRow? tree (List.cons_ne_nil i path)).symm.trans h
          obtain ⟨place, below, c, split, mem, hc, found⟩ :=
            exists_compoundPlace (fun c hc => grown.child hc) row compound
          rw [← at?_eq_inRow? tree (compoundPlaces_ne_nil place mem)] at hc
          rw [split] at clear h ⊢
          rw [at?_append_of_at? hc] at h
          obtain ⟨q, hq⟩ := exists_origin (grown.at? hc) (notString found)
            (not_omitted_of_at? clear hc) h compound
          obtain ⟨j, hj⟩ := List.getElem?_of_mem mem
          refine ⟨j :: q, through?_eq_some_iff.mpr ⟨place, c, below, ?_, hc, hq, rfl⟩⟩
          rw [rootPlaces, root, if_neg Bool.false_ne_true]
          exact hj

end Java
end NullSafeEquality
