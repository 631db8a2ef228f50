import NullSafeEquality.Expr.Render
import NullSafeEquality.Proofs.Coverage
import NullSafeEquality.Proofs.Operands
import NullSafeEquality.Proofs.Order
import NullSafeEquality.Proofs.Tokens

/-!
Conversion and rendering together. Each construct that is converted part by part is written again
with its own tokens, so blanks and comments aside an expression reads as its node. What an expression
has no room for is named in `Complete`.
-/

namespace NullSafeEquality

theorem BinaryOp.token_of_ofToken? {text : String} {op : BinaryOp}
    (h : BinaryOp.ofToken? text = some op) : op.token = text :=
  eq_of_beq (List.find?_some (p := fun op : BinaryOp => op.token == text) h)

theorem UnaryOp.token_of_ofToken? {text : String} {op : UnaryOp}
    (h : UnaryOp.ofToken? text = some op) : op.token = text :=
  eq_of_beq (List.find?_some (p := fun op : UnaryOp => op.token == text) h)

namespace Java

open Grammar SyntaxNode
open Text (squeeze squeeze_append squeeze_collapse)

/-- The expression of the node has room for all of its parts. It has none for the word for the class
above between two dots, for more of a creation than `new`, a type and arguments, and for a second
type of a cast. -/
structure HasRoom (n : SyntaxNode) : Prop where
  noDetour : n.kind = "field_access" ∨ n.kind = "method_invocation" →
    ∀ c ∈ n.children, c.info.label = none → c.kind ≠ "super"
  creation : n.kind = "object_creation_expression" → (parts n).length = 3
  oneType : n.kind = "cast_expression" → n.children.countP (hasLabel "type") ≤ 1

/-- The expression of the node has room for all of its tokens, and there is no comment in what it
keeps as text. -/
structure Complete (n : SyntaxNode) : Prop extends HasRoom n where
  noComment : ∀ i c, n.children[i]? = some c → c.info.extra = false → c.kind ≠ stringKind →
    Omits n [i] → NoComment c

/-- So has the expression of each node that is converted with the node. -/
def CompleteBelow (src : Source) (n : SyntaxNode) : Prop :=
  ∀ m, ConvertedWithin src n m → Complete m

variable {src : Source} {n c : SyntaxNode}

theorem filter_isPart_parts (n : SyntaxNode) :
    ((parts n).filter fun c => isPart c.info) = n.children.filter fun c => isPart c.info := by
  rw [parts, List.filter_filter]
  refine congrArg (fun p => n.children.filter p) (funext fun c => ?_)
  cases extra : c.info.extra <;> simp [isPart, extra]

theorem tokens_of_isText {label : Option String} {token : String} (h : IsText src label token n) :
    tokens src n = squeeze token := by
  rw [tokens_of_leaf h.leaf, h.text]

theorem tokens_of_isWord {label : Option String} (h : IsWord grammar label n) :
    tokens src n = squeeze (n.text src) :=
  tokens_of_leaf h.leaf

theorem squeeze_renderMoreArgs {nodes : List SyntaxNode}
    (h : Following src "," (IsNamed none) nodes)
    (same : ∀ c ∈ nodes, isPart c.info = true → squeeze (convert src c).render = tokens src c) :
    squeeze (Expr.renderMoreArgs ((nodes.filter fun c => isPart c.info).map (convert src))) =
      nodes.flatMap (tokens src) := by
  induction h with
  | nil => rfl
  | @cons mark c rest hMark hc _ ih =>
      obtain ⟨-, later⟩ := List.forall_mem_cons.mp same
      obtain ⟨here, others⟩ := List.forall_mem_cons.mp later
      have part := isPart_of_isNamed hc
      rw [List.filter_cons, isPart_of_isText hMark, if_neg Bool.false_ne_true, List.filter_cons,
        if_pos part, List.map_cons, Expr.renderMoreArgs, squeeze_append, squeeze_append, ih others,
        here part, List.flatMap_cons, List.flatMap_cons, tokens_of_isText hMark, List.append_assoc]
      rfl

/-- Arguments between parentheses are written again with their commas. -/
theorem squeeze_renderArgs (grown : Grown src n) (ne : n.children ≠ [])
    (kind : n.kind = "argument_list")
    (same : ∀ c ∈ n.children, isPart c.info = true →
      squeeze (convert src c).render = tokens src c) :
    squeeze "(" ++ squeeze (Expr.renderArgs ((n.children.filter fun c => isPart c.info).map
      (convert src))) ++ squeeze ")" = tokens src n := by
  obtain ⟨opening, between, closing, whole, hOpening, hBetween, hClosing⟩ :=
    parts_of_arguments grown ne kind
  have inner : squeeze (Expr.renderArgs ((between.filter fun c => isPart c.info).map
      (convert src))) = between.flatMap (tokens src) := by
    have sameBetween (c : SyntaxNode) (hc : c ∈ between) : isPart c.info = true →
        squeeze (convert src c).render = tokens src c := by
      refine same c (List.mem_filter.mp (show c ∈ parts n from ?_)).1
      rw [whole]
      simp [hc]
    rcases hBetween with rfl | ⟨e, rest, rfl, he, following⟩
    · rfl
    · obtain ⟨here, others⟩ := List.forall_mem_cons.mp sameBetween
      have part := isPart_of_isNamed he
      rw [List.filter_cons, if_pos part, List.map_cons, Expr.renderArgs, squeeze_append, here part,
        squeeze_renderMoreArgs following others, List.flatMap_cons]
  have named : (n.children.filter fun c => isPart c.info) =
      between.filter fun c => isPart c.info := by
    rw [← filter_isPart_parts, whole]
    simp [isPart_of_isText hOpening, isPart_of_isText hClosing]
  rw [named, inner, tokens_of_parts ne (by rw [kind]; decide), whole, List.flatMap_cons,
    List.flatMap_append, List.flatMap_singleton, tokens_of_isText hOpening,
    tokens_of_isText hClosing, List.append_assoc]

theorem children_ne_nil_of_find? {accepts : SyntaxNode → Bool}
    (h : n.children.find? accepts = some c) : n.children ≠ [] := by
  intro leaf
  rw [leaf] at h
  cases h

/-- What was picked as a part of the expression reads as its node. -/
def PicksRead (src : Source) (n : SyntaxNode) (e : Expr) : Prop :=
  ∀ place ∈ picks n.children e, ∀ c, n.at? place = some c →
    squeeze (convert src c).render = tokens src c

theorem PicksRead.first {e : Expr} (h : PicksRead src n e) {accepts : SyntaxNode → Bool}
    (picked : ∀ p ∈ firstPlace accepts n.children, p ∈ picks n.children e)
    (hc : n.children.find? accepts = some c) : squeeze (convert src c).render = tokens src c := by
  obtain ⟨i, place, hi⟩ := exists_mem_firstPlace hc
  exact h [i] (picked [i] place) c (at?_cons_eq_some_iff.mpr ⟨c, hi, at?_nil c⟩)

theorem PicksRead.arguments {e : Expr} (h : PicksRead src n e) {list : SyntaxNode}
    (picked : ∀ p ∈ argumentPlaces n.children, p ∈ picks n.children e)
    (hList : labelled? "arguments" n.children = some list) :
    ∀ c ∈ list.children, isPart c.info = true →
      squeeze (convert src c).render = tokens src c := by
  intro c hc part
  obtain ⟨i, j, place, hi, hj⟩ := exists_mem_argumentPlaces hList hc part
  exact h [i, j] (picked [i, j] place) c
    (at?_cons_eq_some_iff.mpr ⟨list, hi, at?_cons_eq_some_iff.mpr ⟨c, hj, at?_nil c⟩⟩)

theorem detour_eq_nil {detour : List SyntaxNode} (h : IsDetour src detour)
    (inside : ∀ c ∈ detour, c ∈ parts n)
    (noSuper : ∀ c ∈ n.children, c.info.label = none → c.kind ≠ "super") : detour = [] := by
  rcases h with rfl | ⟨super, dot, order, -, hSuper⟩
  · rfl
  · have mem : super ∈ detour := by rcases order with rfl | rfl <;> simp
    have child := (List.mem_filter.mp (inside super mem)).1
    exact (noSuper super child hSuper.word.named.label hSuper.kind).elim

theorem children_ne_nil_of_arguments (h : Grown src n) (named : n.info.named = true)
    (kind : n.kind = "argument_list") : n.children ≠ [] := by
  intro leaf
  cases h with
  | written _ unnamed _ _ => cases unnamed.symm.trans named
  | renamed _ _ renamed => exact absurd renamed (by rw [kind]; decide)
  | token _ _ found _ =>
      rw [kind] at found
      cases found
  | fragment _ fragment _ => exact absurd (kind.symm.trans fragment) (by decide)
  | construct _ found _ shown =>
      rw [kind] at found
      cases found
      rw [parts, leaf] at shown
      obtain ⟨_, _, whole, first, -⟩ := shows_seq_cons_iff.mp shown
      obtain ⟨opening, rfl, -⟩ := shows_tok_iff.mp first
      cases whole

theorem label_of_labelled? {label : String} {nodes : List SyntaxNode}
    (h : labelled? label nodes = some c) : c.info.label = some label := by
  have accepted := List.find?_some (p := fun n : SyntaxNode => n.info.label == some label) h
  exact eq_of_beq accepted

theorem placed_of_labelled? (grown : Grown src n) {label : String}
    (h : labelled? label n.children = some c) : c.info.extra = false := by
  refine Bool.eq_false_iff.mpr fun extra => ?_
  have unlabelled := (extras_of_grown grown c (List.mem_of_find?_eq_some h) extra).label
  cases unlabelled.symm.trans (label_of_labelled? h)

/-- A part that is kept as text has the tokens of its text. -/
theorem tokens_of_kept (grown : Grown src n) (spaced : Everywhere (Spaced src) n)
    (complete : Complete n) {label : String} (h : labelled? label n.children = some c)
    (kept : ∀ i, n.children[i]? = some c → c.info.label = some label → Omits n [i]) :
    tokens src c = squeeze (c.text src) := by
  by_cases kind : c.kind = stringKind
  · exact tokens_of_string kind
  · have hc := List.mem_of_find?_eq_some h
    obtain ⟨i, hi⟩ := List.getElem?_of_mem hc
    exact tokens_eq_squeeze_text (spaced.child hc)
      (complete.noComment i c hi (placed_of_labelled? grown h) kind
        (kept i hi (label_of_labelled? h)))

/-- The first part of a construct is its first child. -/
theorem children_of_parts {first : SyntaxNode} {rest : List SyntaxNode} (spaced : Spaced src n)
    (notWhole : n.kind ≠ "program") (whole : parts n = first :: rest) :
    ∃ others, n.children = first :: others ∧ (others.filter fun c => !c.info.extra) = rest := by
  rw [parts] at whole
  cases h : n.children with
  | nil =>
      rw [h] at whole
      cases whole
  | cons c others =>
      have plain := spaced.front notWhole c (by rw [h]; rfl)
      rw [h, List.filter_cons, plain, Bool.not_false, if_pos rfl] at whole
      cases whole
      exact ⟨others, rfl, rfl⟩

theorem kind_ne_of_named (h : Grown src n) (named : n.info.named = true) {token : String}
    (noDefinition : grammar.definitions.lookup token = none) (notRenamed : token ∉ renamedTokens)
    (notFragment : token ≠ fragmentKind) : n.kind ≠ token := by
  rintro rfl
  cases h with
  | written _ unnamed _ _ => cases unnamed.symm.trans named
  | renamed _ _ kind => exact notRenamed kind
  | token _ _ found _ => cases noDefinition.symm.trans found
  | fragment _ kind _ => exact notFragment kind
  | construct _ found _ _ => cases noDefinition.symm.trans found

/-- Is the node the sign of an update? -/
def isUpdateSign (n : SyntaxNode) : Bool := n.kind == "++" || n.kind == "--"

theorem isUpdateSign_of_isText {label : Option String} {token : String}
    (h : IsText src label token n) (sign : token = "++" ∨ token = "--") :
    isUpdateSign n = true := by
  rcases sign with rfl | rfl <;> simp [isUpdateSign, h.fits.kind]

theorem isUpdateSign_of_named (h : Grown src n) (named : n.info.named = true) :
    isUpdateSign n = false := by
  have notIncrement : n.kind ≠ "++" := kind_ne_of_named h named rfl (by decide) (by decide)
  have notDecrement : n.kind ≠ "--" := kind_ne_of_named h named rfl (by decide) (by decide)
  simp [isUpdateSign, notIncrement, notDecrement]

theorem updateOp?_of_sign_first {sign : SyntaxNode} {others : List SyntaxNode}
    (h : isUpdateSign sign = true) :
    updateOp? (sign :: others) = some (if sign.kind = "++" then .preInc else .preDec) := by
  have first : ((sign :: others).findIdx? fun c => c.kind == "++" || c.kind == "--") = some 0 := by
    rw [List.findIdx?_cons]
    exact if_pos h
  rw [updateOp?, first]
  cases increments : sign.kind == "++" with
  | true => simp [eq_of_beq increments]
  | false => simp [increments, beq_eq_false_iff_ne.mp increments]

theorem updateOp?_of_sign_behind {operand : SyntaxNode} {others : List SyntaxNode} {op : UpdateOp}
    (notSign : isUpdateSign operand = false) (h : updateOp? (operand :: others) = some op) :
    ∃ sign ∈ others, isUpdateSign sign = true ∧
      op = if sign.kind = "++" then .postInc else .postDec := by
  rw [updateOp?] at h
  split at h
  case h_1 => cases h
  case h_2 i found =>
    obtain ⟨bound, accepted, -⟩ := List.findIdx?_eq_some_iff_getElem.mp found
    cases i with
    | zero => cases notSign.symm.trans accepted
    | succ i =>
        have inside : i < others.length := Nat.lt_of_succ_lt_succ bound
        refine ⟨others[i], List.getElem_mem inside, accepted, ?_⟩
        simp only [List.getElem?_cons_succ, List.getElem?_eq_getElem inside, Option.map_some,
          Option.some.injEq] at h
        rw [← h]
        cases increments : others[i].kind == "++" with
        | true => simp [eq_of_beq increments]
        | false => simp [increments, beq_eq_false_iff_ne.mp increments]

section Kinds

variable (grown : Everywhere (Grown src) n)
include grown

theorem tokens_of_paren {inner : SyntaxNode} (kind : n.kind = "parenthesized_expression")
    (hInner : (n.children.find? fun c => isPart c.info) = some inner) :
    tokens src n = squeeze "(" ++ tokens src inner ++ squeeze ")" := by
  have ne := children_ne_nil_of_find? hInner
  obtain ⟨opening, inner', closing, whole, hOpening, first, hClosing⟩ :=
    parts_of_paren grown.here ne kind
  rw [← find?_isPart_parts, whole] at hInner
  simp only [List.find?_cons, isPart_of_isText hOpening, isPart_of_isNamed first,
    Option.some.injEq] at hInner
  subst hInner
  rw [tokens_of_parts ne (by rw [kind]; decide), whole]
  simp [tokens_of_isText hOpening, tokens_of_isText hClosing]

theorem tokens_of_index {array i : SyntaxNode} (kind : n.kind = "array_access")
    (hArray : labelled? "array" n.children = some array)
    (hIndex : labelled? "index" n.children = some i) :
    tokens src n = tokens src array ++ squeeze "[" ++ tokens src i ++ squeeze "]" := by
  have ne := children_ne_nil_of_find? hArray
  obtain ⟨array', opening, i', closing, whole, first, hOpening, second, hClosing⟩ :=
    parts_of_index grown.here ne kind
  replace hArray := labelled?_of_parts grown.here whole hArray
  replace hIndex := labelled?_of_parts grown.here whole hIndex
  simp [labelled?, first.label, hOpening.fits.label, second.label] at hArray hIndex
  subst hArray hIndex
  rw [tokens_of_parts ne (by rw [kind]; decide), whole]
  simp [tokens_of_isText hOpening, tokens_of_isText hClosing]

theorem tokens_of_conditional {c t e : SyntaxNode} (kind : n.kind = "ternary_expression")
    (hCondition : labelled? "condition" n.children = some c)
    (hThen : labelled? "consequence" n.children = some t)
    (hElse : labelled? "alternative" n.children = some e) :
    tokens src n =
      tokens src c ++ squeeze "?" ++ tokens src t ++ squeeze ":" ++ tokens src e := by
  have ne := children_ne_nil_of_find? hCondition
  obtain ⟨c', mark, t', colon, e', whole, first, hMark, second, hColon, third⟩ :=
    parts_of_conditional grown.here ne kind
  replace hCondition := labelled?_of_parts grown.here whole hCondition
  replace hThen := labelled?_of_parts grown.here whole hThen
  replace hElse := labelled?_of_parts grown.here whole hElse
  simp [labelled?, first.label, hMark.fits.label, second.label, hColon.fits.label, third.label]
    at hCondition hThen hElse
  subst hCondition hThen hElse
  rw [tokens_of_parts ne (by rw [kind]; decide), whole]
  simp [tokens_of_isText hMark, tokens_of_isText hColon]

theorem tokens_of_sides {left operator right : SyntaxNode}
    (kind : n.kind = "binary_expression" ∨ n.kind = "assignment_expression")
    (hLeft : labelled? "left" n.children = some left)
    (hOperator : labelled? "operator" n.children = some operator)
    (hRight : labelled? "right" n.children = some right) :
    tokens src n = tokens src left ++ squeeze (operator.text src) ++ tokens src right := by
  have ne := children_ne_nil_of_find? hLeft
  obtain ⟨left', operator', right', token, whole, first, second, third⟩ :=
    parts_of_sides grown.here ne kind
  replace hLeft := labelled?_of_parts grown.here whole hLeft
  replace hOperator := labelled?_of_parts grown.here whole hOperator
  replace hRight := labelled?_of_parts grown.here whole hRight
  simp [labelled?, first.label, second.fits.label, third.label] at hLeft hOperator hRight
  subst hLeft hOperator hRight
  have notString : n.kind ≠ stringKind := by rcases kind with kind | kind <;> rw [kind] <;> decide
  rw [tokens_of_parts ne notString, whole]
  simp [tokens_of_isText second, second.text]

theorem tokens_of_unary {operator operand : SyntaxNode} (kind : n.kind = "unary_expression")
    (hOperator : labelled? "operator" n.children = some operator)
    (hOperand : labelled? "operand" n.children = some operand) :
    tokens src n = squeeze (operator.text src) ++ tokens src operand := by
  have ne := children_ne_nil_of_find? hOperator
  obtain ⟨operator', operand', token, whole, first, second, -⟩ := parts_of_unary grown.here ne kind
  replace hOperator := labelled?_of_parts grown.here whole hOperator
  replace hOperand := labelled?_of_parts grown.here whole hOperand
  simp [labelled?, first.fits.label, second.label] at hOperator hOperand
  subst hOperator hOperand
  rw [tokens_of_parts ne (by rw [kind]; decide), whole]
  simp [tokens_of_isText first, first.text]

theorem tokens_of_field {object field : SyntaxNode} (complete : Complete n)
    (kind : n.kind = "field_access") (hObject : labelled? "object" n.children = some object)
    (hField : labelled? "field" n.children = some field) :
    tokens src n = tokens src object ++ squeeze "." ++ squeeze (field.text src) := by
  have ne := children_ne_nil_of_find? hObject
  obtain ⟨object', detour, dot, field', whole, first, hDetour, hDot, second⟩ :=
    parts_of_field grown.here ne kind
  cases detour_eq_nil hDetour (fun c hc => by rw [whole]; simp [hc])
    (complete.noDetour (.inl kind))
  replace hObject := labelled?_of_parts grown.here whole hObject
  replace hField := labelled?_of_parts grown.here whole hField
  simp [labelled?, first.label, hDot.fits.label, second.named.label] at hObject hField
  subst hObject hField
  rw [tokens_of_parts ne (by rw [kind]; decide), whole]
  simp [tokens_of_isText hDot, tokens_of_isWord second]

/-- A qualified word has the tokens of its qualifier's text in front of it. -/
theorem tokens_of_outerWord {object field : SyntaxNode} (spaced : Everywhere (Spaced src) n)
    (complete : Complete n) (kind : n.kind = "field_access")
    (hObject : labelled? "object" n.children = some object)
    (hField : labelled? "field" n.children = some field)
    (word : field.kind = "this" ∨ field.kind = "super") :
    tokens src n = squeeze (object.text src) ++ squeeze "." ++ squeeze field.kind := by
  have kept := tokens_of_kept grown.here spaced complete hObject fun i hi label =>
    .qualifier kind hi label hField word
  have fieldGrown := (grown.child (List.mem_of_find?_eq_some hField)).here
  have text : field.text src = field.kind := by
    rcases word with word | word
    · rw [word, text_of_word fieldGrown word rfl (by decide) (by decide)]
    · rw [word, text_of_word fieldGrown word rfl (by decide) (by decide)]
  rw [tokens_of_field grown complete kind hObject hField, kept, text]

theorem tokens_of_call {name : SyntaxNode} (complete : Complete n)
    (kind : n.kind = "method_invocation") (hName : labelled? "name" n.children = some name) :
    ∃ list, labelled? "arguments" n.children = some list ∧ list.kind = "argument_list" ∧
      list.info.named = true ∧
      tokens src n =
        ((labelled? "object" n.children).elim [] fun object => tokens src object ++ squeeze ".") ++
          (labelled? "type_arguments" n.children).elim [] (tokens src) ++
          squeeze (name.text src) ++ tokens src list := by
  have ne := children_ne_nil_of_find? hName
  obtain ⟨front, name', list, whole, hFront, first, hList, listKind⟩ :=
    parts_of_call grown.here ne kind
  have notString : n.kind ≠ stringKind := by rw [kind]; decide
  simp only [← labelled?_parts grown.here] at hName ⊢
  rw [tokens_of_parts ne notString]
  rcases hFront with rfl | ⟨object, dot, detour, types, rfl, hObject, hDot, hDetour, hTypes⟩
  · rw [whole] at hName ⊢
    simp [labelled?, first.named.label, hList.label] at hName ⊢
    subst hName
    exact ⟨listKind, hList.named, tokens_of_isWord first⟩
  · cases detour_eq_nil hDetour (fun c hc => by rw [whole]; simp [hc])
      (complete.noDetour (.inr kind))
    rw [whole] at hName ⊢
    rcases hTypes with rfl | ⟨t, rfl, ht⟩
    · simp [labelled?, hObject.label, hDot.fits.label, first.named.label, hList.label] at hName ⊢
      subst hName
      refine ⟨listKind, hList.named, ?_⟩
      rw [tokens_of_isText hDot, tokens_of_isWord first]
    · simp [labelled?, hObject.label, hDot.fits.label, ht.label, first.named.label, hList.label]
        at hName ⊢
      subst hName
      refine ⟨listKind, hList.named, ?_⟩
      rw [tokens_of_isText hDot, tokens_of_isWord first]

theorem tokens_of_creation {type : SyntaxNode} (complete : Complete n)
    (kind : n.kind = "object_creation_expression")
    (hType : labelled? "type" n.children = some type) :
    ∃ list, labelled? "arguments" n.children = some list ∧ list.kind = "argument_list" ∧
      list.info.named = true ∧
      tokens src n = squeeze "new" ++ tokens src type ++ tokens src list := by
  have ne := children_ne_nil_of_find? hType
  obtain ⟨outer, new, before, type', list, body, whole, -, hNew, -, first, hList, listKind, -⟩ :=
    parts_of_creation grown.here ne kind
  have notString : n.kind ≠ stringKind := by rw [kind]; decide
  have three := complete.creation kind
  simp only [whole, List.length_append, List.length_cons] at three
  have noOuter : outer = [] := List.eq_nil_of_length_eq_zero (by omega)
  have noBefore : before = [] := List.eq_nil_of_length_eq_zero (by omega)
  have noBody : body = [] := List.eq_nil_of_length_eq_zero (by omega)
  subst noOuter noBefore noBody
  simp only [← labelled?_parts grown.here, whole] at hType ⊢
  rw [tokens_of_parts ne notString, whole]
  simp [labelled?, hNew.fits.label, first.label, hList.label] at hType ⊢
  subst hType
  exact ⟨listKind, hList.named, by rw [tokens_of_isText hNew]⟩

theorem tokens_of_cast {type operand : SyntaxNode} (complete : Complete n)
    (kind : n.kind = "cast_expression") (hType : labelled? "type" n.children = some type)
    (hOperand : labelled? "value" n.children = some operand) :
    tokens src n = squeeze "(" ++ tokens src type ++ squeeze ")" ++ tokens src operand := by
  have ne := children_ne_nil_of_find? hType
  obtain ⟨opening, type', bounds, closing, operand', whole, hOpening, first, hBounds, hClosing,
    second⟩ := parts_of_cast grown.here ne kind
  have once := complete.oneType kind
  rw [← countP_parts fun c hc extra => by
    rw [hasLabel, (extras_of_grown grown.here c hc extra).label]; rfl, whole] at once
  have noBounds : bounds = [] := by
    cases hBounds with
    | nil => rfl
    | cons hMark hBound _ =>
        simp [hasLabel, List.countP_cons, hOpening.fits.label, first.label, hBound.label] at once
  subst noBounds
  replace hType := labelled?_of_parts grown.here whole hType
  replace hOperand := labelled?_of_parts grown.here whole hOperand
  simp [labelled?, hOpening.fits.label, first.label, hClosing.fits.label, second.label]
    at hType hOperand
  subst hType hOperand
  rw [tokens_of_parts ne (by rw [kind]; decide), whole]
  simp [tokens_of_isText hOpening, tokens_of_isText hClosing]

theorem squeeze_render_update {op : UpdateOp} {operand : SyntaxNode} {e : Expr} {span : Span}
    (spaced : Spaced src n) (kind : n.kind = "update_expression")
    (hOp : updateOp? n.children = some op)
    (hOperand : (n.children.find? fun c => isPart c.info) = some operand)
    (reads : squeeze e.render = tokens src operand) :
    squeeze (Expr.update op e span).render = tokens src n := by
  have ne := children_ne_nil_of_find? hOperand
  obtain ⟨sign, operand', token, hSign, hNamed, isSign, order⟩ := parts_of_update grown.here ne kind
  have signTokens : tokens src sign = squeeze token := tokens_of_isText hSign
  have notWhole : n.kind ≠ "program" := by rw [kind]; decide
  have notString : n.kind ≠ stringKind := by rw [kind]; decide
  rw [← find?_isPart_parts] at hOperand
  rw [tokens_of_parts ne notString]
  rcases order with behind | front
  · rw [behind] at hOperand ⊢
    simp only [List.find?_cons, isPart_of_isNamed hNamed, Option.some.injEq] at hOperand
    subst hOperand
    obtain ⟨others, whole, rest⟩ := children_of_parts spaced notWhole behind
    have child : operand' ∈ n.children := by rw [whole]; exact List.mem_cons_self
    have notSign := isUpdateSign_of_named (grown.child child).here hNamed.named
    rw [whole] at hOp
    obtain ⟨found, mem, accepted, rfl⟩ := updateOp?_of_sign_behind notSign hOp
    have plain : found.info.extra = false := by
      refine Bool.eq_false_iff.mpr fun extra => ?_
      have inside : found ∈ n.children := by rw [whole]; exact List.mem_cons_of_mem _ mem
      have named := (extras_of_grown grown.here found inside extra).named
      cases (isUpdateSign_of_named (grown.child inside).here named).symm.trans accepted
    have same : found ∈ [sign] := by
      rw [← rest]
      exact List.mem_filter.mpr ⟨mem, by rw [plain]; rfl⟩
    cases List.mem_singleton.mp same
    rcases isSign with rfl | rfl <;>
      simp [hSign.fits.kind, Expr.render, reads, signTokens]
  · rw [front] at hOperand ⊢
    simp only [List.find?_cons, isPart_of_isText hSign, isPart_of_isNamed hNamed,
      Option.some.injEq] at hOperand
    subst hOperand
    obtain ⟨others, whole, -⟩ := children_of_parts spaced notWhole front
    rw [whole, updateOp?_of_sign_first (isUpdateSign_of_isText hSign isSign)] at hOp
    cases hOp
    rcases isSign with rfl | rfl <;>
      simp [hSign.fits.kind, Expr.render, reads, signTokens]

/-- The arguments picked for a call or a creation are written again as the list they were picked
from. -/
theorem squeeze_renderArgs_of_picks {e : Expr} {list : SyntaxNode} (reads : PicksRead src n e)
    (picked : ∀ p ∈ argumentPlaces n.children, p ∈ picks n.children e)
    (hList : labelled? "arguments" n.children = some list) (kind : list.kind = "argument_list")
    (named : list.info.named = true) :
    squeeze "(" ++ squeeze (Expr.renderArgs (((labelled? "arguments" n.children).elim [] fun list =>
      list.children.filter fun c => isPart c.info).map (convert src))) ++ squeeze ")" =
      tokens src list := by
  have listGrown := (grown.child (List.mem_of_find?_eq_some hList)).here
  have ne := children_ne_nil_of_arguments listGrown named kind
  rw [hList, Option.elim_some]
  exact squeeze_renderArgs listGrown ne kind (reads.arguments picked hList)

omit grown in
theorem squeeze_renderReceiver {e : Expr} (reads : PicksRead src n e)
    (picked : ∀ p ∈ firstPlace (hasLabel "object") n.children, p ∈ picks n.children e) :
    squeeze (Expr.renderReceiver ((labelled? "object" n.children).map (convert src))) =
      (labelled? "object" n.children).elim [] fun object => tokens src object ++ squeeze "." := by
  cases hObject : labelled? "object" n.children with
  | none => rfl
  | some object =>
      have same := reads.first picked hObject
      rw [Option.map_some, Expr.renderReceiver, squeeze_append, same, Option.elim_some]

theorem squeeze_typeArguments (spaced : Everywhere (Spaced src) n) (complete : Complete n)
    (kind : n.kind = "method_invocation") :
    squeeze (((labelledText? src "type_arguments" n.children).map Text.collapse).getD "") =
      (labelled? "type_arguments" n.children).elim [] (tokens src) := by
  cases hTypes : labelled? "type_arguments" n.children with
  | none =>
      rw [labelledText?, hTypes]
      rfl
  | some types =>
      have kept := tokens_of_kept grown.here spaced complete hTypes fun i hi label =>
        .typeArguments kind hi label
      rw [labelledText?, hTypes, Option.map_some, Option.map_some, Option.getD_some,
        squeeze_collapse, Option.elim_some, kept]

end Kinds

/-- An expression reads as its node if what was picked for its parts does. -/
theorem squeeze_render_of_picks {e : Expr} (conv : Conversion src n.info n.children e)
    (grown : Everywhere (Grown src) n) (spaced : Everywhere (Spaced src) n)
    (complete : Complete n) (known : e.isUnknown = false) (reads : PicksRead src n e) :
    squeeze e.render = tokens src n := by
  cases conv with
  | unknown => cases known
  | literal kind =>
      rw [Expr.render]
      by_cases string : n.kind = stringKind
      · exact (tokens_of_string string).symm
      · exact (tokens_of_leaf (leaf_of_literal grown.here kind string)).symm
  | name kind =>
      rw [Expr.render]
      have leaf : n.children = [] :=
        kind.elim (leaf_of_kind grown.here · (by decide)) (leaf_of_kind grown.here · (by decide))
      exact (tokens_of_leaf leaf).symm
  | self kind =>
      rw [Expr.render, tokens_of_leaf (leaf_of_kind grown.here kind (by decide)),
        text_of_word grown.here kind rfl (by decide) (by decide)]
  | super kind =>
      rw [Expr.render, tokens_of_leaf (leaf_of_kind grown.here kind (by decide)),
        text_of_word grown.here kind rfl (by decide) (by decide)]
  | outerSelf kind hObject hField word =>
      have dotted : squeeze ".this" = squeeze "." ++ squeeze "this" := by decide
      have whole := tokens_of_outerWord grown spaced complete kind hObject hField (.inl word)
      rw [Expr.render, whole, word, squeeze_append, dotted, List.append_assoc]
  | outerSuper kind hObject hField word =>
      have dotted : squeeze ".super" = squeeze "." ++ squeeze "super" := by decide
      have whole := tokens_of_outerWord grown spaced complete kind hObject hField (.inr word)
      rw [Expr.render, whole, word, squeeze_append, dotted, List.append_assoc]
  | field kind hObject hField _ _ =>
      have object := reads.first (fun _ hp => hp) hObject
      rw [Expr.render, tokens_of_field grown complete kind hObject hField, squeeze_append,
        squeeze_append, object]
  | index kind hArray hIndex =>
      have array := reads.first (fun _ hp => List.mem_append_left _ hp) hArray
      have index := reads.first (fun _ hp => List.mem_append_right _ hp) hIndex
      simp only [Expr.render, squeeze_append, array, index, tokens_of_index grown kind hArray hIndex]
  | call kind hName =>
      obtain ⟨list, hList, listKind, named, whole⟩ := tokens_of_call grown complete kind hName
      have receiver := squeeze_renderReceiver reads fun _ hp => List.mem_append_left _ hp
      have types := squeeze_typeArguments grown spaced complete kind
      have arguments := squeeze_renderArgs_of_picks grown reads
        (fun _ hp => List.mem_append_right _ hp) hList listKind named
      rw [Expr.render, whole, ← arguments]
      simp only [squeeze_append, receiver, types, List.append_assoc]
  | new kind hType noBody =>
      obtain ⟨list, hList, listKind, named, whole⟩ := tokens_of_creation grown complete kind hType
      have arguments := squeeze_renderArgs_of_picks grown reads (fun _ hp => hp) hList listKind named
      have plain : IsPlainCreation n :=
        ⟨kind, fun c hc body => List.any_eq_false.mp noBody c hc (beq_iff_eq.mpr body)⟩
      have kept := tokens_of_kept grown.here spaced complete hType fun i hi label =>
        .creation plain hi (by rw [label]; decide)
      have word : squeeze "new " = squeeze "new" := by decide
      rw [Expr.render, whole, ← arguments, kept]
      simp only [squeeze_append, word, List.append_assoc]
  | binary kind hLeft hOperator hRight hOp =>
      have left := reads.first (fun _ hp => List.mem_append_left _ hp) hLeft
      have right := reads.first (fun _ hp => List.mem_append_right _ hp) hRight
      have blank : squeeze " " = [] := by decide
      simp only [Expr.render, squeeze_append, left, right, blank, BinaryOp.token_of_ofToken? hOp,
        tokens_of_sides grown (.inl kind) hLeft hOperator hRight, List.append_nil]
  | unary kind hOperator hOperand hOp =>
      have operand := reads.first (fun _ hp => hp) hOperand
      simp only [Expr.render, squeeze_append, operand, UnaryOp.token_of_ofToken? hOp,
        tokens_of_unary grown kind hOperator hOperand]
  | update kind hOp hOperand =>
      exact squeeze_render_update grown spaced.here kind hOp hOperand
        (reads.first (fun _ hp => hp) hOperand)
  | assign kind hLeft hOperator hRight =>
      have left := reads.first (fun _ hp => List.mem_append_left _ hp) hLeft
      have right := reads.first (fun _ hp => List.mem_append_right _ hp) hRight
      have blank : squeeze " " = [] := by decide
      simp only [Expr.render, squeeze_append, left, right, blank,
        tokens_of_sides grown (.inr kind) hLeft hOperator hRight, List.append_nil]
  | conditional kind hCondition hThen hElse =>
      have condition := reads.first
        (fun _ hp => List.mem_append_left _ (List.mem_append_left _ hp)) hCondition
      have thenBranch := reads.first
        (fun _ hp => List.mem_append_left _ (List.mem_append_right _ hp)) hThen
      have elseBranch := reads.first (fun _ hp => List.mem_append_right _ hp) hElse
      have mark : squeeze " ? " = squeeze "?" := by decide
      have colon : squeeze " : " = squeeze ":" := by decide
      simp only [Expr.render, squeeze_append, condition, thenBranch, elseBranch, mark, colon,
        tokens_of_conditional grown kind hCondition hThen hElse]
  | paren kind hInner =>
      have inner := reads.first (fun _ hp => hp) hInner
      simp only [Expr.render, squeeze_append, inner, tokens_of_paren grown kind hInner]
  | cast kind hType hOperand =>
      have operand := reads.first (fun _ hp => hp) hOperand
      have kept := tokens_of_kept grown.here spaced complete hType fun i hi label =>
        .castType kind hi label
      have closing : squeeze ") " = squeeze ")" := by decide
      simp only [Expr.render, squeeze_append, operand, closing,
        tokens_of_cast grown complete kind hType hOperand, kept]

theorem CompleteBelow.within (complete : CompleteBelow src n) (h : ConvertedWithin src n c) :
    CompleteBelow src c :=
  fun m further => complete m (h.trans further)

/-- Blanks and comments aside, an expression without unknown parts reads as its node. -/
theorem squeeze_render_convert (grown : Everywhere (Grown src) n)
    (spaced : Everywhere (Spaced src) n) (complete : CompleteBelow src n)
    (understood : (convert src n).containsUnknown = false) :
    squeeze (convert src n).render = tokens src n := by
  induction n using belowInduction with
  | node n ih =>
      have known := (Expr.containsUnknown_eq_false_iff _).mp understood _ (Expr.self_mem_nodes _)
      have reads : PicksRead src n (convert src n) := by
        intro place picked c hc
        have within := ConvertedWithin.of_pick picked hc
        exact ih place c (picks_ne_nil place picked) hc (grown.at? hc) (spaced.at? hc)
          (complete.within within) (within.understood understood)
      exact squeeze_render_of_picks (conversion_of src n) grown spaced (complete n (.refl n)) known
        reads

/-- In a text that fits the grammar and has blanks between its tokens only, each expression that is
complete and understood reads as its node. A finding is the match of a node in which the equality
method is called; its message and its replacement write the node, the receiver and the argument of
the call, and as they stand in the text if they are complete. -/
theorem rendering_keeps_tokens (src : Source) (tree : SyntaxNode)
    (derived : Derives grammar src tree) (spaced : Everywhere (Spaced src) tree) :
    (∀ path n, tree.at? path = some n → CompleteBelow src n →
      (convert src n).containsUnknown = false →
      squeeze (convert src n).render = tokens src n) ∧
    ∀ config, ∀ d ∈ ((unitOf src tree).inspect config).diagnostics,
      ∃ path n p call left right, tree.at? path = some n ∧ n.at? p = some call ∧
        CallsEquals src call left right ∧
        Expr.recognize? config (convert src n) =
          some ⟨convert src left, convert src right, d.polarity, d.shape, n.span src⟩ ∧
        d.span = n.span src ∧
        d.message = "'" ++ (convert src n).render ++ "' replaceable by 'Objects.equals()' expression" ∧
        d.replacement = (if d.polarity = .equals then "" else "!") ++ "Objects.equals(" ++
          (convert src left).render ++ ", " ++ (convert src right).render ++ ")" ∧
        (CompleteBelow src n →
          squeeze (convert src n).render = tokens src n ∧
          squeeze (convert src left).render = tokens src left ∧
          squeeze (convert src right).render = tokens src right) := by
  have grown := grown_of_derives derived
  refine ⟨fun path n hn complete understood =>
    squeeze_render_convert (grown.at? hn) (spaced.at? hn) complete understood,
    fun config d hd => ?_⟩
  obtain ⟨path, n, m, hn, hm, rfl⟩ := exists_match_of_mem_diagnostics hd
  obtain ⟨-, leftKnown, rightKnown, span⟩ := (Expr.recognize?_eq_some_iff_form? config _ m).mp hm
  obtain ⟨call, left, right, toCall, calls, toLeft, toRight, sameLeft, sameRight⟩ :=
    exists_callsEquals_of_recognized hm
  obtain ⟨l, r, polarity, shape, place⟩ := m
  cases sameLeft
  cases sameRight
  cases span.trans (span_convert n)
  obtain ⟨p, hCall⟩ := toCall.exists_at?
  obtain ⟨_, hLeft⟩ := toLeft.exists_at?
  obtain ⟨_, hRight⟩ := toRight.exists_at?
  refine ⟨path, n, p, call, left, right, hn, hCall, calls, hm, rfl, rfl, ?_, fun complete => ⟨?_, ?_, ?_⟩⟩
  · cases polarity <;> rfl
  · exact squeeze_render_convert (grown.at? hn) (spaced.at? hn) complete
      (Expr.containsUnknown_eq_false_of_recognized hm)
  · exact squeeze_render_convert ((grown.at? hn).at? hLeft) ((spaced.at? hn).at? hLeft)
      (complete.within toLeft) leftKnown
  · exact squeeze_render_convert ((grown.at? hn).at? hRight) ((spaced.at? hn).at? hRight)
      (complete.within toRight) rightKnown

instance : DecidablePred (Spaced src) := fun n =>
  decidable_of_iff
    ((n.children.isEmpty = false → n.kind ≠ stringKind →
        squeeze (n.text src) = n.children.flatMap fun c => squeeze (c.text src)) ∧
      (n.kind ≠ "program" → n.children.head?.all (fun c => !c.info.extra) = true))
    ⟨fun ⟨gaps, front⟩ =>
      ⟨fun ne => gaps (List.isEmpty_eq_false_iff.mpr ne), fun notWhole c first => by
        simpa [first] using front notWhole⟩,
    fun spaced => ⟨fun ne => spaced.gaps (List.isEmpty_eq_false_iff.mp ne), fun notWhole => by
      cases first : n.children.head? with
      | none => rfl
      | some c => simp [spaced.front notWhole c first]⟩⟩

instance : DecidablePred HasRoom := fun n =>
  decidable_of_iff
    ((n.kind = "field_access" ∨ n.kind = "method_invocation" →
        ∀ c ∈ n.children, c.info.label = none → c.kind ≠ "super") ∧
      (n.kind = "object_creation_expression" → (parts n).length = 3) ∧
      (n.kind = "cast_expression" → n.children.countP (hasLabel "type") ≤ 1))
    ⟨fun ⟨noDetour, creation, oneType⟩ => ⟨noDetour, creation, oneType⟩,
      fun room => ⟨room.noDetour, room.creation, room.oneType⟩⟩

theorem completeBelow_of_noComment (room : Everywhere HasRoom n) (plain : NoComment n) :
    CompleteBelow src n := by
  intro m within
  obtain ⟨p, hm⟩ := within.exists_at?
  exact ⟨room p m hm, fun i c hc _ _ _ => (plain.at? hm).child (List.mem_of_getElem? hc)⟩

/-- A test with a field as receiver and an argument in parentheses. -/
def fieldTestSource : Source := .ofString "class T \x7b void f() \x7b a.b.equals((c)); \x7d \x7d"

def fieldTest : SyntaxNode :=
  inMethod (.node { kind := "expression_statement", start := 21, stop := 37 } [
    .node { kind := "method_invocation", start := 21, stop := 36 } [
      .node { kind := "field_access", label := "object", start := 21, stop := 24 } [
        word "identifier" "object" 21 22, written "." 22, word "identifier" "field" 23 24],
      written "." 24, word "identifier" "name" 25 31,
      .node { kind := "argument_list", label := "arguments", start := 31, stop := 36 } [
        written "(" 31,
        .node { kind := "parenthesized_expression", start := 32, stop := 35 } [
          written "(" 32, word "identifier" none 33 34, written ")" 34],
        written ")" 35]],
    written ";" 36])

theorem derives_fieldTest : Derives grammar fieldTestSource fieldTest :=
  have found : grammar.isDerivedWithin fieldTestSource 80 fieldTest = true := by decide +kernel
  grammar.derives_of_isDerivedWithin fieldTestSource found

theorem fieldTest_reads :
    Derives grammar fieldTestSource fieldTest ∧ Everywhere (Spaced fieldTestSource) fieldTest ∧
    (∃ n, fieldTest.at? [0, 2, 1, 3, 1, 0] = some n ∧
      (convert fieldTestSource n).render = "a.b.equals((c))" ∧
      squeeze (convert fieldTestSource n).render = tokens fieldTestSource n) ∧
    ∃ d ∈ ((unitOf fieldTestSource fieldTest).inspect {}).diagnostics,
      d.replacement = "Objects.equals(a.b, c)" ∧ ∃ path n p call left right,
        fieldTest.at? path = some n ∧ n.at? p = some call ∧
        CallsEquals fieldTestSource call left right := by
  have spaced : Everywhere (Spaced fieldTestSource) fieldTest := by decide +kernel
  obtain ⟨reads, findings⟩ :=
    rendering_keeps_tokens fieldTestSource fieldTest derives_fieldTest spaced
  have room : Everywhere HasRoom fieldTest := by decide +kernel
  have plain : NoComment fieldTest := by
    unfold NoComment
    decide +kernel
  refine ⟨derives_fieldTest, spaced, ⟨_, rfl, rfl, ?_⟩, ?_⟩
  · have here : fieldTest.at? [0, 2, 1, 3, 1, 0] = some _ := rfl
    exact reads _ _ here (completeBelow_of_noComment (room.at? here) (plain.at? here)) rfl
  · obtain ⟨d, rest, found, suggested⟩ : ∃ d rest,
        ((unitOf fieldTestSource fieldTest).inspect {}).diagnostics = d :: rest ∧
        d.replacement = "Objects.equals(a.b, c)" := ⟨_, _, rfl, rfl⟩
    have mem : d ∈ ((unitOf fieldTestSource fieldTest).inspect {}).diagnostics := by
      rw [found]
      exact List.mem_cons_self
    obtain ⟨path, n, p, call, left, right, hn, hCall, calls, -⟩ := findings {} d mem
    exact ⟨d, mem, suggested, path, n, p, call, left, right, hn, hCall, calls⟩

/-- A test whose receiver is the word for the class above, in front of it the name of a class. -/
def qualifiedSuperSource : Source :=
  .ofString "class T \x7b void f() \x7b Outer.super.equals(o); \x7d \x7d"

def qualifiedSuper : SyntaxNode :=
  inMethod (.node { kind := "expression_statement", start := 21, stop := 43 } [
    .node { kind := "method_invocation", start := 21, stop := 42 } [
      word "identifier" "object" 21 26, written "." 26, word "super" none 27 32, written "." 32,
      word "identifier" "name" 33 39,
      .node { kind := "argument_list", label := "arguments", start := 39, stop := 42 } [
        written "(" 39, word "identifier" none 40 41, written ")" 41]],
    written ";" 42])

/-- The word is lost, so the test is reported as one of another receiver. -/
theorem qualifiedSuper_reads_without_super :
    Derives grammar qualifiedSuperSource qualifiedSuper ∧
    Everywhere (Spaced qualifiedSuperSource) qualifiedSuper ∧
    (∃ n, qualifiedSuper.at? [0, 2, 1, 3, 1, 0] = some n ∧
      (convert qualifiedSuperSource n).containsUnknown = false ∧
      squeeze (convert qualifiedSuperSource n).render = "Outer.equals(o)".toList ∧
      tokens qualifiedSuperSource n = "Outer.super.equals(o)".toList) ∧
    ((unitOf qualifiedSuperSource qualifiedSuper).inspect {}).diagnostics.map (·.replacement) =
      ["Objects.equals(Outer, o)"] := by
  have derived : grammar.isDerivedWithin qualifiedSuperSource 80 qualifiedSuper = true := by
    decide +kernel
  exact ⟨grammar.derives_of_isDerivedWithin qualifiedSuperSource derived, by decide +kernel,
    ⟨_, rfl, rfl, by decide +kernel, by decide +kernel⟩, by rfl⟩

end Java
end NullSafeEquality
