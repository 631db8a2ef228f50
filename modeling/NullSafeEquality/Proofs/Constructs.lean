import NullSafeEquality.Proofs.Growth

/-!
How expressions are written. For each kind of expression that is converted part by part, the row of
its parts is read off its rule.
-/

namespace NullSafeEquality
namespace Java

open Grammar SyntaxNode

/-- The node is a token that the grammar writes out. -/
structure IsText (src : Source) (label : Option String) (token : String) (n : SyntaxNode) :
    Prop where
  fits : Fits label token false n
  leaf : n.children = []
  text : n.text src = token

variable {src : Source} {label : Option String} {nodes : List SyntaxNode}

theorem shows_tok_iff {token : String} :
    Shows grammar src label none (tok token) nodes ↔
      ∃ n, nodes = [n] ∧ IsText src label token n := by
  rw [tok, shows_text_iff]
  exact exists_congr fun n => and_congr_right fun _ =>
    ⟨fun ⟨fits, leaf, text⟩ => ⟨fits, leaf, text⟩, fun ⟨fits, leaf, text⟩ => ⟨fits, leaf, text⟩⟩

/-- Rules that show one named node, in whatever way they are met. -/
def namedRules : List Rule :=
  [sym "expression", sym "primary_expression", sym "_type", simpleType, sym "_annotation",
    sym "type_arguments", .choice [sym "primary_expression", sym "super"],
    .choice [sym "primary_expression", sym "lambda_expression"],
    .choice [sym "identifier", sym "_reserved_identifier", sym "field_access", sym "array_access"]]

theorem single_namedRules : namedRules.all (single grammar false 12 false) = true := by
  decide +kernel

theorem exists_named {r : Rule} (h : Shows grammar src label none r nodes) (mem : r ∈ namedRules) :
    ∃ n, nodes = [n] ∧ IsNamed label n := by
  have one := List.all_eq_true.mp single_namedRules r mem
  obtain ⟨n, same, named, -⟩ := exists_named_of_single h one nofun
  exact ⟨n, same, named⟩

theorem shows_expression (h : Shows grammar src label none (sym "expression") nodes) :
    ∃ n, nodes = [n] ∧ IsNamed label n :=
  exists_named h (by simp [namedRules])

theorem shows_primary (h : Shows grammar src label none (sym "primary_expression") nodes) :
    ∃ n, nodes = [n] ∧ IsNamed label n :=
  exists_named h (by simp [namedRules])

theorem shows_type (h : Shows grammar src label none (sym "_type") nodes) :
    ∃ n, nodes = [n] ∧ IsNamed label n :=
  exists_named h (by simp [namedRules])

theorem shows_simpleType (h : Shows grammar src label none simpleType nodes) :
    ∃ n, nodes = [n] ∧ IsNamed label n :=
  exists_named h (by simp [namedRules])

/-- Rules that show one token with a name. -/
def wordRules : List Rule :=
  [simpleName, sym "super",
    .choice [sym "identifier", sym "_reserved_identifier", sym "this"]]

theorem single_wordRules : wordRules.all (single grammar true 12 false) = true := by
  decide +kernel

theorem exists_word {r : Rule} (h : Shows grammar src label none r nodes) (mem : r ∈ wordRules) :
    ∃ n, nodes = [n] ∧ IsWord grammar label n := by
  have one := List.all_eq_true.mp single_wordRules r mem
  obtain ⟨n, same, -, word⟩ := exists_named_of_single h one fun _ _ absent => nomatch absent
  exact ⟨n, same, word rfl⟩

theorem shows_simpleName (h : Shows grammar src label none simpleName nodes) :
    ∃ n, nodes = [n] ∧ IsWord grammar label n :=
  exists_word h (by simp [wordRules])

/-- The word for the object of the class above. -/
structure IsSuper (label : Option String) (n : SyntaxNode) : Prop where
  word : IsWord grammar label n
  kind : n.kind = "super"

theorem shows_super (h : Shows grammar src label none (sym "super") nodes) :
    ∃ n, nodes = [n] ∧ IsSuper label n := by
  obtain ⟨n, rfl, word⟩ := exists_word h (by simp [wordRules])
  obtain ⟨_, same, fits, -⟩ := (shows_token_iff rfl (by decide)).mp h
  cases same
  exact ⟨n, rfl, word, fits.kind⟩

theorem shows_object (h : Shows grammar src label none
    (.choice [sym "primary_expression", sym "super"]) nodes) :
    ∃ n, nodes = [n] ∧ IsNamed label n :=
  exists_named h (by simp [namedRules])

theorem shows_arguments (h : Shows grammar src label none (sym "argument_list") nodes) :
    ∃ n, nodes = [n] ∧ IsNamed label n ∧ n.kind = "argument_list" := by
  obtain ⟨n, rfl, fits, -⟩ := (shows_construct_iff rfl (by decide)).mp h
  exact ⟨n, rfl, { fits with kind := rfl }, fits.kind⟩

/-- Any number of nodes of a sort, a token in front of each. -/
inductive Following (src : Source) (separator : String) (P : SyntaxNode → Prop) :
    List SyntaxNode → Prop where
  | nil : Following src separator P []
  | cons {mark n rest} : IsText src none separator mark → P n → Following src separator P rest →
      Following src separator P (mark :: n :: rest)

theorem shows_sepBy1 {separator : String} {r : Rule} {P : SyntaxNode → Prop}
    (one : ∀ {nodes}, Shows grammar src none none r nodes → ∃ n, nodes = [n] ∧ P n)
    (h : Shows grammar src none none (.sepBy1 separator r) nodes) :
    ∃ n rest, nodes = n :: rest ∧ P n ∧ Following src separator P rest := by
  have marked {nodes : List SyntaxNode}
      (h : Shows grammar src none none (.seq [.text separator, r]) nodes) :
      ∃ mark n, nodes = [mark, n] ∧ IsText src none separator mark ∧ P n := by
    obtain ⟨_, _, rfl, first, second⟩ := shows_seq_cons_iff.mp h
    obtain ⟨mark, rfl, hMark⟩ := shows_tok_iff.mp first
    obtain ⟨_, _, rfl, body, last⟩ := shows_seq_cons_iff.mp second
    obtain ⟨n, rfl, hn⟩ := one body
    cases shows_seq_nil_iff.mp last
    exact ⟨mark, n, rfl, hMark, hn⟩
  have following {nodes : List SyntaxNode}
      (h : Shows grammar src none none (.many (.seq [.text separator, r])) nodes) :
      Following src separator P nodes := by
    rcases shows_opt_iff.mp h with several | rfl
    · refine repeat_induction (fun nodes first => ?_) (fun nodes others first ih => ?_) several
      · obtain ⟨mark, n, rfl, hMark, hn⟩ := marked first
        exact .cons hMark hn .nil
      · obtain ⟨mark, n, rfl, hMark, hn⟩ := marked first
        exact .cons hMark hn ih
    · exact .nil
  obtain ⟨_, _, rfl, first, second⟩ := shows_seq_cons_iff.mp h
  obtain ⟨n, rfl, hn⟩ := one first
  obtain ⟨_, _, rfl, more, last⟩ := shows_seq_cons_iff.mp second
  cases shows_seq_nil_iff.mp last
  refine ⟨n, _, rfl, hn, ?_⟩
  rw [List.append_nil]
  exact following more

theorem shows_annotations (h : Shows grammar src none none annotations nodes) :
    ∀ c ∈ nodes, IsNamed none c := by
  have one {nodes : List SyntaxNode} (h : Shows grammar src none none (sym "_annotation") nodes) :
      ∀ c ∈ nodes, IsNamed none c := by
    obtain ⟨n, rfl, named⟩ := exists_named h (by simp [namedRules])
    exact List.forall_mem_singleton.mpr named
  rcases shows_opt_iff.mp h with several | rfl
  · exact repeat_induction (fun _ first => one first)
      (fun _ _ first ih => List.forall_mem_append.mpr ⟨one first, ih⟩) several
  · exact fun _ hc => nomatch hc

/-- What stands in front of the type of a creation. -/
def InFront (nodes : List SyntaxNode) : Prop :=
  ∀ c ∈ nodes, c.info.label ≠ some "type" ∧ c.info.label ≠ some "arguments"

theorem inFront_of_label {label : Option String} (h : ∀ c ∈ nodes, c.info.label = label)
    (type : label ≠ some "type") (arguments : label ≠ some "arguments") : InFront nodes := by
  intro c hc
  rw [h c hc]
  exact ⟨type, arguments⟩

theorem inFront_annotations (h : Shows grammar src none none annotations nodes) : InFront nodes :=
  inFront_of_label (fun c hc => (shows_annotations h c hc).label) (by decide) (by decide)

theorem shows_creation
    (h : Shows grammar src none none (sym "_unqualified_object_creation_expression") nodes) :
    ∃ new before type arguments body, nodes = new :: (before ++ type :: arguments :: body) ∧
      IsText src none "new" new ∧ InFront before ∧ IsNamed (some "type") type ∧
      IsNamed (some "arguments") arguments ∧ arguments.kind = "argument_list" ∧
      (body = [] ∨ ∃ b, body = [b] ∧ IsNamed none b ∧ b.kind = "class_body") := by
  have shown := (shows_hidden_iff rfl (by decide)).mp h
  rw [greedy, shows_prec_iff] at shown
  obtain ⟨_, _, whole, first, behindNew⟩ := shows_seq_cons_iff.mp shown
  obtain ⟨new, rfl, hNew⟩ := shows_tok_iff.mp first
  obtain ⟨before, _, rfl, middle, behind⟩ := shows_seq_cons_iff.mp behindNew
  have hBefore : InFront before := by
    simp only [shows_choice_iff, List.mem_cons, List.not_mem_nil, or_false, exists_eq_or_imp,
      exists_eq_left, shows_seq_cons_iff, shows_seq_nil_iff, shows_field_iff] at middle
    rcases middle with ⟨left, _, rfl, hLeft, types, _, rfl, hTypes, right, _, rfl, hRight, rfl⟩ |
      plain
    · obtain ⟨t, rfl, hType⟩ := exists_named hTypes (by simp [namedRules])
      have here : InFront [t] := inFront_of_label (List.forall_mem_singleton.mpr hType.label)
        (by decide) (by decide)
      rw [List.append_nil]
      exact List.forall_mem_append.mpr ⟨inFront_annotations hLeft,
        List.forall_mem_append.mpr ⟨here, inFront_annotations hRight⟩⟩
    · exact inFront_annotations plain
  simp only [shows_seq_cons_iff, shows_seq_nil_iff, shows_field_iff, shows_opt_iff] at behind
  obtain ⟨_, _, rfl, second, _, _, rfl, third, body, _, rfl, last, rfl⟩ := behind
  obtain ⟨type, rfl, hType⟩ := shows_simpleType second
  obtain ⟨arguments, rfl, hArguments, argumentKind⟩ := shows_arguments third
  have hBody : body = [] ∨ ∃ b, body = [b] ∧ IsNamed none b ∧ b.kind = "class_body" := by
    refine last.symm.imp id fun shown => ?_
    obtain ⟨b, rfl, fits, -⟩ := (shows_construct_iff rfl (by decide)).mp shown
    exact ⟨b, rfl, { fits with kind := rfl }, fits.kind⟩
  refine ⟨new, before, type, arguments, body, ?_, hNew, hBefore, hType, hArguments, argumentKind,
    hBody⟩
  simpa using whole

theorem isSome_binaryOperators :
    (binaryOperators.all fun entry => (BinaryOp.ofToken? entry.1).isSome) = true := by
  decide

section Kinds

variable {n : SyntaxNode} (h : Grown src n) (ne : n.children ≠ [])
include h ne

theorem parts_of_paren (kind : n.kind = "parenthesized_expression") :
    ∃ opening inner closing, parts n = [opening, inner, closing] ∧
      IsText src none "(" opening ∧ IsNamed none inner ∧ IsText src none ")" closing := by
  have shown := shown_of_grown h ne kind (by decide) rfl
  simp only [shows_seq_cons_iff, shows_seq_nil_iff, shows_tok_iff] at shown
  obtain ⟨_, _, whole, ⟨opening, rfl, left⟩, _, _, rfl, middle, _, _, rfl, ⟨closing, rfl, right⟩,
    rfl⟩ := shown
  obtain ⟨inner, rfl, named⟩ := shows_expression middle
  exact ⟨opening, inner, closing, whole, left, named, right⟩

theorem parts_of_index (kind : n.kind = "array_access") :
    ∃ array opening index closing, parts n = [array, opening, index, closing] ∧
      IsNamed (some "array") array ∧ IsText src none "[" opening ∧
      IsNamed (some "index") index ∧ IsText src none "]" closing := by
  have shown := shown_of_grown h ne kind (by decide) rfl
  simp only [shows_seq_cons_iff, shows_seq_nil_iff, shows_tok_iff, shows_field_iff] at shown
  obtain ⟨_, _, whole, first, _, _, rfl, ⟨opening, rfl, left⟩, _, _, rfl, second, _, _, rfl,
    ⟨closing, rfl, right⟩, rfl⟩ := shown
  obtain ⟨array, rfl, hArray⟩ := shows_primary first
  obtain ⟨index, rfl, hIndex⟩ := shows_expression second
  exact ⟨array, opening, index, closing, whole, hArray, left, hIndex, right⟩

theorem parts_of_conditional (kind : n.kind = "ternary_expression") :
    ∃ c mark t colon e, parts n = [c, mark, t, colon, e] ∧
      IsNamed (some "condition") c ∧ IsText src none "?" mark ∧
      IsNamed (some "consequence") t ∧ IsText src none ":" colon ∧
      IsNamed (some "alternative") e := by
  have shown := shown_of_grown h ne kind (by decide) rfl
  simp only [rightAssoc, shows_prec_iff, shows_seq_cons_iff, shows_seq_nil_iff, shows_tok_iff,
    shows_field_iff] at shown
  obtain ⟨_, _, whole, first, _, _, rfl, ⟨mark, rfl, left⟩, _, _, rfl, second, _, _, rfl,
    ⟨colon, rfl, right⟩, _, _, rfl, third, rfl⟩ := shown
  obtain ⟨c, rfl, hc⟩ := shows_expression first
  obtain ⟨t, rfl, ht⟩ := shows_expression second
  obtain ⟨e, rfl, he⟩ := shows_expression third
  exact ⟨c, mark, t, colon, e, whole, hc, left, ht, right, he⟩

theorem parts_of_binary (kind : n.kind = "binary_expression") :
    ∃ left operator right token, parts n = [left, operator, right] ∧
      IsNamed (some "left") left ∧ IsText src (some "operator") token operator ∧
      IsNamed (some "right") right ∧ (BinaryOp.ofToken? token).isSome = true := by
  have shown := shown_of_grown h ne kind (by decide) rfl
  simp only [shows_choice_iff, List.mem_map] at shown
  obtain ⟨_, ⟨⟨token, level⟩, mem, rfl⟩, shown⟩ := shown
  have known := List.all_eq_true.mp isSome_binaryOperators (token, level) mem
  simp only [leftAssoc, shows_prec_iff, shows_seq_cons_iff, shows_seq_nil_iff, shows_tok_iff,
    shows_field_iff] at shown
  obtain ⟨_, _, whole, first, _, _, rfl, ⟨operator, rfl, hOperator⟩, _, _, rfl, second, rfl⟩ := shown
  obtain ⟨left, rfl, hLeft⟩ := shows_expression first
  obtain ⟨right, rfl, hRight⟩ := shows_expression second
  exact ⟨left, operator, right, token, whole, hLeft, hOperator, hRight, known⟩

theorem parts_of_unary (kind : n.kind = "unary_expression") :
    ∃ operator operand token, parts n = [operator, operand] ∧
      IsText src (some "operator") token operator ∧ IsNamed (some "operand") operand ∧
      (UnaryOp.ofToken? token).isSome = true := by
  have shown := shown_of_grown h ne kind (by decide) rfl
  simp only [shows_choice_iff, List.mem_map] at shown
  obtain ⟨_, ⟨token, mem, rfl⟩, shown⟩ := shown
  have known : (UnaryOp.ofToken? token).isSome = true :=
    (show ∀ token ∈ ["+", "-", "!", "~"], (UnaryOp.ofToken? token).isSome = true by decide) token mem
  simp only [leftAssoc, shows_prec_iff, shows_seq_cons_iff, shows_seq_nil_iff, shows_tok_iff,
    shows_field_iff] at shown
  obtain ⟨_, _, whole, ⟨operator, rfl, hOperator⟩, _, _, rfl, second, rfl⟩ := shown
  obtain ⟨operand, rfl, hOperand⟩ := shows_expression second
  exact ⟨operator, operand, token, whole, hOperator, hOperand, known⟩

theorem parts_of_assignment (kind : n.kind = "assignment_expression") :
    ∃ left operator right token, parts n = [left, operator, right] ∧
      IsNamed (some "left") left ∧ IsText src (some "operator") token operator ∧
      IsNamed (some "right") right := by
  have shown := shown_of_grown h ne kind (by decide) rfl
  rw [rightAssoc, shows_prec_iff] at shown
  obtain ⟨_, _, whole, first, shown⟩ := shows_seq_cons_iff.mp shown
  obtain ⟨left, rfl, hLeft⟩ := exists_named (shows_field_iff.mp first) (by simp [namedRules])
  simp only [shows_seq_cons_iff, shows_seq_nil_iff, shows_field_iff, shows_choice_iff,
    List.mem_map] at shown
  obtain ⟨_, _, rfl, ⟨_, ⟨token, -, rfl⟩, middle⟩, _, _, rfl, last, rfl⟩ := shown
  obtain ⟨operator, rfl, hOperator⟩ := shows_tok_iff.mp middle
  obtain ⟨right, rfl, hRight⟩ := shows_expression last
  exact ⟨left, operator, right, token, whole, hLeft, hOperator, hRight⟩

/-- Constructs with two sides and an operator between them. -/
theorem parts_of_sides (kind : n.kind = "binary_expression" ∨ n.kind = "assignment_expression") :
    ∃ left operator right token, parts n = [left, operator, right] ∧
      IsNamed (some "left") left ∧ IsText src (some "operator") token operator ∧
      IsNamed (some "right") right := by
  rcases kind with binary | assignment
  · obtain ⟨left, operator, right, token, whole, hLeft, hOperator, hRight, -⟩ :=
      parts_of_binary h ne binary
    exact ⟨left, operator, right, token, whole, hLeft, hOperator, hRight⟩
  · exact parts_of_assignment h ne assignment

theorem parts_of_update (kind : n.kind = "update_expression") :
    ∃ operator operand token, IsText src none token operator ∧ IsNamed none operand ∧
      (token = "++" ∨ token = "--") ∧
      (parts n = [operand, operator] ∨ parts n = [operator, operand]) := by
  have shown := shown_of_grown h ne kind (by decide) rfl
  simp only [leftAssoc, shows_prec_iff, shows_choice_iff, List.mem_cons, List.not_mem_nil, or_false,
    exists_eq_or_imp, exists_eq_left, shows_seq_cons_iff, shows_seq_nil_iff, shows_tok_iff] at shown
  rcases shown with ⟨_, _, whole, inner, _, _, rfl, ⟨operator, rfl, hOperator⟩, rfl⟩ |
    ⟨_, _, whole, inner, _, _, rfl, ⟨operator, rfl, hOperator⟩, rfl⟩ |
    ⟨_, _, whole, ⟨operator, rfl, hOperator⟩, _, _, rfl, inner, rfl⟩ |
    ⟨_, _, whole, ⟨operator, rfl, hOperator⟩, _, _, rfl, inner, rfl⟩ <;>
    obtain ⟨operand, rfl, hOperand⟩ := shows_expression inner
  · exact ⟨operator, operand, _, hOperator, hOperand, .inl rfl, .inl whole⟩
  · exact ⟨operator, operand, _, hOperator, hOperand, .inr rfl, .inl whole⟩
  · exact ⟨operator, operand, _, hOperator, hOperand, .inl rfl, .inr whole⟩
  · exact ⟨operator, operand, _, hOperator, hOperand, .inr rfl, .inr whole⟩

/-- The word for the class above between two dots, or nothing. -/
def IsDetour (src : Source) (nodes : List SyntaxNode) : Prop :=
  nodes = [] ∨ ∃ super dot, (nodes = [super, dot] ∨ nodes = [dot, super]) ∧
    IsText src none "." dot ∧ IsSuper none super

theorem parts_of_field (kind : n.kind = "field_access") :
    ∃ object detour dot field, parts n = object :: (detour ++ [dot, field]) ∧
      IsNamed (some "object") object ∧ IsDetour src detour ∧
      IsText src none "." dot ∧ IsWord grammar (some "field") field := by
  have shown := shown_of_grown h ne kind (by decide) rfl
  simp only [shows_seq_cons_iff, shows_seq_nil_iff, shows_tok_iff, shows_field_iff, shows_opt_iff] at shown
  obtain ⟨_, _, whole, first, _, _, rfl, middle, _, _, rfl, ⟨dot, rfl, hDot⟩, _, _, rfl, last, rfl⟩ :=
    shown
  obtain ⟨object, rfl, hObject⟩ := shows_object first
  obtain ⟨field, rfl, hField⟩ := exists_word last (by simp [wordRules])
  rcases middle with ⟨_, _, rfl, ⟨innerDot, rfl, hInner⟩, _, _, rfl, second, rfl⟩ | rfl
  · obtain ⟨super, rfl, hSuper⟩ := shows_super second
    exact ⟨object, [innerDot, super], dot, field, whole, hObject,
      .inr ⟨super, innerDot, .inr rfl, hInner, hSuper⟩, hDot, hField⟩
  · exact ⟨object, [], dot, field, whole, hObject, .inl rfl, hDot, hField⟩

theorem parts_of_arguments (kind : n.kind = "argument_list") :
    ∃ opening between closing, parts n = opening :: (between ++ [closing]) ∧
      IsText src none "(" opening ∧
      (between = [] ∨ ∃ e rest, between = e :: rest ∧ IsNamed none e ∧
        Following src "," (IsNamed none) rest) ∧
      IsText src none ")" closing := by
  have shown := shown_of_grown h ne kind (by decide) rfl
  simp only [shows_seq_cons_iff, shows_seq_nil_iff, shows_tok_iff, Rule.commaSep, shows_opt_iff]
    at shown
  obtain ⟨_, _, whole, ⟨opening, rfl, hOpening⟩, between, _, rfl, middle, _, _, rfl,
    ⟨closing, rfl, hClosing⟩, rfl⟩ := shown
  exact ⟨opening, between, closing, whole, hOpening, middle.symm.imp id (shows_sepBy1 shows_expression),
    hClosing⟩

theorem parts_of_cast (kind : n.kind = "cast_expression") :
    ∃ opening type bounds closing operand, parts n = opening :: type :: (bounds ++ [closing, operand]) ∧
      IsText src none "(" opening ∧ IsNamed (some "type") type ∧
      Following src "&" (IsNamed (some "type")) bounds ∧
      IsText src none ")" closing ∧ IsNamed (some "value") operand := by
  have shown := shown_of_grown h ne kind (by decide) rfl
  simp only [plain, shows_prec_iff, shows_choice_iff, List.mem_cons, List.not_mem_nil, or_false,
    exists_eq_or_imp, exists_eq_left] at shown
  rcases shown with shown | shown
  · simp only [shows_seq_cons_iff, shows_seq_nil_iff, shows_tok_iff, shows_field_iff] at shown
    obtain ⟨_, _, whole, ⟨opening, rfl, hOpening⟩, _, _, rfl, first, _, _, rfl,
      ⟨closing, rfl, hClosing⟩, _, _, rfl, second, rfl⟩ := shown
    obtain ⟨type, rfl, hType⟩ := shows_type first
    obtain ⟨operand, rfl, hOperand⟩ := shows_expression second
    exact ⟨opening, type, [], closing, operand, whole, hOpening, hType, .nil, hClosing, hOperand⟩
  · obtain ⟨_, _, whole, first, behindOpening⟩ := shows_seq_cons_iff.mp shown
    obtain ⟨opening, rfl, hOpening⟩ := shows_tok_iff.mp first
    obtain ⟨_, _, rfl, types, behindTypes⟩ := shows_seq_cons_iff.mp behindOpening
    obtain ⟨type, bounds, rfl, hType, hBounds⟩ :=
      shows_sepBy1 (fun h => shows_type (shows_field_iff.mp h)) types
    obtain ⟨_, _, rfl, second, behindClosing⟩ := shows_seq_cons_iff.mp behindTypes
    obtain ⟨closing, rfl, hClosing⟩ := shows_tok_iff.mp second
    obtain ⟨_, _, rfl, third, last⟩ := shows_seq_cons_iff.mp behindClosing
    obtain ⟨operand, rfl, hOperand⟩ := exists_named (shows_field_iff.mp third) (by simp [namedRules])
    cases shows_seq_nil_iff.mp last
    exact ⟨opening, type, bounds, closing, operand, whole, hOpening, hType, hBounds, hClosing,
      hOperand⟩

theorem parts_of_call (kind : n.kind = "method_invocation") :
    ∃ front name arguments, parts n = front ++ [name, arguments] ∧
      (front = [] ∨ ∃ object dot detour typeArguments,
        front = object :: dot :: (detour ++ typeArguments) ∧
        IsNamed (some "object") object ∧ IsText src none "." dot ∧ IsDetour src detour ∧
        (typeArguments = [] ∨ ∃ t, typeArguments = [t] ∧ IsNamed (some "type_arguments") t)) ∧
      IsWord grammar (some "name") name ∧ IsNamed (some "arguments") arguments ∧
      arguments.kind = "argument_list" := by
  have shown := shown_of_grown h ne kind (by decide) rfl
  obtain ⟨_, _, whole, choice, shown⟩ := shows_seq_cons_iff.mp shown
  simp only [shows_seq_cons_iff, shows_seq_nil_iff, shows_field_iff] at shown
  obtain ⟨_, _, rfl, last, rfl⟩ := shown
  obtain ⟨arguments, rfl, hArguments, argumentKind⟩ := shows_arguments last
  simp only [shows_choice_iff, List.mem_cons, List.not_mem_nil, or_false, exists_eq_or_imp,
    exists_eq_left, shows_field_iff] at choice
  rcases choice with first | choice
  · obtain ⟨name, rfl, hName⟩ := shows_simpleName first
    exact ⟨[], name, arguments, whole, .inl rfl, hName, hArguments, argumentKind⟩
  · simp only [shows_seq_cons_iff, shows_seq_nil_iff, shows_field_iff, shows_tok_iff,
      shows_opt_iff] at choice
    obtain ⟨_, _, rfl, first, _, _, rfl, ⟨dot, rfl, hDot⟩, detour, _, rfl, middle,
      typeArguments, _, rfl, types, _, _, rfl, second, rfl⟩ := choice
    obtain ⟨object, rfl, hObject⟩ := shows_object first
    obtain ⟨name, rfl, hName⟩ := shows_simpleName second
    have hDetour : IsDetour src detour := by
      rcases middle with ⟨_, _, rfl, word, _, _, rfl, ⟨innerDot, rfl, hInner⟩, rfl⟩ | rfl
      · obtain ⟨super, rfl, hSuper⟩ := shows_super word
        exact .inr ⟨super, innerDot, .inl rfl, hInner, hSuper⟩
      · exact .inl rfl
    have hTypes : typeArguments = [] ∨
        ∃ t, typeArguments = [t] ∧ IsNamed (some "type_arguments") t :=
      types.symm.imp id fun shown => exists_named shown (by simp [namedRules])
    refine ⟨object :: dot :: (detour ++ typeArguments), name, arguments, ?_,
      .inr ⟨object, dot, detour, typeArguments, rfl, hObject, hDot, hDetour, hTypes⟩, hName,
      hArguments, argumentKind⟩
    simpa using whole

theorem parts_of_creation (kind : n.kind = "object_creation_expression") :
    ∃ outer new before type arguments body,
      parts n = outer ++ new :: (before ++ type :: arguments :: body) ∧
      InFront outer ∧ IsText src none "new" new ∧ InFront before ∧ IsNamed (some "type") type ∧
      IsNamed (some "arguments") arguments ∧ arguments.kind = "argument_list" ∧
      (body = [] ∨ ∃ b, body = [b] ∧ IsNamed none b ∧ b.kind = "class_body") := by
  have shown := shown_of_grown h ne kind (by decide) rfl
  simp only [shows_choice_iff, List.mem_cons, List.not_mem_nil, or_false, exists_eq_or_imp,
    exists_eq_left, shows_seq_cons_iff, shows_seq_nil_iff] at shown
  rcases shown with plain | ⟨_, _, whole, first, _, _, rfl, second, _, _, rfl, inner, rfl⟩
  · obtain ⟨new, before, type, arguments, body, whole, creation⟩ := shows_creation plain
    have nothing : InFront [] := fun _ hc => (List.not_mem_nil hc).elim
    exact ⟨[], new, before, type, arguments, body, whole, nothing, creation⟩
  · obtain ⟨object, rfl, hObject⟩ := shows_primary first
    obtain ⟨dot, rfl, hDot⟩ := shows_tok_iff.mp second
    obtain ⟨new, before, type, arguments, body, rfl, creation⟩ := shows_creation inner
    have unlabelled : ∀ c ∈ [object, dot], c.info.label = none :=
      List.forall_mem_cons.mpr ⟨hObject.label, List.forall_mem_singleton.mpr hDot.fits.label⟩
    have outer : InFront [object, dot] := inFront_of_label unlabelled (by decide) (by decide)
    refine ⟨[object, dot], new, before, type, arguments, body, ?_, outer, creation⟩
    simpa using whole

end Kinds

variable {n c : SyntaxNode}

theorem labelled?_filter {label : String} {nodes : List SyntaxNode}
    (h : ∀ c ∈ nodes, c.info.extra = true → c.info.label = none) :
    labelled? label (nodes.filter fun c => !c.info.extra) = labelled? label nodes := by
  induction nodes with
  | nil => rfl
  | cons c rest ih =>
      obtain ⟨first, later⟩ := List.forall_mem_cons.mp h
      have others := ih later
      rw [labelled?] at others ⊢
      cases extra : c.info.extra with
      | true =>
          rw [List.filter_cons_of_neg (by simp [extra]), others, labelled?, labelled?,
            List.find?_cons_of_neg (by simp [first extra])]
      | false =>
          rw [List.filter_cons_of_pos (by simp [extra]), List.find?_cons, others, labelled?,
            labelled?, List.find?_cons]

/-- A label is looked up among the parts; extra nodes have none. -/
theorem labelled?_parts (grown : Grown src n) (label : String) :
    labelled? label (parts n) = labelled? label n.children :=
  labelled?_filter fun c hc extra => (extras_of_grown grown c hc extra).label

theorem find?_isPart_parts (n : SyntaxNode) :
    ((parts n).find? fun c => isPart c.info) = n.children.find? fun c => isPart c.info := by
  rw [parts, List.find?_filter]
  refine congrArg (fun p => n.children.find? p) (funext fun c => ?_)
  cases extra : c.info.extra <;> simp [isPart, extra]

theorem labelled?_of_parts (grown : Grown src n) {label : String} {nodes : List SyntaxNode}
    (whole : parts n = nodes) (h : labelled? label n.children = some c) :
    labelled? label nodes = some c := by
  rw [← whole, labelled?_parts grown, h]

theorem isPart_of_isNamed {label : Option String} (h : IsNamed label n) : isPart n.info = true := by
  rw [isPart, h.named, h.placed]
  rfl

theorem isPart_of_isText {label : Option String} {token : String} (h : IsText src label token n) :
    isPart n.info = false := by
  rw [isPart, h.fits.named, Bool.false_and]

end Java
end NullSafeEquality
