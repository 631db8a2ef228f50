import NullSafeEquality.Proofs.Coverage

/-!
What the conversion leaves out. It comes to a node only through the compound nodes above, and from
none of them does it go into an omitted part. So the compound nodes that are converted are exactly
those in no omitted part.
-/

namespace NullSafeEquality
namespace Java

open Grammar SyntaxNode

variable {src : Source} {n c : SyntaxNode}

section Picks

variable {info : NodeInfo} {children : List SyntaxNode}

theorem exists_labelled? {label : String} (hc : c ∈ parts (.node info children))
    (same : c.info.label = some label) : ∃ d, labelled? label children = some d :=
  Option.isSome_iff_exists.mp
    (List.find?_isSome.mpr ⟨c, (List.mem_filter.mp hc).1, beq_iff_eq.mpr same⟩)

theorem exists_find?_isPart {label : Option String} (hc : c ∈ parts (.node info children))
    (named : IsNamed label c) : ∃ d, (children.find? fun c => isPart c.info) = some d :=
  Option.isSome_iff_exists.mp
    (List.find?_isSome.mpr ⟨c, (List.mem_filter.mp hc).1, isPart_of_isNamed named⟩)

theorem exists_updateOp? {nodes : List SyntaxNode} (hc : c ∈ nodes)
    (sign : c.kind = "++" ∨ c.kind = "--") : ∃ op, updateOp? nodes = some op := by
  have signed : (nodes.findIdx? fun c => c.kind == "++" || c.kind == "--").isSome = true := by
    refine List.findIdx?_isSome.trans (List.any_eq_true.mpr ⟨c, hc, ?_⟩)
    rcases sign with sign | sign <;> simp [sign]
  obtain ⟨i, found⟩ := Option.isSome_iff_exists.mp signed
  rw [updateOp?, found]
  exact ⟨_, rfl⟩

/-! What is picked from each construct. By its rule it has all the parts that its conversion asks
for, so none becomes an unknown expression. -/

variable (grown : Grown src (.node info children)) (ne : children ≠ [])
include grown ne

theorem picks_paren (kind : info.kind = "parenthesized_expression") :
    picks children (convert src (.node info children)) =
      firstPlace (fun c => isPart c.info) children := by
  obtain ⟨opening, inner, closing, whole, -, hInner, -⟩ := parts_of_paren grown ne kind
  obtain ⟨d, hd⟩ := exists_find?_isPart (by rw [whole]; simp) hInner
  simp only [convert, kind, convertFirst_eq_map, hd, Option.map_some]
  rfl

theorem picks_update (kind : info.kind = "update_expression") :
    picks children (convert src (.node info children)) =
      firstPlace (fun c => isPart c.info) children := by
  obtain ⟨operator, operand, token, hOperator, hOperand, sign, order⟩ :=
    parts_of_update grown ne kind
  have inside : operator ∈ parts (.node info children) ∧ operand ∈ parts (.node info children) := by
    rcases order with whole | whole <;> rw [whole] <;> simp
  obtain ⟨d, hd⟩ := exists_find?_isPart inside.2 hOperand
  obtain ⟨op, hop⟩ := exists_updateOp? (List.mem_filter.mp inside.1).1
    (by rwa [hOperator.fits.kind])
  replace hop : updateOp? children = some op := hop
  simp only [convert, kind, convertFirst_eq_map, hd, hop, Option.map_some]
  rfl

theorem picks_index (kind : info.kind = "array_access") :
    picks children (convert src (.node info children)) =
      firstPlace (hasLabel "array") children ++ firstPlace (hasLabel "index") children := by
  obtain ⟨array, opening, index, closing, whole, hArray, -, hIndex, -⟩ :=
    parts_of_index grown ne kind
  obtain ⟨a, ha⟩ := exists_labelled? (by rw [whole]; simp) hArray.label
  obtain ⟨i, hi⟩ := exists_labelled? (by rw [whole]; simp) hIndex.label
  simp only [convert, kind, convertLabelled_eq_map, ha, hi, Option.map_some]
  rfl

theorem picks_conditional (kind : info.kind = "ternary_expression") :
    picks children (convert src (.node info children)) =
      firstPlace (hasLabel "condition") children ++ firstPlace (hasLabel "consequence") children ++
        firstPlace (hasLabel "alternative") children := by
  obtain ⟨condition, mark, t, colon, e, whole, hCondition, -, hThen, -, hElse⟩ :=
    parts_of_conditional grown ne kind
  obtain ⟨_, h₁⟩ := exists_labelled? (by rw [whole]; simp) hCondition.label
  obtain ⟨_, h₂⟩ := exists_labelled? (by rw [whole]; simp) hThen.label
  obtain ⟨_, h₃⟩ := exists_labelled? (by rw [whole]; simp) hElse.label
  simp only [convert, kind, convertLabelled_eq_map, h₁, h₂, h₃, Option.map_some]
  rfl

theorem picks_cast (kind : info.kind = "cast_expression") :
    picks children (convert src (.node info children)) = firstPlace (hasLabel "value") children := by
  obtain ⟨opening, type, bounds, closing, operand, whole, -, hType, -, -, hOperand⟩ :=
    parts_of_cast grown ne kind
  obtain ⟨t, ht⟩ := exists_labelled? (by rw [whole]; simp) hType.label
  obtain ⟨v, hv⟩ := exists_labelled? (by rw [whole]; simp) hOperand.label
  simp only [convert, kind, convertLabelled_eq_map, labelledText?, ht, hv, Option.map_some]
  rfl

theorem picks_assignment (kind : info.kind = "assignment_expression") :
    picks children (convert src (.node info children)) =
      firstPlace (hasLabel "left") children ++ firstPlace (hasLabel "right") children := by
  obtain ⟨left, operator, right, token, whole, hLeft, hOperator, hRight⟩ :=
    parts_of_assignment grown ne kind
  obtain ⟨l, hl⟩ := exists_labelled? (by rw [whole]; simp) hLeft.label
  obtain ⟨o, ho⟩ := exists_labelled? (by rw [whole]; simp) hOperator.fits.label
  obtain ⟨r, hr⟩ := exists_labelled? (by rw [whole]; simp) hRight.label
  simp only [convert, kind, convertLabelled_eq_map, labelledText?, hl, ho, hr, Option.map_some]
  rfl

theorem picks_binary (kind : info.kind = "binary_expression") :
    picks children (convert src (.node info children)) =
      firstPlace (hasLabel "left") children ++ firstPlace (hasLabel "right") children := by
  obtain ⟨left, operator, right, token, whole, hLeft, hOperator, hRight, known⟩ :=
    parts_of_binary grown ne kind
  obtain ⟨l, hl⟩ := exists_labelled? (by rw [whole]; simp) hLeft.label
  obtain ⟨r, hr⟩ := exists_labelled? (by rw [whole]; simp) hRight.label
  have ho : labelled? "operator" children = some operator := by
    refine (labelled?_parts grown "operator").symm.trans ?_
    rw [whole]
    simp [labelled?, hLeft.label, hOperator.fits.label]
  obtain ⟨op, hop⟩ := Option.isSome_iff_exists.mp known
  simp only [convert, kind, convertLabelled_eq_map, labelledText?, hl, ho, hr, Option.map_some,
    Option.bind_some, hOperator.text, hop]
  rfl

theorem picks_unary (kind : info.kind = "unary_expression") :
    picks children (convert src (.node info children)) =
      firstPlace (hasLabel "operand") children := by
  obtain ⟨operator, operand, token, whole, hOperator, hOperand, known⟩ :=
    parts_of_unary grown ne kind
  obtain ⟨v, hv⟩ := exists_labelled? (by rw [whole]; simp) hOperand.label
  have ho : labelled? "operator" children = some operator := by
    refine (labelled?_parts grown "operator").symm.trans ?_
    rw [whole]
    simp [labelled?, hOperator.fits.label]
  obtain ⟨op, hop⟩ := Option.isSome_iff_exists.mp known
  simp only [convert, kind, convertLabelled_eq_map, labelledText?, ho, hv, Option.map_some,
    Option.bind_some, hOperator.text, hop]
  rfl

theorem picks_call (kind : info.kind = "method_invocation") :
    picks children (convert src (.node info children)) =
      firstPlace (hasLabel "object") children ++ argumentPlaces children := by
  obtain ⟨front, name, list, whole, -, hName, -, -⟩ := parts_of_call grown ne kind
  obtain ⟨w, hw⟩ := exists_labelled? (by rw [whole]; simp) hName.named.label
  simp only [convert, kind, labelledText?, hw, Option.map_some]
  rfl

theorem picks_creation (plain : IsPlainCreation (.node info children)) :
    picks children (convert src (.node info children)) = argumentPlaces children := by
  obtain ⟨outer, new, before, type, list, body, whole, -, -, -, hType, -⟩ :=
    parts_of_creation grown ne plain.1
  obtain ⟨t, ht⟩ := exists_labelled? (by rw [whole]; simp) hType.label
  have kind : info.kind = "object_creation_expression" := plain.1
  have noBody : (children.any fun c => c.kind == "class_body") = false :=
    List.any_eq_false.mpr fun c hc body => plain.2 c hc (eq_of_beq body)
  simp only [convert, kind, labelledText?, ht, Option.map_some, noBody]
  rfl

theorem picks_field (kind : info.kind = "field_access") :
    ∃ field, labelled? "field" children = some field ∧
      picks children (convert src (.node info children)) =
        if field.kind = "this" ∨ field.kind = "super" then []
        else firstPlace (hasLabel "object") children := by
  obtain ⟨object, detour, dot, word, whole, hObject, -, -, hWord⟩ := parts_of_field grown ne kind
  obtain ⟨o, ho⟩ := exists_labelled? (by rw [whole]; simp) hObject.label
  obtain ⟨field, hField⟩ := exists_labelled? (by rw [whole]; simp) hWord.named.label
  refine ⟨field, hField, ?_⟩
  simp only [convert, kind, convertLabelled_eq_map, ho, hField, Option.map_some]
  split
  case h_1 this => rw [if_pos (.inl this)]; rfl
  case h_2 super => rw [if_pos (.inr super)]; rfl
  case h_3 notThis notSuper => rw [if_neg (not_or.mpr ⟨notThis, notSuper⟩)]; rfl

theorem pick_of_operandKind (kind : info.kind ∈ operandKinds) {place : List Nat}
    (picked : place ∈ picks children (convert src (.node info children))) :
    (∃ i, place = [i]) ∨ info.kind = "method_invocation" ∧ place ∈ argumentPlaces children := by
  simp only [operandKinds, List.mem_cons, List.not_mem_nil, or_false] at kind
  rcases kind with kind | kind | kind | kind | kind | kind | kind | kind | kind | kind
  · rw [picks_paren grown ne kind] at picked
    exact .inl (exists_of_mem_firstPlace picked)
  · obtain ⟨field, -, whole⟩ := picks_field grown ne kind
    rw [whole, List.mem_ite_nil_left] at picked
    exact .inl (exists_of_mem_firstPlace picked.2)
  · rw [picks_index grown ne kind] at picked
    exact .inl (exists_of_mem_firstPlaces picked)
  · rw [picks_call grown ne kind] at picked
    exact (List.mem_append.mp picked).imp exists_of_mem_firstPlace fun argument => ⟨kind, argument⟩
  · rw [picks_binary grown ne kind] at picked
    exact .inl (exists_of_mem_firstPlaces picked)
  · rw [picks_unary grown ne kind] at picked
    exact .inl (exists_of_mem_firstPlace picked)
  · rw [picks_update grown ne kind] at picked
    exact .inl (exists_of_mem_firstPlace picked)
  · rw [picks_assignment grown ne kind] at picked
    exact .inl (exists_of_mem_firstPlaces picked)
  · rw [picks_conditional grown ne kind] at picked
    exact .inl ((List.mem_append.mp picked).elim exists_of_mem_firstPlaces exists_of_mem_firstPlace)
  · rw [picks_cast grown ne kind] at picked
    exact .inl (exists_of_mem_firstPlace picked)

end Picks

/-- A picked place is that of a child, of an argument, or of an outermost compound node. -/
theorem pick_cases {e : Expr} (conv : Conversion src n.info n.children e) {place : List Nat}
    (picked : place ∈ picks n.children e) :
    (∃ i, place = [i]) ∨
      (n.kind = "method_invocation" ∨ n.kind = "object_creation_expression") ∧
        place ∈ argumentPlaces n.children ∨
      place ∈ compoundPlaces 0 n.children := by
  cases conv with
  | literal _ | name _ | self _ | super _ | outerSelf _ _ _ _ | outerSuper _ _ _ _ => cases picked
  | field _ _ _ _ _ | unary _ _ _ _ | update _ _ _ | paren _ _ | cast _ _ _ =>
      exact .inl (exists_of_mem_firstPlace picked)
  | index _ _ _ | binary _ _ _ _ _ | assign _ _ _ _ =>
      exact .inl (exists_of_mem_firstPlaces picked)
  | conditional _ _ _ _ =>
      exact .inl ((List.mem_append.mp picked).elim exists_of_mem_firstPlaces exists_of_mem_firstPlace)
  | call kind _ =>
      rcases List.mem_append.mp picked with object | argument
      · exact .inl (exists_of_mem_firstPlace object)
      · exact .inr (.inl ⟨.inl kind, argument⟩)
  | new kind _ _ => exact .inr (.inl ⟨.inr kind, picked⟩)
  | unknown => exact .inr (.inr picked)

/-- No compound node stands above an outermost one. -/
theorem plain_above_compoundPlace {nodes : List SyntaxNode} {above further : List Nat}
    (picked : above ++ further ∈ compoundPlaces 0 nodes) (proper : further ≠ [])
    (hc : inRow? nodes above = some c) : isCompound c.kind = false := by
  induction above generalizing nodes with
  | nil => cases hc
  | cons i above ih =>
      obtain ⟨k, path, n, split, hn, -, inside⟩ := mem_compoundPlaces_iff.mp picked
      rw [Nat.zero_add] at split
      obtain ⟨rfl, rfl⟩ := List.cons.inj split
      obtain ⟨d, hd, hc⟩ := Option.bind_eq_some_iff.mp hc
      cases hn.symm.trans hd
      cases compound : isCompound n.kind with
      | true =>
          rw [if_pos compound] at inside
          exact (proper (List.append_eq_nil_iff.mp inside).2).elim
      | false =>
          rw [compound, if_neg Bool.false_ne_true] at inside
          cases above with
          | nil =>
              cases hc
              exact compound
          | cons j above =>
              exact ih inside ((at?_eq_inRow? n (List.cons_ne_nil j above)).symm.trans hc)

/-- No compound node stands between a converted node and a picked one. -/
theorem plain_above_pick (grown : Everywhere (Grown src) n) {above further : List Nat}
    (picked : above ++ further ∈ picks n.children (convert src n)) (below : above ≠ [])
    (proper : further ≠ []) (hc : n.at? above = some c) : isCompound c.kind = false := by
  obtain ⟨k, above, rfl⟩ := List.exists_cons_of_ne_nil below
  obtain ⟨d, hd, inside⟩ := at?_cons_eq_some_iff.mp hc
  rcases pick_cases (conversion_of src n) picked with ⟨i, single⟩ | ⟨kind, argument⟩ | outermost
  · obtain ⟨-, ends⟩ := List.cons.inj single
    exact (proper (List.append_eq_nil_iff.mp ends).2).elim
  · obtain ⟨i, j, list, split, hList, label⟩ := exists_of_mem_argumentPlaces argument
    obtain ⟨rfl, rest⟩ := List.cons.inj split
    cases hList.symm.trans hd
    rcases List.append_eq_singleton_iff.mp rest with ⟨rfl, -⟩ | ⟨-, ends⟩
    · cases inside
      have mem : c ∈ n.children := List.mem_of_getElem? hd
      rw [kind_of_arguments grown (List.ne_nil_of_mem mem) kind mem label]
      decide
    · exact (proper ends).elim
  · exact plain_above_compoundPlace outermost proper
      ((at?_eq_inRow? n (List.cons_ne_nil k above)).symm.trans hc)

theorem exists_passed_of_through? {places : List (List Nat)} {j : Nat}
    {further : SyntaxNode → Option (List Nat)} {above below : List Nat}
    (clear : ∀ rest, rest ≠ [] → above ++ rest ∉ places)
    (h : through? n places j further = some (above ++ below)) :
    ∃ place c rest, above = place ++ rest ∧ n.at? place = some c ∧
      further c = some (rest ++ below) := by
  obtain ⟨place, c, r, hj, hc, hr, split⟩ := through?_eq_some_iff.mp h
  have mem := List.mem_of_getElem? hj
  rcases List.append_eq_append_iff.mp split with ⟨rest, rfl, rfl⟩ | ⟨rest, rfl, rfl⟩
  · cases rest with
    | nil =>
        rw [List.append_nil] at hc
        exact ⟨above, c, [], (List.append_nil above).symm, hc, hr⟩
    | cons k rest => exact (clear (k :: rest) (List.cons_ne_nil k rest) mem).elim
  · exact ⟨place, c, rest, rfl, hc, hr⟩

/-- What is converted below a compound node is converted below its expression. -/
theorem exists_origin_below (grown : Everywhere (Grown src) n) {q above below : List Nat}
    (h : origin? src n q = some (above ++ below)) (hc : n.at? above = some c)
    (compound : isCompound c.kind = true) : ∃ further, origin? src c further = some below := by
  induction q generalizing n above with
  | nil =>
      obtain ⟨rfl, rfl⟩ := List.append_eq_nil_iff.mp (Option.some.inj h).symm
      cases hc
      exact ⟨[], rfl⟩
  | cons j q ih =>
      by_cases here : above = []
      · subst here
        cases hc
        exact ⟨j :: q, h⟩
      · -- No pick is below the compound node, so it is picked itself or stands below a pick.
        have clear (rest : List Nat) (proper : rest ≠ []) :
            above ++ rest ∉ picks n.children (convert src n) := fun picked => by
          cases (plain_above_pick grown picked here proper hc).symm.trans compound
        obtain ⟨place, d, rest, rfl, hd, inside⟩ := exists_passed_of_through? clear h
        rw [at?_append_of_at? hd] at hc
        exact ih (grown.at? hd) inside hc

theorem exists_origin_of_rootOrigin {tree : SyntaxNode} (grown : Everywhere (Grown src) tree)
    {q above below : List Nat} (h : rootOrigin? src tree q = some (above ++ below))
    (hc : tree.at? above = some c) (compound : isCompound c.kind = true) :
    ∃ further, origin? src c further = some below := by
  cases q with
  | nil => cases h
  | cons i q =>
      have clear (rest : List Nat) (proper : rest ≠ []) : above ++ rest ∉ rootPlaces tree := by
        intro root
        rw [rootPlaces] at root
        cases whole : isCompound tree.kind with
        | true =>
            rw [if_pos whole, List.mem_singleton] at root
            exact proper (List.append_eq_nil_iff.mp root).2
        | false =>
            rw [whole, if_neg Bool.false_ne_true] at root
            cases above with
            | nil =>
                cases hc
                cases whole.symm.trans compound
            | cons k above =>
                rw [at?_eq_inRow? tree (List.cons_ne_nil k above)] at hc
                cases (plain_above_compoundPlace root proper hc).symm.trans compound
      obtain ⟨place, d, rest, rfl, hd, inside⟩ := exists_passed_of_through? clear h
      rw [at?_append_of_at? hd] at hc
      exact exists_origin_below (grown.at? hd) inside hc compound

theorem AtLabel.label_eq {nodes : List SyntaxNode} {label : String} {place further rest : List Nat}
    {i : Nat} (h : AtLabel nodes label place) (hc : nodes[i]? = some c)
    (same : place ++ further = i :: rest) : c.info.label = some label := by
  obtain ⟨k, path, n, rfl, hn, labelled⟩ := h
  obtain ⟨rfl, -⟩ := List.cons.inj same
  cases hn.symm.trans hc
  exact labelled

theorem Omits.children_ne_nil {place : List Nat} (h : Omits n place) : n.children ≠ [] := by
  cases h with
  | castType _ hc _ | typeArguments _ hc _ | qualifier _ hc _ _ _ | creation _ hc _ | literal _ hc _
  | argument _ hc _ _ _ => exact List.ne_nil_of_mem (List.mem_of_getElem? hc)

theorem Omits.place_ne_nil {place : List Nat} (h : Omits n place) : place ≠ [] := by
  cases h <;> exact List.cons_ne_nil _ _

/-- Only compound nodes omit parts. -/
theorem Omits.kind {place : List Nat} (h : Omits n place) :
    n.kind ∈ "object_creation_expression" :: operandKinds := by
  cases h with
  | castType kind _ _ | typeArguments kind _ _ | qualifier kind _ _ _ _ => rw [kind]; decide
  | creation plain _ _ => rw [plain.1]; decide
  | literal kind _ _ => exact List.mem_cons_of_mem _ kind
  | argument kind _ _ _ _ => rcases kind with kind | ⟨kind, -⟩ <;> rw [kind] <;> decide

theorem Omits.compound {place : List Nat} (h : Omits n place) : isCompound n.kind = true :=
  (show ∀ kind ∈ "object_creation_expression" :: operandKinds, isCompound kind = true by decide)
    n.kind h.kind

/-- No picked place stands in an omitted part, or it is a string literal. -/
theorem string_of_omitted_pick (grown : Everywhere (Grown src) n) {place pick below further : List Nat}
    (omits : Omits n place) (picked : pick ∈ picks n.children (convert src n))
    (same : pick ++ further = place ++ below) :
    ∃ c, n.at? pick = some c ∧ c.kind = "string_literal" := by
  have ne := omits.children_ne_nil
  obtain ⟨info, children⟩ := n
  replace picked : pick ∈ picks children (convert src (.node info children)) := picked
  cases omits with
  | castType kind hc label =>
      rw [picks_cast grown.here ne kind] at picked
      have other := (atLabel_of_mem_firstPlace picked).label_eq hc same
      exact absurd (label.symm.trans other) (by decide)
  | typeArguments kind hc label =>
      rw [picks_call grown.here ne kind] at picked
      rcases List.mem_append.mp picked with object | argument
      · have other := (atLabel_of_mem_firstPlace object).label_eq hc same
        exact absurd (label.symm.trans other) (by decide)
      · have other := (atLabel_of_mem_argumentPlaces argument).label_eq hc same
        exact absurd (label.symm.trans other) (by decide)
  | qualifier kind hc label hField word =>
      obtain ⟨field, found, whole⟩ := picks_field grown.here ne kind
      cases found.symm.trans hField
      rw [whole, if_pos word] at picked
      cases picked
  | creation plain hc label =>
      rw [picks_creation grown.here ne plain] at picked
      exact (label ((atLabel_of_mem_argumentPlaces picked).label_eq hc same)).elim
  | @literal i c kind hc literal =>
      rcases pick_of_operandKind grown.here ne kind picked with ⟨k, rfl⟩ | ⟨call, argument⟩
      · obtain ⟨rfl, -⟩ := List.cons.inj same
        exact ⟨c, at?_cons_eq_some_iff.mpr ⟨c, hc, at?_nil c⟩, literal⟩
      · have label := (atLabel_of_mem_argumentPlaces argument).label_eq hc same
        have list := kind_of_arguments grown ne (.inl call) (List.mem_of_getElem? hc) label
        exact absurd (list.symm.trans literal) (by decide)
  | @argument i j list c kind hList label hc literal =>
      have argument : pick ∈ argumentPlaces children := by
        rcases kind with kind | plain
        · rw [picks_call grown.here ne kind] at picked
          refine (List.mem_append.mp picked).resolve_left fun object => ?_
          have other := (atLabel_of_mem_firstPlace object).label_eq hList same
          exact absurd (label.symm.trans other) (by decide)
        · rwa [picks_creation grown.here ne plain] at picked
      obtain ⟨k, l, _, rfl, -, -⟩ := exists_of_mem_argumentPlaces argument
      obtain ⟨rfl, rest⟩ := List.cons.inj same
      obtain ⟨rfl, -⟩ := List.cons.inj rest
      exact ⟨c, at?_cons_eq_some_iff.mpr ⟨list, hList, at?_cons_eq_some_iff.mpr ⟨c, hc, at?_nil c⟩⟩,
        literal⟩

theorem picks_string (kind : n.kind = "string_literal") :
    picks n.children (convert src n) = [] := by
  obtain ⟨info, children⟩ := n
  replace kind : info.kind = "string_literal" := kind
  simp only [convert, kind]
  rfl

/-- No compound node in an omitted part is converted with the node that omits it. -/
theorem origin?_ne_of_omits (grown : Everywhere (Grown src) n) {place below : List Nat}
    (omits : Omits n place) (hc : n.at? (place ++ below) = some c)
    (compound : isCompound c.kind = true) (q : List Nat) :
    origin? src n q ≠ some (place ++ below) := by
  intro found
  cases q with
  | nil =>
      have empty : place ++ below = [] := (Option.some.inj found).symm
      exact omits.place_ne_nil (List.append_eq_nil_iff.mp empty).1
  | cons j q =>
      obtain ⟨pick, d, r, hj, hd, inside, split⟩ := through?_eq_some_iff.mp found
      obtain ⟨s, hs, string⟩ := string_of_omitted_pick grown omits (List.mem_of_getElem? hj) split.symm
      cases hd.symm.trans hs
      cases q with
      | nil =>
          cases inside
          rw [split, List.append_nil, hd] at hc
          cases hc
          rw [string] at compound
          cases compound
      | cons k q =>
          obtain ⟨_, _, _, picked, -⟩ := through?_eq_some_iff.mp inside
          rw [picks_string string] at picked
          cases picked

theorem rootOrigin?_ne_of_omitted {tree : SyntaxNode} (grown : Everywhere (Grown src) tree)
    {path : List Nat} (omitted : Omitted tree path) (hc : tree.at? path = some c)
    (compound : isCompound c.kind = true) (q : List Nat) : rootOrigin? src tree q ≠ some path := by
  obtain ⟨above, place, below, n, rfl, hn, omits⟩ := omitted
  intro found
  rw [List.append_assoc] at found hc
  obtain ⟨further, inside⟩ := exists_origin_of_rootOrigin grown found hn omits.compound
  rw [at?_append_of_at? hn] at hc
  exact origin?_ne_of_omits (grown.at? hn) omits hc compound further inside

/-- In the tree of a text that fits the grammar a compound node is converted to one expression of the
forest exactly if it is in no omitted part. No node is converted to two, and each expression is the
conversion of its node. -/
theorem compound_converted_once (src : Source) (tree : SyntaxNode)
    (derived : Derives grammar src tree) :
    (∀ path m, tree.at? path = some m → isCompound m.kind = true →
      ((∃! q, rootOrigin? src tree q = some path) ↔ ¬ Omitted tree path)) ∧
    (∀ q q' path, rootOrigin? src tree q = some path → rootOrigin? src tree q' = some path →
      q = q') ∧
    ∀ q e, Expr.inForest? (unitOf src tree).roots q = some e ↔
      ∃ path m, rootOrigin? src tree q = some path ∧ tree.at? path = some m ∧
        e = convert src m := by
  have grown := grown_of_derives derived
  refine ⟨fun path m h compound => ⟨?_, fun clear => ?_⟩,
    fun q q' path hq hq' => rootOrigin?_injective hq hq', fun q e => ⟨fun h => ?_, ?_⟩⟩
  · rintro ⟨q, hq, -⟩ omitted
    exact rootOrigin?_ne_of_omitted grown omitted h compound q hq
  · obtain ⟨q, hq⟩ := exists_rootOrigin grown clear h compound
    exact ⟨q, hq, fun q' hq' => rootOrigin?_injective hq' hq⟩
  · obtain ⟨path, m, hp, hm, rfl⟩ := exists_node_of_inForest? h
    exact ⟨path, m, hp, hm, rfl⟩
  · rintro ⟨path, m, hp, hm, rfl⟩
    show Expr.inForest? (rootsOf src tree) q = _
    rw [inForest?_rootsOf, hp, Option.bind_some, hm, Option.map_some]

theorem not_omitted_of_above {tree : SyntaxNode} {path : List Nat}
    (plain : ∀ k < path.length, ∀ n ∈ tree.at? (path.take k),
      n.kind ∉ "object_creation_expression" :: operandKinds) : ¬ Omitted tree path := by
  rintro ⟨above, place, below, n, rfl, hn, omits⟩
  refine plain above.length ?_ n ?_ omits.kind
  · have proper := List.length_pos_iff.mpr omits.place_ne_nil
    simp only [List.length_append]
    omega
  · rwa [List.append_assoc, List.take_left]

/-- A creation with an outer object, and a test in this object. -/
def outerObjectSource : Source :=
  .ofString "class T \x7b void f() \x7b o.get(a.equals(b)).new Inner(); \x7d \x7d"

def outerObject : SyntaxNode :=
  inMethod (.node { kind := "expression_statement", start := 21, stop := 52 } [
    .node { kind := "object_creation_expression", start := 21, stop := 51 } [
      .node { kind := "method_invocation", start := 21, stop := 39 } [
        word "identifier" "object" 21 22, written "." 22, word "identifier" "name" 23 26,
        .node { kind := "argument_list", label := "arguments", start := 26, stop := 39 } [
          written "(" 26,
          .node { kind := "method_invocation", start := 27, stop := 38 } [
            word "identifier" "object" 27 28, written "." 28, word "identifier" "name" 29 35,
            .node { kind := "argument_list", label := "arguments", start := 35, stop := 38 } [
              written "(" 35, word "identifier" none 36 37, written ")" 37]],
          written ")" 38]],
      written "." 39, written "new" 40, word "type_identifier" "type" 44 49,
      .node { kind := "argument_list", label := "arguments", start := 49, stop := 51 } [
        written "(" 49, written ")" 50]],
    written ";" 51])

theorem derives_outerObject : Derives grammar outerObjectSource outerObject :=
  have found : grammar.isDerivedWithin outerObjectSource 80 outerObject = true := by decide +kernel
  grammar.derives_of_isDerivedWithin outerObjectSource found

theorem outerObject_creation_converted_once :
    Derives grammar outerObjectSource outerObject ∧
    ∃! q, rootOrigin? outerObjectSource outerObject q = some [0, 2, 1, 3, 1, 0] := by
  have clear : ¬ Omitted outerObject [0, 2, 1, 3, 1, 0] :=
    not_omitted_of_above (by decide)
  exact ⟨derives_outerObject, ((compound_converted_once outerObjectSource outerObject
    derives_outerObject).1 [0, 2, 1, 3, 1, 0] _ rfl (by decide)).mpr clear⟩

/-- The test is one on its own, but what is in front of `new` is not converted, so it is not found. -/
theorem outerObject_test_not_converted :
    Derives grammar outerObjectSource outerObject ∧
    (∃ m, outerObject.at? [0, 2, 1, 3, 1, 0, 0, 3, 1] = some m ∧ isCompound m.kind = true ∧
      m.text outerObjectSource = "a.equals(b)" ∧
      ∃ found, Expr.recognize? {} (convert outerObjectSource m) = some found) ∧
    (∀ q, rootOrigin? outerObjectSource outerObject q ≠ some [0, 2, 1, 3, 1, 0, 0, 3, 1]) ∧
    ((unitOf outerObjectSource outerObject).inspect {}).diagnostics = [] := by
  have omitted : Omitted outerObject [0, 2, 1, 3, 1, 0, 0, 3, 1] :=
    ⟨[0, 2, 1, 3, 1, 0], [0], [3, 1], _, rfl, rfl, .creation ⟨rfl, by decide⟩ rfl (by decide)⟩
  refine ⟨derives_outerObject, ⟨_, rfl, by decide, by decide +kernel, _, rfl⟩, ?_, by rfl⟩
  exact rootOrigin?_ne_of_omitted (grown_of_derives derives_outerObject) omitted rfl (by decide)

end Java
end NullSafeEquality
