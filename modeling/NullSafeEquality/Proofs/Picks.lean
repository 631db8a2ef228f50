import NullSafeEquality.Proofs.Conversion
import NullSafeEquality.Proofs.FieldOrder

/-!
Which nodes the children of a converted expression come from. The places of these nodes are listed
in the order of the children; they part pairwise, so that no node is picked twice and none inside
another.
-/

namespace NullSafeEquality
namespace Java

open SyntaxNode

/-- The place of the first node with a property in a row. -/
def firstPlace (accepts : SyntaxNode → Bool) (nodes : List SyntaxNode) : List (List Nat) :=
  (nodes.findIdx? accepts).toList.map fun i => [i]

/-- The places of the parts in a row. -/
def partPlaces (nodes : List SyntaxNode) : List (List Nat) :=
  (nodes.zipIdx.filter fun n => isPart n.1.info).map fun n => [n.2]

/-- The places of the arguments below the first node with the label of arguments. -/
def argumentPlaces (nodes : List SyntaxNode) : List (List Nat) :=
  match nodes.findIdx? (hasLabel "arguments") with
  | some k => (partPlaces ((nodes[k]?.map SyntaxNode.children).getD [])).map (k :: ·)
  | none => []

/-- The places of the outermost compound nodes inside the named nodes of a row that begins at a
number. -/
def compoundPlaces (first : Nat) : List SyntaxNode → List (List Nat)
  | [] => []
  | .node info children :: rest =>
      (if info.named then
        if isCompound info.kind then [[first]] else (compoundPlaces 0 children).map (first :: ·)
      else []) ++ compoundPlaces (first + 1) rest

/-- The places of the nodes from which the children of an expression come, among the children of
the node that it was converted from. -/
def picks (nodes : List SyntaxNode) : Expr → List (List Nat)
  | .literal .. | .name .. | .self .. | .super .. => []
  | .field .. => firstPlace (hasLabel "object") nodes
  | .index .. => firstPlace (hasLabel "array") nodes ++ firstPlace (hasLabel "index") nodes
  | .call .. => firstPlace (hasLabel "object") nodes ++ argumentPlaces nodes
  | .new .. => argumentPlaces nodes
  | .binary .. | .assign .. =>
      firstPlace (hasLabel "left") nodes ++ firstPlace (hasLabel "right") nodes
  | .unary .. => firstPlace (hasLabel "operand") nodes
  | .update .. | .paren .. => firstPlace (fun n => isPart n.info) nodes
  | .conditional .. =>
      firstPlace (hasLabel "condition") nodes ++ firstPlace (hasLabel "consequence") nodes ++
        firstPlace (hasLabel "alternative") nodes
  | .cast .. => firstPlace (hasLabel "value") nodes
  | .unknown .. => compoundPlaces 0 nodes

variable (src : Source)

/-- The expression that the node at a place in a row writes. -/
def convertAt? (nodes : List SyntaxNode) (path : List Nat) : Option Expr :=
  (inRow? nodes path).map (convert src)

theorem convertAt?_firstPlace (accepts : SyntaxNode → Bool) (nodes : List SyntaxNode) :
    (firstPlace accepts nodes).map (convertAt? src nodes) =
      ((nodes.find? accepts).map (convert src)).toList.map some := by
  cases h : nodes.findIdx? accepts with
  | none =>
      have absent : nodes.find? accepts = none := by
        rw [List.find?_eq_none]
        exact fun n hn => Bool.eq_false_iff.mp (List.findIdx?_eq_none_iff.mp h n hn)
      rw [firstPlace, h, absent]
      rfl
  | some i =>
      obtain ⟨bound, found⟩ := List.findIdx?_eq_some_iff_findIdx_eq.mp h
      have present : nodes.find? accepts = nodes[i]? := by
        rw [List.find?_eq_getElem?_findIdx, found]
      rw [firstPlace, h, present, List.getElem?_eq_getElem bound]
      simp [convertAt?, inRow?, bound]

theorem convertAt?_partPlaces (nodes : List SyntaxNode) :
    (partPlaces nodes).map (convertAt? src nodes) =
      ((nodes.filter fun n => isPart n.info).map (convert src)).map some := by
  have placed : (nodes.zipIdx.filter fun n => isPart n.1.info).map Prod.fst =
      nodes.filter fun n => isPart n.info := by
    conv => rhs; rw [← List.zipIdx_map_fst 0 nodes]
    rw [List.filter_map]
    rfl
  rw [← placed, partPlaces]
  simp only [List.map_map]
  refine List.map_congr_left fun n hn => ?_
  have here := List.mem_zipIdx_iff_getElem?.mp (List.mem_filter.mp hn).1
  simp [convertAt?, inRow?, here]

theorem rootsOfNamed_cons (info : NodeInfo) (children rest : List SyntaxNode)
    (after : List Expr) :
    rootsOfNamed src (.node info children :: rest) after =
      if info.named then
        if isCompound info.kind then
          convert src (.node info children) :: rootsOfNamed src rest after
        else rootsOfNamed src children (rootsOfNamed src rest after)
      else rootsOfNamed src rest after := by
  rw [rootsOfNamed]

theorem rootsOfNamed_eq_append (nodes : List SyntaxNode) (after : List Expr) :
    rootsOfNamed src nodes after = rootsOfNamed src nodes [] ++ after := by
  induction nodes using rowInduction generalizing after with
  | nil => rw [rootsOfNamed, rootsOfNamed, List.nil_append]
  | cons info children rest inside others =>
      rw [rootsOfNamed_cons, rootsOfNamed_cons]
      split
      · split
        · rw [others after, List.cons_append]
        · rw [inside (rootsOfNamed src rest after), inside (rootsOfNamed src rest []),
            others after, List.append_assoc]
      · exact others after

theorem convertAt?_cons (n : SyntaxNode) (rest : List SyntaxNode) (path : List Nat) :
    convertAt? src (n :: rest) (0 :: path) = (n.at? path).map (convert src) := rfl

theorem convertAt?_append_length (before nodes : List SyntaxNode) (path : List Nat) :
    convertAt? src (before ++ nodes) (before.length :: path) =
      convertAt? src nodes (0 :: path) := by
  have same : (before ++ nodes)[before.length]? = nodes[0]? := by
    rw [List.getElem?_append_right (Nat.le_refl _), Nat.sub_self]
  simp only [convertAt?, inRow?, same]

theorem map_convertAt?_cons (n : SyntaxNode) (before rest : List SyntaxNode)
    (paths : List (List Nat)) (inside : ∀ p ∈ paths, p ≠ []) :
    (paths.map (before.length :: ·)).map (convertAt? src (before ++ n :: rest)) =
      paths.map (convertAt? src n.children) := by
  rw [List.map_map]
  refine List.map_congr_left fun p hp => ?_
  rw [Function.comp_apply, convertAt?_append_length, convertAt?_cons, convertAt?,
    at?_eq_inRow? n (inside p hp)]

theorem partPlaces_ne_nil {nodes : List SyntaxNode} : ∀ p ∈ partPlaces nodes, p ≠ [] := by
  intro p hp
  obtain ⟨n, -, rfl⟩ := List.mem_map.mp hp
  exact List.cons_ne_nil _ _

/-- An outermost compound node is a named node of the row that is compound, or stands in one that is
not. -/
theorem mem_compoundPlaces_iff {nodes : List SyntaxNode} {first : Nat} {place : List Nat} :
    place ∈ compoundPlaces first nodes ↔
      ∃ i path n, place = (first + i) :: path ∧ nodes[i]? = some n ∧ n.info.named = true ∧
        if isCompound n.kind then path = [] else path ∈ compoundPlaces 0 n.children := by
  induction nodes generalizing first with
  | nil => simp [compoundPlaces]
  | cons c rest ih =>
      obtain ⟨info, children⟩ := c
      have here : (place ∈ if info.named then
          if isCompound info.kind then [[first]] else (compoundPlaces 0 children).map (first :: ·)
          else []) ↔ ∃ path, place = first :: path ∧ info.named = true ∧
            if isCompound info.kind then path = [] else path ∈ compoundPlaces 0 children := by
        cases info.named <;> cases isCompound info.kind <;> simp [and_comm, eq_comm]
      rw [compoundPlaces, List.mem_append, here, ih]
      constructor
      · rintro (⟨path, rfl, named, inside⟩ | ⟨i, path, n, rfl, hn, named, inside⟩)
        · exact ⟨0, path, .node info children, rfl, rfl, named, inside⟩
        · exact ⟨i + 1, path, n, by rw [Nat.add_assoc, Nat.add_comm 1], hn, named, inside⟩
      · rintro ⟨i, path, n, rfl, hn, named, inside⟩
        cases i with
        | zero =>
            cases hn
            exact .inl ⟨path, rfl, named, inside⟩
        | succ i =>
            exact .inr ⟨i, path, n, by rw [Nat.add_assoc, Nat.add_comm 1], hn, named, inside⟩

theorem mem_compoundPlaces_of_compound {nodes : List SyntaxNode} {i : Nat} {n : SyntaxNode}
    (hn : nodes[i]? = some n) (named : n.info.named = true) (compound : isCompound n.kind = true) :
    [i] ∈ compoundPlaces 0 nodes :=
  mem_compoundPlaces_iff.mpr ⟨i, [], n, by rw [Nat.zero_add], hn, named, by rw [if_pos compound]⟩

theorem mem_compoundPlaces_of_inside {nodes : List SyntaxNode} {i : Nat} {n : SyntaxNode}
    {place : List Nat} (hn : nodes[i]? = some n) (named : n.info.named = true)
    (plain : isCompound n.kind = false) (inside : place ∈ compoundPlaces 0 n.children) :
    i :: place ∈ compoundPlaces 0 nodes :=
  mem_compoundPlaces_iff.mpr
    ⟨i, place, n, by rw [Nat.zero_add], hn, named, by rwa [plain, if_neg Bool.false_ne_true]⟩

theorem head_of_mem_compoundPlaces {nodes : List SyntaxNode} {first : Nat} {place : List Nat}
    (h : place ∈ compoundPlaces first nodes) : ∃ i path, place = i :: path ∧ first ≤ i := by
  obtain ⟨i, path, -, rfl, -⟩ := mem_compoundPlaces_iff.mp h
  exact ⟨first + i, path, rfl, Nat.le_add_right first i⟩

theorem compoundPlaces_ne_nil {nodes : List SyntaxNode} :
    ∀ p ∈ compoundPlaces 0 nodes, p ≠ [] := by
  intro p hp
  obtain ⟨i, path, rfl, -⟩ := head_of_mem_compoundPlaces hp
  exact List.cons_ne_nil i path

theorem convertAt?_argumentPlaces (nodes : List SyntaxNode) :
    (argumentPlaces nodes).map (convertAt? src nodes) =
      (((labelled? "arguments" nodes).elim [] fun n =>
        n.children.filter fun c => isPart c.info).map (convert src)).map some := by
  rw [argumentPlaces]
  cases h : nodes.findIdx? (hasLabel "arguments") with
  | none =>
      have absent : labelled? "arguments" nodes = none := by
        rw [labelled?, List.find?_eq_none]
        exact fun n hn => Bool.eq_false_iff.mp (List.findIdx?_eq_none_iff.mp h n hn)
      rw [absent]
      rfl
  | some k =>
      obtain ⟨bound, found⟩ := List.findIdx?_eq_some_iff_findIdx_eq.mp h
      have present : labelled? "arguments" nodes = some nodes[k] := by
        have lookup : labelled? "arguments" nodes = nodes[nodes.findIdx (hasLabel "arguments")]? :=
          List.find?_eq_getElem?_findIdx
        rw [lookup, found, List.getElem?_eq_getElem bound]
      have inside (p : List Nat) (hp : p ∈ partPlaces nodes[k].children) :
          convertAt? src nodes (k :: p) = convertAt? src nodes[k].children p := by
        rw [convertAt?, inRow?, List.getElem?_eq_getElem bound, Option.bind_some,
          at?_eq_inRow? _ (partPlaces_ne_nil p hp), convertAt?]
      simp only [List.getElem?_eq_getElem bound, Option.map_some, Option.getD_some, present,
        Option.elim_some]
      rw [← convertAt?_partPlaces, List.map_map]
      exact List.map_congr_left inside

theorem convertAt?_compoundPlaces (before nodes : List SyntaxNode) :
    (compoundPlaces before.length nodes).map (convertAt? src (before ++ nodes)) =
      (rootsOfNamed src nodes []).map some := by
  induction nodes using rowInduction generalizing before with
  | nil =>
      rw [compoundPlaces, rootsOfNamed]
      rfl
  | cons info children rest inside others =>
      have later : (compoundPlaces (before.length + 1) rest).map
          (convertAt? src (before ++ .node info children :: rest)) =
          (rootsOfNamed src rest []).map some := by
        have moved := others (before ++ [.node info children])
        rwa [List.length_append, List.length_singleton, List.append_assoc,
          List.singleton_append] at moved
      have below : ((compoundPlaces 0 children).map (before.length :: ·)).map
          (convertAt? src (before ++ .node info children :: rest)) =
          (rootsOfNamed src children []).map some :=
        (map_convertAt?_cons src (.node info children) before rest _ compoundPlaces_ne_nil).trans
          (inside [])
      rw [compoundPlaces, rootsOfNamed_cons, List.map_append, later]
      split
      · split
        · rw [List.map_singleton, convertAt?_append_length, convertAt?_cons, at?_nil,
            Option.map_some, List.map_cons, List.singleton_append]
        · rw [below, rootsOfNamed_eq_append src children (rootsOfNamed src rest []), List.map_append]
      · rw [List.map_nil, List.nil_append]

/-- The children of an expression are the expressions of the nodes at the picked places. -/
theorem convertAt?_picks {info : NodeInfo} {nodes : List SyntaxNode} {e : Expr}
    (h : Conversion src info nodes e) :
    (picks nodes e).map (convertAt? src nodes) = e.children.map some := by
  have first (label : String) : (firstPlace (hasLabel label) nodes).map (convertAt? src nodes) =
      ((labelled? label nodes).map (convert src)).toList.map some :=
    convertAt?_firstPlace src (hasLabel label) nodes
  have part := convertAt?_firstPlace src (fun n => isPart n.info) nodes
  cases h with
  | literal _ | name _ | self _ | super _ | outerSelf _ _ _ _ | outerSuper _ _ _ _ => rfl
  | call _ _ | new _ _ _ =>
      simp only [picks, Expr.children, List.map_append, first, convertAt?_argumentPlaces]
  | unknown => exact convertAt?_compoundPlaces src [] nodes
  | field _ h1 _ _ _ | unary _ _ h1 _ | cast _ _ h1 => simp [picks, Expr.children, first, h1]
  | index _ h1 h2 | binary _ h1 _ h2 _ | assign _ h1 _ h2 =>
      simp [picks, Expr.children, first, h1, h2]
  | conditional _ h1 h2 h3 => simp [picks, Expr.children, first, h1, h2, h3]
  | update _ _ h1 | paren _ h1 => simp [picks, Expr.children, part, h1]

/-- The place leads to or through a node with a label. -/
def AtLabel (nodes : List SyntaxNode) (label : String) (place : List Nat) : Prop :=
  ∃ i path n, place = i :: path ∧ nodes[i]? = some n ∧ n.info.label = some label

variable {nodes : List SyntaxNode}

theorem atLabel_of_mem_firstPlace {label : String} {place : List Nat}
    (h : place ∈ firstPlace (hasLabel label) nodes) : AtLabel nodes label place := by
  obtain ⟨i, hi, rfl⟩ := List.mem_map.mp h
  obtain ⟨bound, accepted, -⟩ := List.findIdx?_eq_some_iff_getElem.mp (Option.mem_toList.mp hi)
  exact ⟨i, [], nodes[i], rfl, List.getElem?_eq_getElem bound, eq_of_beq accepted⟩

theorem exists_of_mem_argumentPlaces {place : List Nat} (h : place ∈ argumentPlaces nodes) :
    ∃ i j list, place = [i, j] ∧ nodes[i]? = some list ∧ list.info.label = some "arguments" := by
  rw [argumentPlaces] at h
  split at h
  case h_1 k hk =>
    obtain ⟨path, mem, rfl⟩ := List.mem_map.mp h
    obtain ⟨part, -, rfl⟩ := List.mem_map.mp mem
    obtain ⟨bound, accepted, -⟩ := List.findIdx?_eq_some_iff_getElem.mp hk
    exact ⟨k, part.2, nodes[k], rfl, List.getElem?_eq_getElem bound, eq_of_beq accepted⟩
  case h_2 => cases h

theorem atLabel_of_mem_argumentPlaces {place : List Nat} (h : place ∈ argumentPlaces nodes) :
    AtLabel nodes "arguments" place := by
  obtain ⟨i, j, list, rfl, hList, label⟩ := exists_of_mem_argumentPlaces h
  exact ⟨i, [j], list, rfl, hList, label⟩

theorem exists_of_mem_firstPlace {accepts : SyntaxNode → Bool} {place : List Nat}
    (h : place ∈ firstPlace accepts nodes) : ∃ i, place = [i] := by
  obtain ⟨i, -, rfl⟩ := List.mem_map.mp h
  exact ⟨i, rfl⟩

theorem exists_of_mem_firstPlaces {first second : SyntaxNode → Bool} {place : List Nat}
    (h : place ∈ firstPlace first nodes ++ firstPlace second nodes) : ∃ i, place = [i] :=
  (List.mem_append.mp h).elim exists_of_mem_firstPlace exists_of_mem_firstPlace

theorem mem_firstPlace {accepts : SyntaxNode → Bool} {i : Nat}
    (found : nodes.findIdx? accepts = some i) : [i] ∈ firstPlace accepts nodes := by
  rw [firstPlace, found]
  exact List.mem_singleton.mpr rfl

theorem mem_argumentPlaces {list c : SyntaxNode} {i j : Nat}
    (found : nodes.findIdx? (hasLabel "arguments") = some i) (hList : nodes[i]? = some list)
    (hc : list.children[j]? = some c) (part : isPart c.info = true) :
    [i, j] ∈ argumentPlaces nodes := by
  simp only [argumentPlaces, found, hList, Option.map_some, Option.getD_some]
  refine List.mem_map_of_mem (List.mem_map.mpr ⟨(c, j), List.mem_filter.mpr ⟨?_, part⟩, rfl⟩)
  exact List.mem_zipIdx_iff_getElem?.mpr hc

theorem exists_findIdx? {accepts : SyntaxNode → Bool} {c : SyntaxNode}
    (h : nodes.find? accepts = some c) :
    ∃ i, nodes.findIdx? accepts = some i ∧ nodes[i]? = some c := by
  rw [List.find?_eq_getElem?_findIdx] at h
  obtain ⟨bound, -⟩ := List.getElem?_eq_some_iff.mp h
  exact ⟨nodes.findIdx accepts, List.findIdx?_eq_some_iff_findIdx_eq.mpr ⟨bound, rfl⟩, h⟩

theorem exists_mem_firstPlace {accepts : SyntaxNode → Bool} {c : SyntaxNode}
    (h : nodes.find? accepts = some c) : ∃ i, [i] ∈ firstPlace accepts nodes ∧ nodes[i]? = some c := by
  obtain ⟨i, found, hi⟩ := exists_findIdx? h
  exact ⟨i, mem_firstPlace found, hi⟩

theorem exists_mem_argumentPlaces {list c : SyntaxNode}
    (hList : labelled? "arguments" nodes = some list) (hc : c ∈ list.children)
    (part : isPart c.info = true) :
    ∃ i j, [i, j] ∈ argumentPlaces nodes ∧ nodes[i]? = some list ∧ list.children[j]? = some c := by
  obtain ⟨i, found, hi⟩ := exists_findIdx? hList
  obtain ⟨j, hj⟩ := List.getElem?_of_mem hc
  exact ⟨i, j, mem_argumentPlaces found hi hj part, hi, hj⟩

theorem apart_of_atLabel {a b : String} {p q : List Nat} (ne : a ≠ b) (hp : AtLabel nodes a p)
    (hq : AtLabel nodes b q) : Apart p q := by
  obtain ⟨i, p, n, rfl, hi, ha⟩ := hp
  obtain ⟨j, q, m, rfl, hj, hb⟩ := hq
  have different : i ≠ j := by
    rintro rfl
    cases hi.symm.trans hj
    exact ne (Option.some.inj (ha.symm.trans hb))
  rcases Nat.lt_or_gt_of_ne different with left | right
  · exact .inl (.inl left)
  · exact .inr (.inl right)

theorem before_of_atLabel {n : SyntaxNode} (ordered : FieldsInOrder n) {a b : String}
    {p q : List Nat} (first : precedes n.kind a b = true) (hp : AtLabel n.children a p)
    (hq : AtLabel n.children b q) : Before p q := by
  rcases apart_of_atLabel (ne_of_precedes first) hp hq with before | after
  · exact before
  · obtain ⟨i, p, c, rfl, hi, ha⟩ := hp
    obtain ⟨j, q, d, rfl, hj, hb⟩ := hq
    obtain ⟨hiBound, rfl⟩ := List.getElem?_eq_some_iff.mp hi
    obtain ⟨hjBound, rfl⟩ := List.getElem?_eq_some_iff.mp hj
    rcases after with right | ⟨rfl, -⟩
    · have never := List.pairwise_iff_getElem.mp ordered j i hjBound hiBound right b hb a ha
      exact (Bool.false_ne_true (never.symm.trans first)).elim
    · exact (ne_of_precedes first (Option.some.inj (ha.symm.trans hb))).elim

theorem before_partPlaces : (partPlaces nodes).Pairwise Before := by
  have increasing : (nodes.zipIdx.map Prod.snd).Pairwise (· < ·) := by
    rw [List.zipIdx_map_snd]
    exact List.pairwise_lt_range'
  rw [partPlaces, List.pairwise_map]
  exact ((List.pairwise_map.mp increasing).filter _).imp .inl

theorem before_map_cons {places : List (List Nat)} (h : places.Pairwise Before) (i : Nat) :
    (places.map (i :: ·)).Pairwise Before :=
  List.pairwise_map.mpr (h.imp fun before => .inr ⟨rfl, before⟩)

theorem before_argumentPlaces : (argumentPlaces nodes).Pairwise Before := by
  rw [argumentPlaces]
  split
  · exact before_map_cons before_partPlaces _
  · exact List.Pairwise.nil

theorem before_compoundPlaces (first : Nat) : (compoundPlaces first nodes).Pairwise Before := by
  induction nodes using rowInduction generalizing first with
  | nil =>
      rw [compoundPlaces]
      exact List.Pairwise.nil
  | cons info children rest inside others =>
      rw [compoundPlaces, List.pairwise_append]
      refine ⟨?_, others (first + 1), ?_⟩
      · split
        · split
          · exact List.pairwise_singleton _ _
          · exact before_map_cons (inside 0) first
        · exact List.Pairwise.nil
      · intro p hp q hq
        obtain ⟨j, q, rfl, later⟩ := head_of_mem_compoundPlaces hq
        split at hp
        · split at hp
          · cases List.mem_singleton.mp hp
            exact .inl later
          · obtain ⟨p, -, rfl⟩ := List.mem_map.mp hp
            exact .inl later
        · cases hp

theorem pairwise_firstPlace (R : List Nat → List Nat → Prop) (accepts : SyntaxNode → Bool) :
    (firstPlace accepts nodes).Pairwise R := by
  rw [firstPlace]
  cases nodes.findIdx? accepts with
  | none => exact List.Pairwise.nil
  | some i => exact List.pairwise_singleton R [i]

section Relation

variable {info : NodeInfo} {R : List Nat → List Nat → Prop}

/-- Picked places are related as places beside each other and places at labels are. -/
theorem pairwise_picks (ofBefore : ∀ {p q}, Before p q → R p q)
    (ofLabels : ∀ {a b p q}, precedes info.kind a b = true → AtLabel nodes a p →
      AtLabel nodes b q → R p q)
    {e : Expr} (h : Conversion src info nodes e) : (picks nodes e).Pairwise R := by
  have first (label : String) : (firstPlace (hasLabel label) nodes).Pairwise R :=
    pairwise_firstPlace R (hasLabel label)
  have part : (firstPlace (fun n => isPart n.info) nodes).Pairwise R :=
    pairwise_firstPlace R fun n => isPart n.info
  have arguments : (argumentPlaces nodes).Pairwise R := before_argumentPlaces.imp ofBefore
  have both {a b : String} {kind : String} (same : info.kind = kind)
      (order : precedes kind a b = true) :
      ∀ p ∈ firstPlace (hasLabel a) nodes, ∀ q ∈ firstPlace (hasLabel b) nodes, R p q :=
    fun p hp q hq => ofLabels (same ▸ order) (atLabel_of_mem_firstPlace hp)
      (atLabel_of_mem_firstPlace hq)
  cases h with
  | literal _ | name _ | self _ | super _ | outerSelf _ _ _ _ | outerSuper _ _ _ _ =>
      exact List.Pairwise.nil
  | field _ _ _ _ _ => exact first "object"
  | unary _ _ _ _ => exact first "operand"
  | cast _ _ _ => exact first "value"
  | update _ _ _ | paren _ _ => exact part
  | new _ _ _ => exact arguments
  | unknown => exact (before_compoundPlaces 0).imp ofBefore
  | index kind _ _ =>
      exact List.pairwise_append.mpr ⟨first "array", first "index", both kind (by decide)⟩
  | binary kind _ _ _ _ =>
      exact List.pairwise_append.mpr ⟨first "left", first "right", both kind (by decide)⟩
  | assign kind _ _ _ =>
      exact List.pairwise_append.mpr ⟨first "left", first "right", both kind (by decide)⟩
  | call kind _ =>
      refine List.pairwise_append.mpr ⟨first "object", arguments, fun p hp q hq => ?_⟩
      have order : precedes info.kind "object" "arguments" = true := by
        rw [kind]
        decide
      exact ofLabels order (atLabel_of_mem_firstPlace hp) (atLabel_of_mem_argumentPlaces hq)
  | conditional kind _ _ _ =>
      refine List.pairwise_append.mpr
        ⟨List.pairwise_append.mpr ⟨first "condition", first "consequence", ?_⟩,
          first "alternative", fun p hp => ?_⟩
      · exact both kind (by decide)
      · rcases List.mem_append.mp hp with condition | consequence
        · exact both kind (by decide) p condition
        · exact both kind (by decide) p consequence

theorem apart_picks {e : Expr} (h : Conversion src info nodes e) :
    (picks nodes e).Pairwise Apart :=
  pairwise_picks src .inl (fun order hp hq => apart_of_atLabel (ne_of_precedes order) hp hq) h

theorem before_picks (ordered : FieldsInOrder (.node info nodes)) {e : Expr}
    (h : Conversion src info nodes e) : (picks nodes e).Pairwise Before :=
  pairwise_picks src id (before_of_atLabel ordered) h

end Relation

theorem firstPlace_ne_nil {accepts : SyntaxNode → Bool} :
    ∀ p ∈ firstPlace accepts nodes, p ≠ [] := by
  intro p hp
  obtain ⟨i, -, rfl⟩ := List.mem_map.mp hp
  exact List.cons_ne_nil i []

theorem argumentPlaces_ne_nil : ∀ p ∈ argumentPlaces nodes, p ≠ [] := by
  intro p hp
  obtain ⟨i, path, -, rfl, -⟩ := atLabel_of_mem_argumentPlaces hp
  exact List.cons_ne_nil i path

/-- No expression is picked as its own child. -/
theorem picks_ne_nil {e : Expr} : ∀ p ∈ picks nodes e, p ≠ [] := by
  cases e with
  | literal _ _ _ | name _ _ | self _ _ | super _ _ => exact fun _ hp => nomatch hp
  | field _ _ _ | unary _ _ _ | cast _ _ _ | update _ _ _ | paren _ _ => exact firstPlace_ne_nil
  | new _ _ _ => exact argumentPlaces_ne_nil
  | unknown _ _ _ _ => exact compoundPlaces_ne_nil
  | index _ _ _ | binary _ _ _ _ | assign _ _ _ _ =>
      exact List.forall_mem_append.mpr ⟨firstPlace_ne_nil, firstPlace_ne_nil⟩
  | call _ _ _ _ _ =>
      exact List.forall_mem_append.mpr ⟨firstPlace_ne_nil, argumentPlaces_ne_nil⟩
  | conditional _ _ _ _ =>
      exact List.forall_mem_append.mpr
        ⟨List.forall_mem_append.mpr ⟨firstPlace_ne_nil, firstPlace_ne_nil⟩, firstPlace_ne_nil⟩

end Java
end NullSafeEquality
