import NullSafeEquality.Java.Conversion
import NullSafeEquality.Proofs.Outermost
import NullSafeEquality.Proofs.SyntaxPaths

/-!
Syntax errors of a concrete tree. A misfit is a node for unfitting input or a missing token. The
collection goes no further at a misfit, and it passes over nodes that are marked as free of misfits.
Where the marks are right it still finds what a visit of all nodes finds: the misfits that lie in no
other, each once and in the order of their places.
-/

namespace NullSafeEquality

namespace SyntaxNode

/-- No node of the tree is a misfit. -/
abbrev AllFit (tree : SyntaxNode) : Prop := Everywhere (fun n => n.isMisfit = false) tree

/-- The mark of a node says whether the node or one below it is a misfit. -/
def Marked (n : SyntaxNode) : Prop :=
  n.info.hasError = true ↔ ∃ path m, n.at? path = some m ∧ m.isMisfit = true

/-- If the node is passed over for its mark, then nothing is overlooked. The collection relies on this
half of `Marked` only: a mark without a misfit costs it a vain search, and inside a misfit it reads
no marks. -/
def SafelyMarked (n : SyntaxNode) : Prop :=
  n.isMisfit = false → n.info.hasError = false → AllFit n

/-- The path leads to a misfit, and to none before its end. -/
def OutermostMisfit (tree : SyntaxNode) (path : List Nat) (n : SyntaxNode) : Prop :=
  tree.at? path = some n ∧ n.isMisfit = true ∧
    ∀ above, above <+: path → above ≠ path → ∀ m, tree.at? above = some m → m.isMisfit = false

mutual

/-- The outermost misfits of a tree with their places. -/
def misfits : SyntaxNode → List (List Nat × SyntaxNode)
  | .node info children =>
      if (node info children).isMisfit then [([], .node info children)] else misfitsFrom 0 children

/-- The outermost misfits of a row of nodes that begins at a number. -/
def misfitsFrom (first : Nat) : List SyntaxNode → List (List Nat × SyntaxNode)
  | [] => []
  | n :: rest => (misfits n).map (Prod.map (first :: ·) id) ++ misfitsFrom (first + 1) rest

end

variable {n m : SyntaxNode} {path : List Nat}

theorem misfits_of_misfit (h : n.isMisfit = true) : misfits n = [([], n)] := by
  obtain ⟨info, children⟩ := n
  rw [misfits, if_pos h]

theorem misfits_of_fit (h : n.isMisfit = false) : misfits n = misfitsFrom 0 n.children := by
  obtain ⟨info, children⟩ := n
  rw [misfits, if_neg (Bool.eq_false_iff.mp h), SyntaxNode.children]

theorem misfitsFrom_eq_flatMap (first : Nat) (nodes : List SyntaxNode) :
    misfitsFrom first nodes =
      (nodes.zipIdx first).flatMap fun c => (misfits c.1).map (Prod.map (c.2 :: ·) id) := by
  induction nodes generalizing first with
  | nil => rfl
  | cons n rest ih => rw [misfitsFrom, ih, List.zipIdx_cons, List.flatMap_cons]

theorem not_mem_misfitsFrom_nil (first : Nat) (nodes : List SyntaxNode) :
    ([], m) ∉ misfitsFrom first nodes := by
  simp [misfitsFrom_eq_flatMap]

theorem mem_misfitsFrom_cons {i : Nat} {nodes : List SyntaxNode} :
    (i :: path, m) ∈ misfitsFrom 0 nodes ↔ ∃ c, nodes[i]? = some c ∧ (path, m) ∈ misfits c := by
  rw [misfitsFrom_eq_flatMap, List.mem_flatMap]
  constructor
  · rintro ⟨⟨c, j⟩, hc, mem⟩
    obtain ⟨⟨rest, x⟩, inside, same⟩ := List.mem_map.mp mem
    cases same
    exact ⟨c, List.mem_zipIdx_iff_getElem?.mp hc, inside⟩
  · rintro ⟨c, hc, inside⟩
    exact ⟨(c, i), List.mem_zipIdx_iff_getElem?.mpr hc, List.mem_map.mpr ⟨(path, m), inside, rfl⟩⟩

theorem outermostMisfit_nil : OutermostMisfit n [] m ↔ n.isMisfit = true ∧ m = n := by
  constructor
  · rintro ⟨here, misfit, -⟩
    cases here
    exact ⟨misfit, rfl⟩
  · rintro ⟨misfit, rfl⟩
    refine ⟨at?_nil m, misfit, fun above hpath proper => ?_⟩
    exact (proper (List.prefix_nil.mp hpath)).elim

theorem outermostMisfit_cons {i : Nat} :
    OutermostMisfit n (i :: path) m ↔
      n.isMisfit = false ∧ ∃ c, n.children[i]? = some c ∧ OutermostMisfit c path m := by
  simp only [OutermostMisfit, Expr.forall_prefix_cons, at?_cons_eq_some_iff]
  constructor
  · rintro ⟨⟨c, hc, hm⟩, misfit, top, inside⟩
    exact ⟨top n (at?_nil n), c, hc, hm, misfit,
      fun above hpath proper x hx => inside above hpath proper x ⟨c, hc, hx⟩⟩
  · rintro ⟨top, c, hc, hm, misfit, inside⟩
    refine ⟨⟨c, hc, hm⟩, misfit, ?_, ?_⟩
    · intro x hx
      cases hx
      exact top
    · rintro above hpath proper x ⟨d, hd, hx⟩
      cases hc.symm.trans hd
      exact inside above hpath proper x hx

/-- The listed nodes are the outermost misfits. -/
theorem mem_misfits_iff : (path, m) ∈ misfits n ↔ OutermostMisfit n path m := by
  induction path generalizing n with
  | nil =>
      rw [outermostMisfit_nil]
      cases h : n.isMisfit with
      | true => simp [misfits_of_misfit h]
      | false => simp [misfits_of_fit h, not_mem_misfitsFrom_nil]
  | cons i path ih =>
      rw [outermostMisfit_cons]
      cases h : n.isMisfit with
      | true => simp [misfits_of_misfit h]
      | false => simp [misfits_of_fit h, mem_misfitsFrom_cons, ih]

/-- They are listed in the order of their places. -/
theorem increasing_misfits (n : SyntaxNode) : (misfits n).Pairwise fun x y => x.1 < y.1 := by
  induction n using belowInduction with
  | node n ih =>
      cases h : n.isMisfit with
      | true =>
          rw [misfits_of_misfit h]
          exact List.pairwise_singleton _ _
      | false =>
          rw [misfits_of_fit h, misfitsFrom_eq_flatMap, List.pairwise_flatMap]
          constructor
          · rintro ⟨c, i⟩ hc
            have child : n.at? [i] = some c :=
              at?_cons_eq_some_iff.mpr ⟨c, List.mem_zipIdx_iff_getElem?.mp hc, at?_nil c⟩
            rw [List.pairwise_map]
            exact (ih [i] c (List.cons_ne_nil i []) child).imp List.cons_lt_cons_self.mpr
          · have numbered : (n.children.zipIdx).Pairwise fun c d => c.2 < d.2 := by
              rw [← List.pairwise_map (f := Prod.snd), List.zipIdx_map_snd]
              exact List.pairwise_lt_range'
            refine numbered.imp fun left x hx y hy => ?_
            obtain ⟨p, -, rfl⟩ := List.mem_map.mp hx
            obtain ⟨q, -, rfl⟩ := List.mem_map.mp hy
            exact List.cons_lt_cons_iff.mpr (.inl left)

theorem allFit_node_iff {info : NodeInfo} {children : List SyntaxNode} :
    AllFit (.node info children) ↔
      (node info children).isMisfit = false ∧ ∀ c ∈ children, AllFit c := Everywhere.node_iff

theorem misfitsFrom_eq_nil_iff {nodes : List SyntaxNode} {first : Nat} :
    misfitsFrom first nodes = [] ↔ ∀ c ∈ nodes, AllFit c := by
  induction nodes using rowInduction generalizing first with
  | nil => simp [misfitsFrom]
  | cons info children rest inside others =>
      rw [misfitsFrom, List.append_eq_nil_iff, List.map_eq_nil_iff, others, List.forall_mem_cons,
        allFit_node_iff]
      refine and_congr_left fun _ => ?_
      cases h : (node info children).isMisfit with
      | true => simp [misfits_of_misfit h]
      | false => simp [misfits_of_fit h, SyntaxNode.children, inside]

/-- Nothing is listed only where no node is a misfit. -/
theorem misfits_eq_nil_iff : misfits n = [] ↔ AllFit n := by
  have row : misfitsFrom 0 [n] = [] ↔ ∀ c ∈ [n], AllFit c := misfitsFrom_eq_nil_iff
  simpa [misfitsFrom] using row

theorem marked_iff : Marked n ↔ (n.info.hasError = true ↔ ¬ AllFit n) := by
  simp only [Marked, Everywhere, Classical.not_forall, exists_prop, Bool.not_eq_false]

instance : DecidablePred Marked := fun _ => decidable_of_iff' _ marked_iff

theorem safelyMarked_of_marked (h : Marked n) : SafelyMarked n := by
  intro _ mark
  simpa [mark] using marked_iff.mp h

end SyntaxNode

namespace Java

open SyntaxNode

mutual

/-- Visit all nodes of a tree, the ones inside misfits too, and put what is said about a misfit at
the end of what is there already, unless the misfit is covered by one above it. -/
def visitErrors (src : Source) (covered : Bool) (n : SyntaxNode) (sink : Array SyntaxError) :
    Array SyntaxError :=
  match n with
  | .node info children =>
      let misfit := (SyntaxNode.node info children).isMisfit
      visitErrorsAll src (covered || misfit) children
        (if misfit && !covered then sink.push (syntaxError src (.node info children)) else sink)

/-- Visit all nodes of trees one after another. -/
def visitErrorsAll (src : Source) (covered : Bool) (nodes : List SyntaxNode)
    (sink : Array SyntaxError) : Array SyntaxError :=
  match nodes with
  | [] => sink
  | n :: rest => visitErrorsAll src covered rest (visitErrors src covered n sink)

end

variable (src : Source)

/-- What is said about nodes that are listed with their places. -/
def errorsAt (found : List (List Nat × SyntaxNode)) : List SyntaxError :=
  found.map fun place => syntaxError src place.2

/-- Below a misfit the visit goes on and adds nothing. -/
theorem visitErrorsAll_covered (nodes : List SyntaxNode) (sink : Array SyntaxError) :
    visitErrorsAll src true nodes sink = sink := by
  induction nodes using rowInduction generalizing sink with
  | nil => rw [visitErrorsAll]
  | cons info children rest inside others =>
      rw [visitErrorsAll, others, visitErrors]
      simp [inside]

/-- A visit of all nodes finds the outermost misfits. -/
theorem toList_visitErrorsAll (nodes : List SyntaxNode) (first : Nat) (sink : Array SyntaxError) :
    (visitErrorsAll src false nodes sink).toList =
      sink.toList ++ errorsAt src (misfitsFrom first nodes) := by
  induction nodes using rowInduction generalizing first sink with
  | nil => simp [visitErrorsAll, misfitsFrom, errorsAt]
  | cons info children rest inside others =>
      rw [visitErrorsAll, others (first + 1), misfitsFrom, visitErrors]
      cases h : (SyntaxNode.node info children).isMisfit with
      | true => simp [visitErrorsAll_covered, misfits_of_misfit h, errorsAt]
      | false =>
          simp [inside 0, misfits_of_fit h, errorsAt, SyntaxNode.children, Function.comp_def]

theorem visitErrorsAll_of_fit {nodes : List SyntaxNode} (fit : ∀ c ∈ nodes, AllFit c)
    (sink : Array SyntaxError) : visitErrorsAll src false nodes sink = sink := by
  have nothing : misfitsFrom 0 nodes = [] := misfitsFrom_eq_nil_iff.mpr fit
  apply Array.toList_inj.mp
  rw [toList_visitErrorsAll src nodes 0 sink, nothing, errorsAt, List.map_nil, List.append_nil]

/-- Nodes are passed over only where a visit finds nothing. -/
theorem collectErrorsAll_eq_visitErrorsAll {nodes : List SyntaxNode}
    (safe : ∀ c ∈ nodes, Everywhere SafelyMarked c) (sink : Array SyntaxError) :
    collectErrorsAll src nodes sink = visitErrorsAll src false nodes sink := by
  induction nodes using rowInduction generalizing sink with
  | nil => rw [collectErrorsAll, visitErrorsAll]
  | cons info children rest inside others =>
      obtain ⟨first, later⟩ := List.forall_mem_cons.mp safe
      obtain ⟨here, below⟩ := Everywhere.node_iff.mp first
      rw [collectErrorsAll, visitErrorsAll, others later, collectErrors, visitErrors]
      cases misfit : (SyntaxNode.node info children).isMisfit with
      | true => simp [visitErrorsAll_covered]
      | false =>
          cases mark : info.hasError with
          | true => simp [inside below]
          | false =>
              have fit : AllFit (.node info children) := here misfit mark
              simp [visitErrorsAll_of_fit src (allFit_node_iff.mp fit).2]

theorem collectErrors_eq_visitErrors {tree : SyntaxNode} (safe : Everywhere SafelyMarked tree)
    (sink : Array SyntaxError) : collectErrors src tree sink = visitErrors src false tree sink := by
  have row := collectErrorsAll_eq_visitErrorsAll src (List.forall_mem_singleton.mpr safe) sink
  simpa only [collectErrorsAll, visitErrorsAll] using row

theorem toList_visitErrors (n : SyntaxNode) (sink : Array SyntaxError) :
    (visitErrors src false n sink).toList = sink.toList ++ errorsAt src (misfits n) := by
  have row := toList_visitErrorsAll src [n] 0 sink
  simpa [visitErrorsAll, misfitsFrom, errorsAt, Function.comp_def] using row

/-- Of the text of a node an entry keeps the first hundred characters. -/
theorem sourceText_syntaxError (n : SyntaxNode) :
    (syntaxError src n).sourceText.toList <+: (n.text src).toList ∧
      (syntaxError src n).sourceText.length = min 100 (n.text src).length := by
  have cut : (syntaxError src n).sourceText.toList = (n.text src).toList.take 100 :=
    String.toList_ofList
  rw [← String.length_toList, ← String.length_toList, cut]
  exact ⟨List.take_prefix 100 _, List.length_take⟩

/-- In a tree with right marks the collection adds what a visit of all nodes adds: an entry for each
misfit that lies in no other, in the order of their places, and nothing only if there is no misfit.
An entry has the span of its node and, of its text, at most the first hundred characters. -/
theorem collectErrors_finds_outermost_misfits {tree : SyntaxNode}
    (marked : Everywhere Marked tree) :
    (∀ sink, collectErrors src tree sink = visitErrors src false tree sink) ∧
    (∃ found : List (List Nat × SyntaxNode),
      (∀ sink, (collectErrors src tree sink).toList = sink.toList ++ errorsAt src found) ∧
      (unitOf src tree).syntaxErrors = errorsAt src found ∧
      (found.map Prod.fst).Pairwise (· < ·) ∧
      ∀ path n, (path, n) ∈ found ↔ OutermostMisfit tree path n) ∧
    (∀ sink, collectErrors src tree sink = sink ↔
      ∀ path n, tree.at? path = some n → n.isMisfit = false) ∧
    ∀ n, (syntaxError src n).span = n.span src ∧
      (syntaxError src n).sourceText.toList <+: (n.text src).toList ∧
      (syntaxError src n).sourceText.length = min 100 (n.text src).length := by
  have safe : Everywhere SafelyMarked tree :=
    fun path n hn => safelyMarked_of_marked (marked path n hn)
  have added (sink : Array SyntaxError) :
      (collectErrors src tree sink).toList = sink.toList ++ errorsAt src (misfits tree) := by
    rw [collectErrors_eq_visitErrors src safe, toList_visitErrors]
  refine ⟨collectErrors_eq_visitErrors src safe, ⟨misfits tree, added, ?_, ?_, ?_⟩, ?_, ?_⟩
  · exact added #[]
  · exact List.pairwise_map.mpr (increasing_misfits tree)
  · intro path n
    exact mem_misfits_iff
  · intro sink
    rw [← Array.toList_inj, added, List.append_right_eq_self, errorsAt, List.map_eq_nil_iff]
    exact misfits_eq_nil_iff
  · intro n
    exact ⟨rfl, sourceText_syntaxError src n⟩

/-- Unfitting input inside unfitting input, and a statement that lacks its end. -/
def brokenSource : Source := .ofString "f(@(#)); g(); x = 1"

def brokenStatements : SyntaxNode :=
  .node { kind := "program", hasError := true, stop := 19 } [
    .node { kind := "expression_statement", hasError := true, stop := 8 } [
      .node { kind := "method_invocation", hasError := true, stop := 7 } [
        .node { kind := "identifier", label := some "name", stop := 1 } [],
        .node { kind := "argument_list", label := some "arguments", hasError := true, start := 1,
                stop := 7 } [
          token "(" 1,
          .node { kind := "ERROR", hasError := true, start := 2, stop := 6 } [
            token "@" 2,
            token "(" 3,
            .node { kind := "ERROR", hasError := true, start := 4, stop := 5 } [],
            token ")" 5],
          token ")" 6]],
      token ";" 7],
    .node { kind := "expression_statement", start := 9, stop := 13 } [
      .node { kind := "method_invocation", start := 9, stop := 12 } [
        .node { kind := "identifier", label := some "name", start := 9, stop := 10 } [],
        .node { kind := "argument_list", label := some "arguments", start := 10, stop := 12 } [
          token "(" 10, token ")" 11]],
      token ";" 12],
    .node { kind := "expression_statement", hasError := true, start := 14, stop := 19 } [
      .node { kind := "assignment_expression", start := 14, stop := 19 } [
        .node { kind := "identifier", label := some "left", start := 14, stop := 15 } [],
        .node { kind := "=", label := some "operator", named := false, start := 16, stop := 17 } [],
        .node { kind := "decimal_integer_literal", label := some "right", start := 18,
                stop := 19 } []],
      .node { kind := ";", named := false, missing := true, hasError := true, start := 19,
              stop := 19 } []]]
where
  token (kind : String) (start : Nat) : SyntaxNode :=
    .node { kind, named := false, start, stop := start + 1 } []

theorem brokenStatements_collected :
    Everywhere Marked brokenStatements ∧
    (collectErrors brokenSource brokenStatements #[]).toList.map
        (fun e => (e.message, e.span.startByte, e.span.endByte, e.sourceText)) =
      [("unexpected input", 2, 6, "@(#)"), ("missing ;", 19, 19, "")] ∧
    ∀ sink, collectErrors brokenSource brokenStatements sink =
      visitErrors brokenSource false brokenStatements sink := by
  have marked : Everywhere Marked brokenStatements := by decide
  exact ⟨marked, by rfl, (collectErrors_finds_outermost_misfits brokenSource marked).1⟩

end Java
end NullSafeEquality
