import Mathlib.Data.List.Chain
import NullSafeEquality.Proofs.Origin
import NullSafeEquality.Proofs.Recognition

/-!
Order of the source. In a concrete tree that is laid out in the order of the source, nodes at places
that part do not overlap. Expressions take the places of their nodes, and findings those of their
expressions, so both come in the order of the source as well.
-/

namespace NullSafeEquality

namespace SyntaxNode

/-- A node ends no earlier than it begins, its children lie inside it, and none of them begins before
the one in front of it has ended. Positions are measured by the bytes or characters before them. -/
structure LaidOut (pos : Nat → Nat) (n : SyntaxNode) : Prop where
  forward : pos n.info.start ≤ pos n.info.stop
  inside : ∀ c ∈ n.children, pos n.info.start ≤ pos c.info.start ∧ pos c.info.stop ≤ pos n.info.stop
  inOrder : n.children.IsChain fun c d => pos c.info.stop ≤ pos d.info.start

instance (pos : Nat → Nat) : DecidablePred (LaidOut pos) := fun n =>
  decidable_of_iff
    (pos n.info.start ≤ pos n.info.stop ∧
      (∀ c ∈ n.children,
        pos n.info.start ≤ pos c.info.start ∧ pos c.info.stop ≤ pos n.info.stop) ∧
      n.children.IsChain fun c d => pos c.info.stop ≤ pos d.info.start)
    ⟨fun ⟨h₁, h₂, h₃⟩ => ⟨h₁, h₂, h₃⟩, fun ⟨h₁, h₂, h₃⟩ => ⟨h₁, h₂, h₃⟩⟩

variable {pos : Nat → Nat} {n : SyntaxNode}

theorem pairwise_of_laidOut (h : Everywhere (LaidOut pos) n) :
    n.children.Pairwise fun c d => pos c.info.stop ≤ pos d.info.start := by
  -- A child that ends before it begins would break the chain, so this is carried along.
  let follows (c d : SyntaxNode) : Prop :=
    pos c.info.stop ≤ pos d.info.start ∧ pos d.info.start ≤ pos d.info.stop
  have trans : IsTrans SyntaxNode follows :=
    ⟨fun _ _ _ first second => ⟨first.1.trans (first.2.trans second.1), second.2⟩⟩
  have chain : n.children.IsChain follows := by
    rw [List.isChain_iff_getElem]
    intro i bound
    have forward := (h.child (List.getElem_mem bound)).here.forward
    exact ⟨List.isChain_iff_getElem.mp h.here.inOrder i bound, forward⟩
  exact chain.pairwise.imp And.left

theorem inside_of_at? (h : Everywhere (LaidOut pos) n) {path : List Nat} {m : SyntaxNode}
    (hm : n.at? path = some m) :
    pos n.info.start ≤ pos m.info.start ∧ pos m.info.stop ≤ pos n.info.stop := by
  induction path generalizing n with
  | nil =>
      cases hm
      exact ⟨Nat.le_refl _, Nat.le_refl _⟩
  | cons i path ih =>
      obtain ⟨c, hc, inside⟩ := at?_cons_eq_some_iff.mp hm
      have mem := List.mem_of_getElem? hc
      have outer := h.here.inside c mem
      have inner := ih (h.child mem) inside
      exact ⟨outer.1.trans inner.1, inner.2.trans outer.2⟩

/-- Of two nodes at places that part, the left one ends before the right one begins. -/
theorem stop_le_start_of_before (h : Everywhere (LaidOut pos) n) {p q : List Nat}
    (before : Before p q) {c d : SyntaxNode} (hc : n.at? p = some c) (hd : n.at? q = some d) :
    pos c.info.stop ≤ pos d.info.start := by
  induction p generalizing n q with
  | nil => exact before.elim
  | cons i p ih =>
      cases q with
      | nil => exact before.elim
      | cons j q =>
          obtain ⟨x, hx, hc⟩ := at?_cons_eq_some_iff.mp hc
          obtain ⟨y, hy, hd⟩ := at?_cons_eq_some_iff.mp hd
          have hxMem := h.child (List.mem_of_getElem? hx)
          have hyMem := h.child (List.mem_of_getElem? hy)
          rcases before with left | ⟨rfl, deeper⟩
          · obtain ⟨iBound, rfl⟩ := List.getElem?_eq_some_iff.mp hx
            obtain ⟨jBound, rfl⟩ := List.getElem?_eq_some_iff.mp hy
            have apart := List.pairwise_iff_getElem.mp (pairwise_of_laidOut h) i j iBound jBound left
            exact (inside_of_at? hxMem hc).2.trans (apart.trans (inside_of_at? hyMem hd).1)
          · cases hx.symm.trans hy
            exact ih hxMem deeper hc hd

end SyntaxNode

namespace Span

/-- The first range ends before the second begins. -/
def Precedes (s t : Span) : Prop := s.endByte ≤ t.startByte

/-- The first range lies in the second. -/
def Within (s t : Span) : Prop := t.startByte ≤ s.startByte ∧ s.endByte ≤ t.endByte

end Span

/-- An expression ends no earlier than it begins, and its children lie inside it and in order. -/
structure Expr.LaidOut (e : Expr) : Prop where
  forward : e.span.startByte ≤ e.span.endByte
  inside : ∀ c ∈ e.children, c.span.Within e.span
  inOrder : e.children.Pairwise fun c d => c.span.Precedes d.span

namespace Java

open SyntaxNode

variable {src : Source} {tree : SyntaxNode}

/-- A finding is about the expression of a node. -/
theorem exists_match_of_mem_diagnostics {config : InspectionConfig}
    {d : Diagnostic} (h : d ∈ ((unitOf src tree).inspect config).diagnostics) :
    ∃ path n m, tree.at? path = some n ∧ Expr.recognize? config (convert src n) = some m ∧
      d = Diagnostic.ofMatch (convert src n) m := by
  obtain ⟨found, walk⟩ : ∃ found, Expr.Findings config (Expr.inForest? (rootsOf src tree))
      (Expr.reportAll config (rootsOf src tree)) found :=
    Expr.Findings.of_forest fun e _ => Expr.Findings.of_tree config e
  rw [SourceUnit.inspect, unitOf, walk.added, List.nil_append] at h
  obtain ⟨⟨q, d⟩, mem, rfl⟩ := List.mem_map.mp h
  obtain ⟨-, e, m, he, hm, same⟩ := (walk.complete q d).mp mem
  obtain ⟨path, n, -, hn, rfl⟩ := exists_node_of_inForest? he
  exact ⟨path, n, m, hn, hm, same⟩

section InOrder

variable (laid : Everywhere (LaidOut src.byteAt) tree) (ordered : Everywhere FieldsInOrder tree)
include laid ordered

theorem laidOut_convert : (convert src tree).LaidOut where
  forward := by
    rw [span_convert]
    exact laid.here.forward
  inside := by
    intro c hc
    obtain ⟨i, hi⟩ := List.getElem?_of_mem hc
    obtain ⟨s, n, -, hn, rfl⟩ := exists_pick_of_child hi
    rw [span_convert, span_convert]
    exact inside_of_at? laid hn
  inOrder := by
    rw [List.pairwise_iff_getElem]
    intro i j hi hj left
    obtain ⟨s, n, hs, hn, same⟩ := exists_pick_of_child (List.getElem?_eq_getElem hi)
    obtain ⟨t, m, ht, hm, same'⟩ := exists_pick_of_child (List.getElem?_eq_getElem hj)
    obtain ⟨sBound, rfl⟩ := List.getElem?_eq_some_iff.mp hs
    obtain ⟨tBound, rfl⟩ := List.getElem?_eq_some_iff.mp ht
    have picked : (picks tree.children (convert src tree)).Pairwise Before := by
      obtain ⟨info, children⟩ := tree
      exact before_picks src ordered.here (conversion src info children)
    have before := List.pairwise_iff_getElem.mp picked i j sBound tBound left
    rw [same, same', span_convert, span_convert]
    exact stop_le_start_of_before laid before hn hm

/-- Expressions beside each other in the forest stand in this order. -/
theorem precedes_of_before {path path' : List Nat} (before : Before path path') {e f : Expr}
    (he : Expr.inForest? (rootsOf src tree) path = some e)
    (hf : Expr.inForest? (rootsOf src tree) path' = some f) : e.span.Precedes f.span := by
  obtain ⟨p, n, hp, hn, rfl⟩ := exists_node_of_inForest? he
  obtain ⟨q, m, hq, hm, rfl⟩ := exists_node_of_inForest? hf
  rw [span_convert, span_convert]
  exact stop_le_start_of_before laid (before_of_rootOrigin? ordered before hp hq) hn hm

theorem pairwise_roots : (rootsOf src tree).Pairwise fun e f => e.span.Precedes f.span := by
  rw [List.pairwise_iff_getElem]
  intro i j hi hj left
  have root {k : Nat} (hk : k < (rootsOf src tree).length) :
      Expr.inForest? (rootsOf src tree) [k] = some (rootsOf src tree)[k] := by
    rw [Expr.inForest?, List.getElem?_eq_getElem hk]
    rfl
  exact precedes_of_before laid ordered ((before_cons i j [] []).mpr (.inl left)) (root hi) (root hj)

theorem pairwise_diagnostics (config : InspectionConfig) :
    ((unitOf src tree).inspect config).diagnostics.Pairwise fun c d => c.span.Precedes d.span := by
  obtain ⟨found, walk⟩ : ∃ found, Expr.Findings config (Expr.inForest? (rootsOf src tree))
      (Expr.reportAll config (rootsOf src tree)) found :=
    Expr.Findings.of_forest fun e _ => Expr.Findings.of_tree config e
  have listed : ((unitOf src tree).inspect config).diagnostics = found.map Prod.snd := by
    rw [SourceUnit.inspect, unitOf, walk.added, List.nil_append]
  rw [listed, List.pairwise_map]
  refine (List.pairwise_map.mp walk.increasing).imp_of_mem ?_
  rintro ⟨p, c⟩ ⟨q, d⟩ hp hq earlier
  obtain ⟨outer, e, m, he, hm, rfl⟩ := (walk.complete p c).mp hp
  obtain ⟨inner, f, k, hf, hk, rfl⟩ := (walk.complete q d).mp hq
  have before : Before p q := by
    refine (extends_or_before_of_lt earlier).resolve_left fun extended => ?_
    cases outer.eq_of_prefix inner extended
    exact List.lt_irrefl p earlier
  have left := ((Expr.recognize?_eq_some_iff_form? config e m).mp hm).2.2.2
  have right := ((Expr.recognize?_eq_some_iff_form? config f k).mp hk).2.2.2
  show m.span.Precedes k.span
  rw [left, right]
  exact precedes_of_before laid ordered before he hf

/-- If the concrete tree is laid out in the order of the source and of the grammar's labels, then the
roots follow one another, in every expression of the forest the children lie inside it and follow
one another, and so do the findings of every inspection. -/
theorem inspect_in_source_order :
    ((unitOf src tree).roots.Pairwise fun e f => e.span.Precedes f.span) ∧
    (∀ path e, Expr.inForest? (unitOf src tree).roots path = some e → e.LaidOut) ∧
    ∀ config, ((unitOf src tree).inspect config).diagnostics.Pairwise fun c d =>
      c.span.Precedes d.span := by
  refine ⟨pairwise_roots laid ordered, fun path e he => ?_, pairwise_diagnostics laid ordered⟩
  obtain ⟨p, n, -, hn, rfl⟩ := exists_node_of_inForest? he
  exact laidOut_convert (laid.at? hn) (ordered.at? hn)

end InOrder

/-- Two tests beside each other. -/
def twoTestsSource : Source := .ofString "a.equals(b) == c.equals(d);"

def twoTests : SyntaxNode :=
  .node { kind := "program", start := 0, stop := 27 } [
    .node { kind := "expression_statement", start := 0, stop := 27 } [
      .node { kind := "binary_expression", start := 0, stop := 26 } [
        call (some "left") 0,
        .node { kind := "==", label := some "operator", named := false, start := 12, stop := 14 } [],
        call (some "right") 15],
      .node { kind := ";", named := false, start := 26, stop := 27 } []]]
where
  call (label : Option String) (start : Nat) : SyntaxNode :=
    .node { kind := "method_invocation", label, start, stop := start + 11 } [
      .node { kind := "identifier", label := some "object", start, stop := start + 1 } [],
      .node { kind := ".", named := false, start := start + 1, stop := start + 2 } [],
      .node { kind := "identifier", label := some "name", start := start + 2, stop := start + 8 } [],
      .node { kind := "argument_list", label := some "arguments", start := start + 8,
              stop := start + 11 } [
        .node { kind := "(", named := false, start := start + 8, stop := start + 9 } [],
        .node { kind := "identifier", start := start + 9, stop := start + 10 } [],
        .node { kind := ")", named := false, start := start + 10, stop := start + 11 } []]]

set_option maxRecDepth 4000 in
theorem twoTests_in_source_order :
    Everywhere (LaidOut twoTestsSource.byteAt) twoTests ∧ Everywhere FieldsInOrder twoTests ∧
    ((unitOf twoTestsSource twoTests).inspect {}).diagnostics.length = 2 ∧
    ((unitOf twoTestsSource twoTests).inspect {}).diagnostics.Pairwise fun c d =>
      c.span.Precedes d.span := by
  have laid : Everywhere (LaidOut twoTestsSource.byteAt) twoTests := by decide
  have ordered : Everywhere FieldsInOrder twoTests := by decide
  exact ⟨laid, ordered, by rfl, (inspect_in_source_order laid ordered).2.2 {}⟩

end Java
end NullSafeEquality
