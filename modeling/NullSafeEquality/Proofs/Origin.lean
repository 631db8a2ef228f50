import NullSafeEquality.Proofs.Outermost
import NullSafeEquality.Proofs.Picks

/-!
Where the expressions of a forest come from. An expression is named by its path in the forest, the
node that it was converted from by its path in the concrete tree. Following the picked places leads
from the one to the other; paths that part in the forest part in the tree as well, so no node is
converted twice.
-/

namespace NullSafeEquality
namespace Java

open SyntaxNode

/-- Go to one of some places below a node, and from the node there on. -/
def through? (n : SyntaxNode) (places : List (List Nat)) (j : Nat)
    (further : SyntaxNode → Option (List Nat)) : Option (List Nat) :=
  places[j]?.bind fun place => (n.at? place).bind fun c => (further c).map (place ++ ·)

/-- The place below a node that the expression at a path was converted from. -/
def origin? (src : Source) (n : SyntaxNode) : List Nat → Option (List Nat)
  | [] => some []
  | j :: path =>
      through? n (picks n.children (convert src n)) j fun c => origin? src c path

/-- The places of the outermost compound nodes of a tree. -/
def rootPlaces (tree : SyntaxNode) : List (List Nat) :=
  if isCompound tree.kind then [[]] else compoundPlaces 0 tree.children

/-- The place in a tree that the expression at a path in its forest was converted from. -/
def rootOrigin? (src : Source) (tree : SyntaxNode) : List Nat → Option (List Nat)
  | [] => none
  | i :: path => through? tree (rootPlaces tree) i fun c => origin? src c path

theorem through?_eq_some_iff {n : SyntaxNode} {places : List (List Nat)} {j : Nat}
    {further : SyntaxNode → Option (List Nat)} {p : List Nat} :
    through? n places j further = some p ↔ ∃ place c q, places[j]? = some place ∧
      n.at? place = some c ∧ further c = some q ∧ p = place ++ q := by
  simp only [through?, Option.bind_eq_some_iff, Option.map_eq_some_iff]
  constructor
  · rintro ⟨place, hplace, c, hc, q, hq, rfl⟩
    exact ⟨place, c, q, hplace, hc, hq, rfl⟩
  · rintro ⟨place, c, q, hplace, hc, hq, rfl⟩
    exact ⟨place, hplace, c, hc, q, hq, rfl⟩

variable {src : Source}

theorem at?_picks (n : SyntaxNode) :
    (picks n.children (convert src n)).map (fun s => (n.at? s).map (convert src)) =
      (convert src n).children.map some := by
  cases n with
  | node info children =>
      rw [← convertAt?_picks src (conversion src info children)]
      refine List.map_congr_left fun s hs => ?_
      rw [at?_eq_inRow? _ (picks_ne_nil s hs)]
      rfl

/-- A child of an expression is the conversion of the node at the picked place of its number. -/
theorem exists_pick_of_child {n : SyntaxNode} {i : Nat} {c : Expr}
    (h : (convert src n).children[i]? = some c) :
    ∃ s m, (picks n.children (convert src n))[i]? = some s ∧ n.at? s = some m ∧
      c = convert src m := by
  have both : ((picks n.children (convert src n))[i]?.map fun s => (n.at? s).map (convert src)) =
      some (some c) := by
    rw [← List.getElem?_map, at?_picks, List.getElem?_map, h, Option.map_some]
  obtain ⟨s, hs, found⟩ := Option.map_eq_some_iff.mp both
  obtain ⟨m, hm, rfl⟩ := Option.map_eq_some_iff.mp found
  exact ⟨s, m, hs, hm, rfl⟩

theorem at?_rootPlaces (tree : SyntaxNode) :
    (rootPlaces tree).map (fun s => (tree.at? s).map (convert src)) =
      (rootsOf src tree).map some := by
  rw [rootPlaces, rootsOf]
  split
  · simp
  · rw [← convertAt?_compoundPlaces src [] tree.children]
    refine List.map_congr_left fun s hs => ?_
    rw [at?_eq_inRow? _ (compoundPlaces_ne_nil s hs)]
    rfl

section Through

variable {n : SyntaxNode} {places : List (List Nat)} {es : List Expr}

theorem bind_getElem?_eq_through? {path : List Nat} (j : Nat)
    (placed : places.map (fun s => (n.at? s).map (convert src)) = es.map some)
    (below : ∀ c, (convert src c).at? path =
      (origin? src c path).bind fun p => (c.at? p).map (convert src)) :
    (es[j]?.bind fun e => e.at? path) =
      (through? n places j fun c => origin? src c path).bind fun p =>
        (n.at? p).map (convert src) := by
  have here : (places[j]?.map fun s => (n.at? s).map (convert src)) = es[j]?.map some := by
    rw [← List.getElem?_map, placed, List.getElem?_map]
  cases hplace : places[j]? with
  | none =>
      rw [hplace, Option.map_none, eq_comm, Option.map_eq_none_iff] at here
      rw [through?, hplace, here]
      rfl
  | some place =>
      rw [hplace, Option.map_some, eq_comm, Option.map_eq_some_iff] at here
      obtain ⟨e, he, found⟩ := here
      obtain ⟨c, hc, rfl⟩ := Option.map_eq_some_iff.mp found.symm
      rw [through?, hplace, he, Option.bind_some, Option.bind_some, hc, Option.bind_some,
        below c, Option.bind_map]
      refine Option.bind_congr fun p _ => ?_
      rw [Function.comp_apply, at?_append_of_at? hc]

end Through

/-- The expression at a path is the conversion of the node that it came from. -/
theorem at?_convert (n : SyntaxNode) (path : List Nat) :
    (convert src n).at? path =
      (origin? src n path).bind fun p => (n.at? p).map (convert src) := by
  induction path generalizing n with
  | nil => rw [origin?, Option.bind_some, at?_nil, Expr.at?, Option.map_some]
  | cons j path ih =>
      rw [origin?, Expr.at?]
      exact bind_getElem?_eq_through? j (at?_picks n) ih

theorem inForest?_rootsOf (tree : SyntaxNode) (path : List Nat) :
    Expr.inForest? (rootsOf src tree) path =
      (rootOrigin? src tree path).bind fun p => (tree.at? p).map (convert src) := by
  cases path with
  | nil => rfl
  | cons i path => exact bind_getElem?_eq_through? i (at?_rootPlaces tree) fun c => at?_convert c path

/-- The expression at a path in the forest is the conversion of a node of the tree. -/
theorem exists_node_of_inForest? {tree : SyntaxNode} {path : List Nat} {e : Expr}
    (h : Expr.inForest? (rootsOf src tree) path = some e) :
    ∃ p n, rootOrigin? src tree path = some p ∧ tree.at? p = some n ∧ e = convert src n := by
  rw [inForest?_rootsOf, Option.bind_eq_some_iff] at h
  obtain ⟨p, hp, converted⟩ := h
  obtain ⟨n, hn, rfl⟩ := Option.map_eq_some_iff.mp converted
  exact ⟨p, n, hp, hn, rfl⟩

section Parting

variable {R : List Nat → List Nat → Prop}

/-- What holds of paths that part, and does not depend on what stands before the parting or after
the turn. -/
structure Parting (R : List Nat → List Nat → Prop) : Prop where
  extend : ∀ {p q} s t, R p q → R (p ++ s) (q ++ t)
  prepend : ∀ s {p q}, R p q → R (s ++ p) (s ++ q)

theorem through?_related {n : SyntaxNode} {places : List (List Nat)} {i j : Nat}
    {path path' p q : List Nat} (parting : Parting R) (placed : places.Pairwise R)
    (below : ∀ c s, n.at? s = some c → ∀ {p q}, Before path path' → origin? src c path = some p →
      origin? src c path' = some q → R p q)
    (before : Before (i :: path) (j :: path'))
    (hp : (through? n places i fun c => origin? src c path) = some p)
    (hq : (through? n places j fun c => origin? src c path') = some q) : R p q := by
  obtain ⟨s, c, p, hi, hc, fromC, rfl⟩ := through?_eq_some_iff.mp hp
  obtain ⟨t, d, q, hj, hd, fromD, rfl⟩ := through?_eq_some_iff.mp hq
  rcases before with left | ⟨rfl, deeper⟩
  · obtain ⟨iBound, rfl⟩ := List.getElem?_eq_some_iff.mp hi
    obtain ⟨jBound, rfl⟩ := List.getElem?_eq_some_iff.mp hj
    exact parting.extend p q (List.pairwise_iff_getElem.mp placed i j iBound jBound left)
  · cases hi.symm.trans hj
    cases hc.symm.trans hd
    exact parting.prepend s (below c s hc deeper fromC fromD)

theorem origin?_related (parting : Parting R) {n : SyntaxNode}
    (picked : Everywhere (fun m => (picks m.children (convert src m)).Pairwise R) n)
    {path path' p q : List Nat} (before : Before path path') (hp : origin? src n path = some p)
    (hq : origin? src n path' = some q) : R p q := by
  induction path generalizing n path' p q with
  | nil => exact before.elim
  | cons i path ih =>
      cases path' with
      | nil => exact before.elim
      | cons j path' =>
          exact through?_related parting picked.here
            (fun c s hc _ _ deeper hp hq => ih (picked.at? hc) deeper hp hq) before hp hq

/-- Places at which the conversion is taken up part as the expressions do. -/
theorem rootOrigin?_related (parting : Parting R) {tree : SyntaxNode}
    (roots : (rootPlaces tree).Pairwise R)
    (picked : Everywhere (fun m => (picks m.children (convert src m)).Pairwise R) tree)
    {path path' p q : List Nat} (before : Before path path')
    (hp : rootOrigin? src tree path = some p) (hq : rootOrigin? src tree path' = some q) :
    R p q := by
  cases path with
  | nil => cases hp
  | cons i path =>
      cases path' with
      | nil => cases hq
      | cons j path' =>
          exact through?_related parting roots
            (fun c s hc _ _ deeper hp hq => origin?_related parting (picked.at? hc) deeper hp hq)
            before hp hq

end Parting

theorem parting_before : Parting Before where
  extend {p q} s t h := by
    induction p generalizing q with
    | nil => exact h.elim
    | cons i p ih =>
        cases q with
        | nil => exact h.elim
        | cons j q => exact h.imp id fun deeper => ⟨deeper.1, ih deeper.2⟩
  prepend s p q h := by
    induction s with
    | nil => exact h
    | cons i s ih => exact .inr ⟨rfl, ih⟩

theorem parting_apart : Parting Apart where
  extend s t h := h.imp (parting_before.extend s t) (parting_before.extend t s)
  prepend s _ _ h := h.imp (parting_before.prepend s) (parting_before.prepend s)

theorem before_rootPlaces (tree : SyntaxNode) : (rootPlaces tree).Pairwise Before := by
  rw [rootPlaces]
  split
  · exact List.pairwise_singleton Before []
  · exact before_compoundPlaces 0

theorem apart_of_rootOrigin? {tree : SyntaxNode} {path path' p q : List Nat}
    (apart : Apart path path') (hp : rootOrigin? src tree path = some p)
    (hq : rootOrigin? src tree path' = some q) : Apart p q := by
  have roots : (rootPlaces tree).Pairwise Apart := (before_rootPlaces tree).imp .inl
  have picked : Everywhere (fun m => (picks m.children (convert src m)).Pairwise Apart) tree := by
    rintro s ⟨info, children⟩ -
    exact apart_picks src (conversion src info children)
  rcases apart with before | after
  · exact rootOrigin?_related parting_apart roots picked before hp hq
  · exact (rootOrigin?_related parting_apart roots picked after hq hp).symm

/-- Expressions beside each other come from nodes that stand in the same order. -/
theorem before_of_rootOrigin? {tree : SyntaxNode} (ordered : Everywhere FieldsInOrder tree)
    {path path' p q : List Nat} (before : Before path path')
    (hp : rootOrigin? src tree path = some p) (hq : rootOrigin? src tree path' = some q) :
    Before p q := by
  refine rootOrigin?_related parting_before (before_rootPlaces tree) ?_ before hp hq
  rintro s ⟨info, children⟩ found
  exact before_picks src (ordered s _ found) (conversion src info children)

theorem origin?_append {n : SyntaxNode} {path further p : List Nat}
    (h : origin? src n (path ++ further) = some p) :
    ∃ s c q, origin? src n path = some s ∧ n.at? s = some c ∧ origin? src c further = some q ∧
      p = s ++ q := by
  induction path generalizing n p with
  | nil => exact ⟨[], n, p, rfl, at?_nil n, h, rfl⟩
  | cons j path ih =>
      obtain ⟨place, c, p, hplace, hc, hp, rfl⟩ := through?_eq_some_iff.mp h
      obtain ⟨s, d, q, hs, hd, hq, rfl⟩ := ih hp
      refine ⟨place ++ s, d, q, ?_, ?_, hq, (List.append_assoc place s q).symm⟩
      · exact through?_eq_some_iff.mpr ⟨place, c, s, hplace, hc, hs, rfl⟩
      · exact (at?_append_of_at? hc s).trans hd

theorem origin?_append_of_origin? {n c : SyntaxNode} {path further s q : List Nat}
    (hs : origin? src n path = some s) (hc : n.at? s = some c)
    (hq : origin? src c further = some q) : origin? src n (path ++ further) = some (s ++ q) := by
  induction path generalizing n s with
  | nil =>
      cases hs
      cases hc
      exact hq
  | cons j path ih =>
      obtain ⟨place, d, s, hplace, hd, below, rfl⟩ := through?_eq_some_iff.mp hs
      rw [at?_append_of_at? hd] at hc
      exact through?_eq_some_iff.mpr
        ⟨place, d, s ++ q, hplace, hd, ih below hc, List.append_assoc place s q⟩

/-- The second node is the first or one that is converted below it. -/
def ConvertedWithin (src : Source) (n m : SyntaxNode) : Prop :=
  ∃ path p, origin? src n path = some p ∧ n.at? p = some m

theorem ConvertedWithin.refl (n : SyntaxNode) : ConvertedWithin src n n :=
  ⟨[], [], rfl, at?_nil n⟩

theorem ConvertedWithin.trans {n m k : SyntaxNode} (first : ConvertedWithin src n m)
    (second : ConvertedWithin src m k) : ConvertedWithin src n k := by
  obtain ⟨path, p, hp, hm⟩ := first
  obtain ⟨further, q, hq, hk⟩ := second
  exact ⟨path ++ further, p ++ q, origin?_append_of_origin? hp hm hq,
    (at?_append_of_at? hm q).trans hk⟩

theorem ConvertedWithin.of_pick {n c : SyntaxNode} {place : List Nat}
    (picked : place ∈ picks n.children (convert src n)) (hc : n.at? place = some c) :
    ConvertedWithin src n c := by
  obtain ⟨j, hj⟩ := List.getElem?_of_mem picked
  exact ⟨[j], place, through?_eq_some_iff.mpr
    ⟨place, c, [], hj, hc, rfl, (List.append_nil place).symm⟩, hc⟩

theorem ConvertedWithin.exists_at? {n m : SyntaxNode} (h : ConvertedWithin src n m) :
    ∃ p, n.at? p = some m := by
  obtain ⟨path, p, -, hm⟩ := h
  exact ⟨p, hm⟩

theorem origin?_cons_ne_nil {n : SyntaxNode} {j : Nat} {path p : List Nat}
    (h : origin? src n (j :: path) = some p) : p ≠ [] := by
  obtain ⟨place, c, q, hplace, -, -, rfl⟩ := through?_eq_some_iff.mp h
  intro empty
  exact picks_ne_nil place (List.mem_of_getElem? hplace) (List.append_eq_nil_iff.mp empty).1

theorem rootOrigin?_append {tree : SyntaxNode} {path further p : List Nat} (ne : path ≠ [])
    (h : rootOrigin? src tree (path ++ further) = some p) :
    ∃ s c q, rootOrigin? src tree path = some s ∧ tree.at? s = some c ∧
      origin? src c further = some q ∧ p = s ++ q := by
  cases path with
  | nil => exact (ne rfl).elim
  | cons i path =>
      obtain ⟨place, c, p, hplace, hc, hp, rfl⟩ := through?_eq_some_iff.mp h
      obtain ⟨s, d, q, hs, hd, hq, rfl⟩ := origin?_append hp
      refine ⟨place ++ s, d, q, ?_, ?_, hq, (List.append_assoc place s q).symm⟩
      · exact through?_eq_some_iff.mpr ⟨place, c, s, hplace, hc, hs, rfl⟩
      · exact (at?_append_of_at? hc s).trans hd

/-- An expression inside another comes from a node properly inside the node of the other. -/
theorem rootOrigin?_extended_ne {tree : SyntaxNode} {path further p q : List Nat}
    (proper : further ≠ []) (hp : rootOrigin? src tree path = some p)
    (hq : rootOrigin? src tree (path ++ further) = some q) : p ≠ q := by
  have ne : path ≠ [] := by
    rintro rfl
    cases hp
  obtain ⟨s, c, r, hs, -, hr, rfl⟩ := rootOrigin?_append ne hq
  cases hp.symm.trans hs
  cases further with
  | nil => exact (proper rfl).elim
  | cons j further =>
      intro same
      exact origin?_cons_ne_nil hr (List.self_eq_append_right.mp same)

/-- No two expressions of a forest come from one node. -/
theorem rootOrigin?_injective {tree : SyntaxNode} {path path' p : List Nat}
    (hp : rootOrigin? src tree path = some p) (hq : rootOrigin? src tree path' = some p) :
    path = path' := by
  rcases eq_or_apart_or_extends path path' with same | apart | ⟨s, proper, rfl⟩ | ⟨s, proper, rfl⟩
  · exact same
  · exact (append_ne_of_apart (apart_of_rootOrigin? apart hp hq) [] [] rfl).elim
  · exact (rootOrigin?_extended_ne proper hp hq rfl).elim
  · exact (rootOrigin?_extended_ne proper hq hp rfl).elim

end Java
end NullSafeEquality
