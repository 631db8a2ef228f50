import NullSafeEquality.Parsing.SyntaxNode

/-!
Places in a concrete tree. A node is named by its path, the numbers of the children on the way down.
Of two paths that part, one turns off to the left of the other; then neither goes on where the other
ends, and whatever is laid out in order stands in order at their ends.
-/

namespace NullSafeEquality

/-- The first path turns off to the left of the second. -/
def Before : List Nat → List Nat → Prop
  | i :: p, j :: q => i < j ∨ i = j ∧ Before p q
  | _, _ => False

/-- The paths part somewhere. -/
def Apart (p q : List Nat) : Prop := Before p q ∨ Before q p

@[simp] theorem before_cons (i j : Nat) (p q : List Nat) :
    Before (i :: p) (j :: q) ↔ i < j ∨ i = j ∧ Before p q := Iff.rfl

theorem append_ne_of_before {p q : List Nat} (h : Before p q) (s t : List Nat) :
    p ++ s ≠ q ++ t := by
  induction p generalizing q with
  | nil => exact h.elim
  | cons i p ih =>
      cases q with
      | nil => exact h.elim
      | cons j q =>
          intro same
          obtain ⟨head, tail⟩ := List.cons.inj same
          rcases h with left | ⟨-, below⟩
          · omega
          · exact ih below tail

/-- Paths that part are not continued to one path. -/
theorem append_ne_of_apart {p q : List Nat} (h : Apart p q) (s t : List Nat) :
    p ++ s ≠ q ++ t := by
  rcases h with h | h
  · exact append_ne_of_before h s t
  · exact (append_ne_of_before h t s).symm

/-- Two paths are the same, part, or go on one behind the end of the other. -/
theorem eq_or_apart_or_extends (p q : List Nat) :
    p = q ∨ Apart p q ∨ (∃ s, s ≠ [] ∧ q = p ++ s) ∨ ∃ s, s ≠ [] ∧ p = q ++ s := by
  induction p generalizing q with
  | nil =>
      cases q with
      | nil => exact .inl rfl
      | cons j q => exact .inr (.inr (.inl ⟨j :: q, List.cons_ne_nil j q, rfl⟩))
  | cons i p ih =>
      cases q with
      | nil => exact .inr (.inr (.inr ⟨i :: p, List.cons_ne_nil i p, rfl⟩))
      | cons j q =>
          rcases Nat.lt_trichotomy i j with left | rfl | right
          · exact .inr (.inl (.inl (.inl left)))
          · rcases ih q with rfl | apart | ⟨s, proper, rfl⟩ | ⟨s, proper, rfl⟩
            · exact .inl rfl
            · exact .inr (.inl (apart.imp (fun h => .inr ⟨rfl, h⟩) fun h => .inr ⟨rfl, h⟩))
            · exact .inr (.inr (.inl ⟨s, proper, rfl⟩))
            · exact .inr (.inr (.inr ⟨s, proper, rfl⟩))
          · exact .inr (.inl (.inr (.inl right)))

/-- A lexicographically smaller path ends on the way of the other or turns off to its left. -/
theorem extends_or_before_of_lt {p q : List Nat} (h : p < q) : p <+: q ∨ Before p q := by
  induction p generalizing q with
  | nil => exact .inl List.nil_prefix
  | cons i p ih =>
      cases q with
      | nil => exact (List.not_lt_nil _ h).elim
      | cons j q =>
          rcases List.cons_lt_cons_iff.mp h with left | ⟨rfl, later⟩
          · exact .inr (.inl left)
          · exact (ih later).imp (List.cons_prefix_cons.mpr ⟨rfl, ·⟩) fun before => .inr ⟨rfl, before⟩

namespace SyntaxNode

theorem sizeOf_lt_of_mem_children {n c : SyntaxNode} (h : c ∈ n.children) :
    sizeOf c < sizeOf n := by
  cases n with
  | node info children =>
      have smaller := List.sizeOf_lt_of_mem (show c ∈ children from h)
      simp only [node.sizeOf_spec]
      omega

/-- The node at the end of a path of child numbers. -/
def at? : SyntaxNode → List Nat → Option SyntaxNode
  | n, [] => some n
  | n, i :: path => n.children[i]?.bind fun c => at? c path

/-- The node at the end of a path that begins with the number of a node in a row. -/
def inRow? (nodes : List SyntaxNode) : List Nat → Option SyntaxNode
  | [] => none
  | i :: path => nodes[i]?.bind fun n => n.at? path

@[simp] theorem at?_nil (n : SyntaxNode) : n.at? [] = some n := by rw [at?]

theorem at?_cons (n : SyntaxNode) (i : Nat) (path : List Nat) :
    n.at? (i :: path) = n.children[i]?.bind fun c => c.at? path := by rw [at?]

theorem at?_eq_inRow? (n : SyntaxNode) {path : List Nat} (h : path ≠ []) :
    n.at? path = inRow? n.children path := by
  cases path with
  | nil => exact (h rfl).elim
  | cons i path => rw [at?_cons, inRow?]

theorem at?_cons_eq_some_iff {n m : SyntaxNode} {i : Nat} {path : List Nat} :
    n.at? (i :: path) = some m ↔ ∃ c, n.children[i]? = some c ∧ c.at? path = some m := by
  rw [at?_cons, Option.bind_eq_some_iff]

theorem at?_append (n : SyntaxNode) (p q : List Nat) :
    n.at? (p ++ q) = (n.at? p).bind fun m => m.at? q := by
  induction p generalizing n with
  | nil => rw [List.nil_append, at?_nil, Option.bind_some]
  | cons i p ih =>
      rw [List.cons_append, at?_cons, at?_cons, Option.bind_assoc]
      exact Option.bind_congr fun c _ => ih c

theorem at?_append_of_at? {n m : SyntaxNode} {p : List Nat} (h : n.at? p = some m)
    (q : List Nat) : n.at? (p ++ q) = m.at? q := by
  rw [at?_append, h, Option.bind_some]

theorem sizeOf_lt_of_at? {n m : SyntaxNode} {path : List Nat} (h : n.at? path = some m)
    (below : path ≠ []) : sizeOf m < sizeOf n := by
  induction path generalizing n with
  | nil => exact (below rfl).elim
  | cons i path ih =>
      obtain ⟨c, hc, inside⟩ := at?_cons_eq_some_iff.mp h
      have smaller := sizeOf_lt_of_mem_children (List.mem_of_getElem? hc)
      cases path with
      | nil =>
          cases inside
          exact smaller
      | cons j path => exact Nat.lt_trans (ih inside (List.cons_ne_nil j path)) smaller

/-- What holds of a node whenever it holds of all nodes below it holds of every tree. -/
@[elab_as_elim]
theorem belowInduction {motive : SyntaxNode → Prop}
    (node : ∀ n, (∀ path m, path ≠ [] → n.at? path = some m → motive m) → motive n)
    (n : SyntaxNode) : motive n :=
  node n fun _ m _ _ => belowInduction node m
termination_by sizeOf n
decreasing_by exact sizeOf_lt_of_at? ‹_› ‹_›

/-- What holds of a row of nodes whenever it holds of the children of the first and of the rest. -/
@[elab_as_elim]
theorem rowInduction {motive : List SyntaxNode → Prop} (nil : motive [])
    (cons : ∀ info children rest, motive children → motive rest →
      motive (.node info children :: rest)) :
    (nodes : List SyntaxNode) → motive nodes
  | [] => nil
  | .node info children :: rest =>
      cons info children rest (rowInduction nil cons children) (rowInduction nil cons rest)

/-- A property of all nodes of a tree. -/
def Everywhere (P : SyntaxNode → Prop) (n : SyntaxNode) : Prop :=
  ∀ path m, n.at? path = some m → P m

namespace Everywhere

variable {P : SyntaxNode → Prop} {n m : SyntaxNode}

theorem here (h : Everywhere P n) : P n := h [] n (at?_nil n)

theorem at? (h : Everywhere P n) {path : List Nat} (hm : n.at? path = some m) :
    Everywhere P m := fun q x hx => h (path ++ q) x ((at?_append_of_at? hm q).trans hx)

theorem child (h : Everywhere P n) {c : SyntaxNode} (hc : c ∈ n.children) : Everywhere P c := by
  obtain ⟨i, hi⟩ := List.getElem?_of_mem hc
  have found : n.at? [i] = some c := at?_cons_eq_some_iff.mpr ⟨c, hi, at?_nil c⟩
  exact h.at? found

theorem of_children (here : P n) (below : ∀ c ∈ n.children, Everywhere P c) :
    Everywhere P n := by
  intro path m hm
  cases path with
  | nil =>
      cases hm
      exact here
  | cons i path =>
      obtain ⟨c, hc, inside⟩ := at?_cons_eq_some_iff.mp hm
      exact below c (List.mem_of_getElem? hc) path m inside

theorem node_iff {info : NodeInfo} {children : List SyntaxNode} :
    Everywhere P (.node info children) ↔
      P (.node info children) ∧ ∀ c ∈ children, Everywhere P c :=
  ⟨fun h => ⟨h.here, fun _ hc => h.child hc⟩, fun h => of_children h.1 h.2⟩

end Everywhere

mutual

/-- Does a property hold of all nodes of a tree? -/
def all (p : SyntaxNode → Bool) : SyntaxNode → Bool
  | .node info children => p (.node info children) && allInRow p children

def allInRow (p : SyntaxNode → Bool) : List SyntaxNode → Bool
  | [] => true
  | n :: rest => all p n && allInRow p rest

end

theorem allInRow_eq_all (p : SyntaxNode → Bool) (nodes : List SyntaxNode) :
    allInRow p nodes = nodes.all (all p) := by
  induction nodes with
  | nil => rw [allInRow, List.all_nil]
  | cons n rest ih => rw [allInRow, ih, List.all_cons]

theorem all_eq_true_iff (P : SyntaxNode → Prop) [DecidablePred P] (n : SyntaxNode) :
    n.all (fun m => decide (P m)) = true ↔ Everywhere P n := by
  induction n using belowInduction with
  | node n ih =>
      obtain ⟨info, children⟩ := n
      rw [all, allInRow_eq_all, Everywhere.node_iff, Bool.and_eq_true, decide_eq_true_iff,
        List.all_eq_true]
      refine and_congr_right fun _ => forall₂_congr fun c hc => ?_
      obtain ⟨i, hi⟩ := List.getElem?_of_mem hc
      exact ih [i] c (List.cons_ne_nil i []) (at?_cons_eq_some_iff.mpr ⟨c, hi, at?_nil c⟩)

instance (P : SyntaxNode → Prop) [DecidablePred P] (n : SyntaxNode) :
    Decidable (Everywhere P n) := decidable_of_iff _ (all_eq_true_iff P n)

end SyntaxNode
end NullSafeEquality
