import Mathlib.Logic.ExistsUnique
import NullSafeEquality.Inspection.Walk
import NullSafeEquality.Proofs.Nodes

/-!
What the walk reports. A node of a forest is named by its path: the number of its root, then the
number of the child at each step. Reported are the matched nodes with no matched node above them, in
the lexicographic order of their paths, which is the order of the source. The sink is a list that
grows at its end, so that the findings of several walks follow one another.
-/

namespace NullSafeEquality
namespace Expr

/-- The node at the end of a path of child numbers. -/
def at? : Expr → List Nat → Option Expr
  | e, [] => some e
  | e, i :: path => e.children[i]?.bind fun c => at? c path

/-- The node at the end of a path that begins with the number of a root. -/
def inForest? (roots : List Expr) : List Nat → Option Expr
  | [] => none
  | i :: path => roots[i]?.bind fun e => e.at? path

/-- A node that the walk reports if it comes to it. -/
def Matched (config : InspectionConfig) (e : Expr) : Prop :=
  e.isParen = false ∧ (recognize? config e).isSome = true

/-- The path leads to a matched node, and to none before its end. -/
def Outermost (config : InspectionConfig) (node? : List Nat → Option Expr) (path : List Nat) :
    Prop :=
  (∃ e, node? path = some e ∧ Matched config e) ∧
    ∀ above, above <+: path → above ≠ path → ∀ e, node? above = some e → ¬ Matched config e

/-- The path leads to an outermost match, and the diagnostic is the one for its node. -/
def FoundAt (config : InspectionConfig) (node? : List Nat → Option Expr) (path : List Nat)
    (d : Diagnostic) : Prop :=
  Outermost config node? path ∧
    ∃ e m, node? path = some e ∧ recognize? config e = some m ∧ d = Diagnostic.ofMatch e m

/-- All findings among the nodes of a forest or a tree, in order, are what a walk adds to a sink. -/
structure Findings (config : InspectionConfig) (node? : List Nat → Option Expr)
    (walk : Array Diagnostic → Array Diagnostic) (found : List (List Nat × Diagnostic)) : Prop where
  increasing : (found.map Prod.fst).Pairwise (· < ·)
  complete : ∀ path d, (path, d) ∈ found ↔ FoundAt config node? path d
  added : ∀ sink, (walk sink).toList = sink.toList ++ found.map Prod.snd

theorem ownDiagnostic?_of_not_paren (config : InspectionConfig) {e : Expr}
    (h : e.isParen = false) :
    ownDiagnostic? config e = (recognize? config e).map (Diagnostic.ofMatch e) := by
  cases e with
  | paren inner span => cases h
  | _ => rfl

theorem ownDiagnostic?_eq_some_iff (config : InspectionConfig) (e : Expr) (d : Diagnostic) :
    ownDiagnostic? config e = some d ↔
      e.isParen = false ∧ ∃ m, recognize? config e = some m ∧ d = Diagnostic.ofMatch e m := by
  cases h : e.isParen with
  | false =>
      rw [ownDiagnostic?_of_not_paren config h, Option.map_eq_some_iff]
      simp only [true_and, eq_comm]
  | true =>
      cases e with
      | paren inner span => simp [ownDiagnostic?]
      | _ => cases h

theorem ownDiagnostic?_eq_none_iff (config : InspectionConfig) (e : Expr) :
    ownDiagnostic? config e = none ↔ ¬ Matched config e := by
  cases h : e.isParen with
  | false =>
      rw [ownDiagnostic?_of_not_paren config h, Option.map_eq_none_iff]
      simp [Matched, h]
  | true =>
      cases e with
      | paren inner span => simp [ownDiagnostic?, Matched, isParen]
      | _ => cases h

theorem report_of_some {config : InspectionConfig} {e : Expr} {d : Diagnostic}
    (h : ownDiagnostic? config e = some d) (sink : Array Diagnostic) :
    report config e sink = sink.push d := by
  rw [report.eq_def, h]

theorem report_of_none {config : InspectionConfig} {e : Expr} (h : ownDiagnostic? config e = none)
    (sink : Array Diagnostic) : report config e sink = reportAll config e.children sink := by
  rw [report.eq_def, h]
  cases e with
  | call receiver _ _ args _ =>
      cases receiver <;> simp [children, reportReceiver, reportAll]
  | _ => simp only [children, reportAll]

section Paths

variable {config : InspectionConfig} {node? : List Nat → Option Expr}

theorem forall_prefix_cons {p : List Nat → Prop} {i : Nat} {path : List Nat} :
    (∀ above, above <+: i :: path → above ≠ i :: path → p above) ↔
      p [] ∧ ∀ above, above <+: path → above ≠ path → p (i :: above) := by
  constructor
  · intro h
    refine ⟨h [] List.nil_prefix (by simp), fun above hpath proper => ?_⟩
    exact h (i :: above) (List.cons_prefix_cons.mpr ⟨rfl, hpath⟩) (by simpa using proper)
  · rintro ⟨hnil, hcons⟩ above hpath proper
    rcases List.prefix_cons_iff.mp hpath with rfl | ⟨rest, rfl, hrest⟩
    · exact hnil
    · exact hcons rest hrest (by simpa using proper)

theorem outermost_root (e : Expr) : Outermost config e.at? [] ↔ Matched config e := by
  constructor
  · rintro ⟨⟨x, hx, matched⟩, -⟩
    cases hx
    exact matched
  · intro matched
    refine ⟨⟨e, rfl, matched⟩, fun above hpath proper => ?_⟩
    exact (proper (List.prefix_nil.mp hpath)).elim

theorem outermost_child (e : Expr) (i : Nat) (path : List Nat) :
    Outermost config e.at? (i :: path) ↔
      ¬ Matched config e ∧ Outermost config (inForest? e.children) (i :: path) := by
  simp only [Outermost, forall_prefix_cons]
  constructor
  · rintro ⟨here, top, inside⟩
    refine ⟨top e rfl, here, ?_, inside⟩
    intro x hx
    cases hx
  · rintro ⟨top, here, -, inside⟩
    refine ⟨here, fun x hx => ?_, inside⟩
    cases hx
    exact top

theorem outermost_firstRoot (e : Expr) (rest : List Expr) (path : List Nat) :
    Outermost config (inForest? (e :: rest)) (0 :: path) ↔ Outermost config e.at? path := by
  simp only [Outermost, forall_prefix_cons]
  constructor
  · rintro ⟨here, -, inside⟩
    exact ⟨here, inside⟩
  · rintro ⟨here, inside⟩
    refine ⟨here, ?_, inside⟩
    intro x hx
    cases hx

theorem outermost_nextRoot (e : Expr) (rest : List Expr) (i : Nat) (path : List Nat) :
    Outermost config (inForest? (e :: rest)) ((i + 1) :: path) ↔
      Outermost config (inForest? rest) (i :: path) := by
  simp only [Outermost, forall_prefix_cons]
  exact Iff.rfl

theorem not_outermost_nil (roots : List Expr) : ¬ Outermost config (inForest? roots) [] := by
  rintro ⟨⟨e, none, -⟩, -⟩
  cases none

theorem foundAt_child (e : Expr) (i : Nat) (path : List Nat) (d : Diagnostic) :
    FoundAt config e.at? (i :: path) d ↔
      ¬ Matched config e ∧ FoundAt config (inForest? e.children) (i :: path) d := by
  rw [FoundAt, FoundAt, outermost_child, and_assoc]
  exact Iff.rfl

theorem foundAt_firstRoot (e : Expr) (rest : List Expr) (path : List Nat) (d : Diagnostic) :
    FoundAt config (inForest? (e :: rest)) (0 :: path) d ↔ FoundAt config e.at? path d := by
  rw [FoundAt, FoundAt, outermost_firstRoot]
  exact Iff.rfl

theorem foundAt_nextRoot (e : Expr) (rest : List Expr) (i : Nat) (path : List Nat)
    (d : Diagnostic) :
    FoundAt config (inForest? (e :: rest)) ((i + 1) :: path) d ↔
      FoundAt config (inForest? rest) (i :: path) d := by
  rw [FoundAt, FoundAt, outermost_nextRoot]
  exact Iff.rfl

end Paths

/-- The path of a node once a root has been put before the others. -/
def nextRoot : List Nat → List Nat
  | [] => []
  | i :: path => (i + 1) :: path

theorem nextRoot_lt_nextRoot {p q : List Nat} (h : p < q) : nextRoot p < nextRoot q := by
  cases p with
  | nil =>
      cases q with
      | nil => exact absurd h (List.not_lt_nil [])
      | cons j q => exact List.nil_lt_cons (j + 1) q
  | cons i p =>
      cases q with
      | nil => exact absurd h (List.not_lt_nil (i :: p))
      | cons j q =>
          rcases List.cons_lt_cons_iff.mp h with head | ⟨rfl, tail⟩
          · exact List.cons_lt_cons_iff.mpr (.inl (Nat.succ_lt_succ head))
          · exact List.cons_lt_cons_iff.mpr (.inr ⟨rfl, tail⟩)

section Shift

variable {found : List (List Nat × Diagnostic)} {i : Nat} {path : List Nat} {d : Diagnostic}

theorem mem_map_firstRoot :
    (i :: path, d) ∈ found.map (Prod.map (0 :: ·) id) ↔ i = 0 ∧ (path, d) ∈ found := by
  rw [List.mem_map]
  constructor
  · rintro ⟨⟨p, c⟩, mem, same⟩
    cases same
    exact ⟨rfl, mem⟩
  · rintro ⟨rfl, mem⟩
    exact ⟨_, mem, rfl⟩

theorem mem_map_nextRoot :
    (i :: path, d) ∈ found.map (Prod.map nextRoot id) ↔
      ∃ j, i = j + 1 ∧ (j :: path, d) ∈ found := by
  rw [List.mem_map]
  constructor
  · rintro ⟨⟨p, c⟩, mem, same⟩
    cases p with
    | nil => cases same
    | cons j p =>
        cases same
        exact ⟨j, rfl, mem⟩
  · rintro ⟨j, rfl, mem⟩
    exact ⟨_, mem, rfl⟩

theorem increasing_map {shift : List Nat → List Nat} (mono : ∀ {p q}, p < q → shift p < shift q)
    (h : (found.map Prod.fst).Pairwise (· < ·)) :
    ((found.map (Prod.map shift id)).map Prod.fst).Pairwise (· < ·) := by
  rw [List.pairwise_map] at h
  rw [List.pairwise_map, List.pairwise_map]
  exact h.imp mono

end Shift

namespace Findings

variable {config : InspectionConfig} {e : Expr} {rest : List Expr}

theorem of_matched {d : Diagnostic} (h : ownDiagnostic? config e = some d) :
    Findings config e.at? (report config e) [([], d)] where
  increasing := List.pairwise_singleton _ _
  complete := by
    obtain ⟨bare, m, hm, rfl⟩ := (ownDiagnostic?_eq_some_iff config e _).mp h
    have matched : Matched config e := ⟨bare, by simp [hm]⟩
    intro path d
    cases path with
    | nil =>
        rw [FoundAt, outermost_root]
        constructor
        · intro here
          cases List.mem_singleton.mp here
          exact ⟨matched, e, m, rfl, hm, rfl⟩
        · rintro ⟨-, x, n, hx, hn, rfl⟩
          cases hx
          cases hm.symm.trans hn
          exact List.mem_singleton.mpr rfl
    | cons i path => simp [foundAt_child, matched]
  added sink := by simp [report_of_some h]

theorem of_children {found : List (List Nat × Diagnostic)} (h : ownDiagnostic? config e = none)
    (below : Findings config (inForest? e.children) (reportAll config e.children) found) :
    Findings config e.at? (report config e) found where
  increasing := below.increasing
  complete := by
    have unmatched : ¬ Matched config e := (ownDiagnostic?_eq_none_iff config e).mp h
    intro path d
    rw [below.complete]
    cases path with
    | nil => simp [FoundAt, outermost_root, unmatched, not_outermost_nil]
    | cons i path => simp [foundAt_child, unmatched]
  added sink := by rw [report_of_none h, below.added]

theorem nil : Findings config (inForest? []) (reportAll config []) [] where
  increasing := List.Pairwise.nil
  complete path d := by
    cases path <;> simp [FoundAt, Outermost, inForest?]
  added sink := by simp [reportAll]

theorem ne_nil {roots : List Expr} {walk : Array Diagnostic → Array Diagnostic}
    {found : List (List Nat × Diagnostic)} (h : Findings config (inForest? roots) walk found)
    {path : List Nat} {d : Diagnostic} (mem : (path, d) ∈ found) : path ≠ [] := by
  rintro rfl
  exact not_outermost_nil roots ((h.complete [] d).mp mem).1

theorem cons {here there : List (List Nat × Diagnostic)}
    (first : Findings config e.at? (report config e) here)
    (others : Findings config (inForest? rest) (reportAll config rest) there) :
    Findings config (inForest? (e :: rest)) (reportAll config (e :: rest))
      (here.map (Prod.map (0 :: ·) id) ++ there.map (Prod.map nextRoot id)) where
  increasing := by
    rw [List.map_append, List.pairwise_append]
    refine ⟨?_, ?_, ?_⟩
    · exact increasing_map (fun h => List.cons_lt_cons_self.mpr h) first.increasing
    · exact increasing_map nextRoot_lt_nextRoot others.increasing
    · intro p hp q hq
      obtain ⟨_, ⟨⟨p, d⟩, -, rfl⟩, rfl⟩ := by simpa only [List.mem_map] using hp
      obtain ⟨_, ⟨⟨q, c⟩, mem, rfl⟩, rfl⟩ := by simpa only [List.mem_map] using hq
      cases q with
      | nil => exact (others.ne_nil mem rfl).elim
      | cons j q => exact List.cons_lt_cons_iff.mpr (.inl (Nat.succ_pos j))
  complete path d := by
    rw [List.mem_append]
    cases path with
    | nil =>
        have absent : ¬ FoundAt config (inForest? (e :: rest)) [] d :=
          fun h => not_outermost_nil (e :: rest) h.1
        simp only [absent, iff_false, List.mem_map]
        rintro (⟨⟨p, c⟩, -, same⟩ | ⟨⟨q, c⟩, mem, same⟩)
        · cases same
        · cases q with
          | nil => exact others.ne_nil mem rfl
          | cons j q => cases same
    | cons i path =>
        rw [mem_map_firstRoot, mem_map_nextRoot]
        cases i with
        | zero => simp [foundAt_firstRoot, first.complete]
        | succ i => simp [foundAt_nextRoot, others.complete]
  added sink := by
    simp [reportAll, others.added, first.added, Function.comp_def]

/-- The walk of a forest finds what it should if the walks of its trees do. -/
theorem of_forest {es : List Expr}
    (each : ∀ e ∈ es, ∃ found, Findings config e.at? (report config e) found) :
    ∃ found, Findings config (inForest? es) (reportAll config es) found := by
  induction es with
  | nil => exact ⟨[], nil⟩
  | cons e rest ih =>
      obtain ⟨here, first⟩ := each e List.mem_cons_self
      obtain ⟨there, others⟩ := ih fun x hx => each x (List.mem_cons_of_mem e hx)
      exact ⟨_, first.cons others⟩

theorem of_tree (config : InspectionConfig) (e : Expr) :
    ∃ found, Findings config e.at? (report config e) found := by
  induction e using childrenInduction with
  | node e ih =>
      cases h : ownDiagnostic? config e with
      | some d => exact ⟨_, of_matched h⟩
      | none =>
          obtain ⟨found, below⟩ := of_forest ih
          exact ⟨found, of_children h below⟩

end Findings

section Above

variable {config : InspectionConfig} {node? : List Nat → Option Expr}

/-- No outermost match lies inside another. -/
theorem Outermost.eq_of_prefix {outer inner : List Nat} (houter : Outermost config node? outer)
    (hinner : Outermost config node? inner) (h : outer <+: inner) : outer = inner := by
  obtain ⟨⟨e, he, matched⟩, -⟩ := houter
  rcases Decidable.em (outer = inner) with same | proper
  · exact same
  · exact (hinner.2 outer h proper e he matched).elim

theorem exists_outermost_above {path : List Nat} {e : Expr} (he : node? path = some e)
    (matched : Matched config e) : ∃ above, above <+: path ∧ Outermost config node? above := by
  induction hn : path.length using Nat.strongRecOn generalizing path e with
  | ind n ih =>
      subst hn
      by_cases top : Outermost config node? path
      · exact ⟨path, List.prefix_refl path, top⟩
      · -- Some matched node is properly above, and its path is shorter.
        have higher : ∃ above, above <+: path ∧ above ≠ path ∧
            ∃ x, node? above = some x ∧ Matched config x := by
          refine Classical.byContradiction fun none => top ⟨⟨e, he, matched⟩, ?_⟩
          intro above hpath proper x hx hmatched
          exact none ⟨above, hpath, proper, x, hx, hmatched⟩
        obtain ⟨above, hpath, proper, x, hx, hmatched⟩ := higher
        have shorter : above.length < path.length :=
          Nat.lt_of_le_of_ne hpath.length_le fun same => proper (hpath.eq_of_length same)
        obtain ⟨first, hfirst, outermost⟩ := ih above.length shorter hx hmatched rfl
        exact ⟨first, hfirst.trans hpath, outermost⟩

theorem existsUnique_outermost_above {path : List Nat} {e : Expr} (he : node? path = some e)
    (matched : Matched config e) : ∃! above, above <+: path ∧ Outermost config node? above := by
  obtain ⟨above, hpath, outermost⟩ := exists_outermost_above he matched
  refine ⟨above, ⟨hpath, outermost⟩, ?_⟩
  rintro other ⟨hother, houtermost⟩
  rcases List.prefix_or_prefix_of_prefix hother hpath with below | below
  · exact houtermost.eq_of_prefix outermost below
  · exact (outermost.eq_of_prefix houtermost below).symm

end Above

/-- The walk of a forest adds the diagnostics of the outermost matches, each once and in the order
of their paths. No outermost match lies inside another, and every match lies in exactly one. -/
theorem reportAll_adds_outermost_in_order (config : InspectionConfig) (roots : List Expr)
    (sink : Array Diagnostic) :
    (∃ found : List (List Nat × Diagnostic),
      (reportAll config roots sink).toList = sink.toList ++ found.map Prod.snd ∧
      (found.map Prod.fst).Pairwise (· < ·) ∧
      ∀ path d, (path, d) ∈ found ↔ FoundAt config (inForest? roots) path d) ∧
    (∀ outer inner, Outermost config (inForest? roots) outer →
      Outermost config (inForest? roots) inner → outer <+: inner → outer = inner) ∧
    ∀ path e, inForest? roots path = some e → Matched config e →
      ∃! above, above <+: path ∧ Outermost config (inForest? roots) above := by
  obtain ⟨found, h⟩ : ∃ found, Findings config (inForest? roots) (reportAll config roots) found :=
    Findings.of_forest fun e _ => Findings.of_tree config e
  refine ⟨⟨found, h.added sink, h.increasing, h.complete⟩, ?_, ?_⟩
  · intro outer inner houter hinner hpath
    exact houter.eq_of_prefix hinner hpath
  · intro path e he matched
    exact existsUnique_outermost_above he matched

end Expr
end NullSafeEquality
