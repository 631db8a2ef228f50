import Mathlib.Data.List.Basic
import NullSafeEquality.Proofs.Outermost
import NullSafeEquality.Proofs.Recognition

/-!
The walk that reports guarded tests only, against the walk that reports bare calls too. Both stop at
the same guarded tests, but only the wider walk stops at a bare call. So the narrower walk finds what
the wider one finds, with what is guarded below a bare call in the place of the call.
-/

namespace NullSafeEquality
namespace Expr

/-- Without bare calls the forms are the guarded ones. -/
theorem form_guardedOnly_iff {e l r : Expr} {p : Polarity} {s : Shape} :
    Form .guardedOnly e l r p s ↔ Form {} e l r p s ∧ s ≠ .unguarded := by
  constructor
  · intro h
    cases h with
    | unguarded reported test => cases reported
    | nullGuarded span test => exact ⟨.nullGuarded span test, by decide⟩
    | negatedNullGuarded span test => exact ⟨.negatedNullGuarded span test, by decide⟩
    | identityGuarded span test shape guarded pair =>
        exact ⟨.identityGuarded span test shape guarded pair, by decide⟩
    | negatedIdentityGuarded span test shape guarded pair =>
        exact ⟨.negatedIdentityGuarded span test shape guarded pair, by decide⟩
    | ternary span test nulls equal left right =>
        exact ⟨.ternary span test nulls equal left right, by decide⟩
  · rintro ⟨h, guarded⟩
    cases h with
    | unguarded reported test => exact (guarded rfl).elim
    | nullGuarded span test => exact .nullGuarded span test
    | negatedNullGuarded span test => exact .negatedNullGuarded span test
    | identityGuarded span test shape inside pair =>
        exact .identityGuarded span test shape inside pair
    | negatedIdentityGuarded span test shape inside pair =>
        exact .negatedIdentityGuarded span test shape inside pair
    | ternary span test nulls equal left right => exact .ternary span test nulls equal left right

theorem form?_eq_some_iff (config : InspectionConfig) (e : Expr) (o : Operands) (p : Polarity)
    (s : Shape) : form? config e = some (o, p, s) ↔ Form config e o.left o.right p s :=
  ⟨form_of_form?, form?_of_form⟩

theorem recognize?_guardedOnly_eq_some_iff (e : Expr) (m : EqualsMatch) :
    recognize? .guardedOnly e = some m ↔ recognize? {} e = some m ∧ m.shape ≠ .unguarded := by
  simp only [recognize?_eq_some_iff_form?, form?_eq_some_iff, form_guardedOnly_iff]
  exact and_right_comm

theorem ownDiagnostic?_guardedOnly_eq_some_iff (e : Expr) (d : Diagnostic) :
    ownDiagnostic? .guardedOnly e = some d ↔
      ownDiagnostic? {} e = some d ∧ d.shape ≠ .unguarded := by
  simp only [ownDiagnostic?_eq_some_iff, recognize?_guardedOnly_eq_some_iff, and_assoc]
  refine and_congr_right fun _ => ?_
  constructor
  · rintro ⟨m, found, guarded, rfl⟩
    exact ⟨⟨m, found, rfl⟩, guarded⟩
  · rintro ⟨⟨m, found, rfl⟩, guarded⟩
    exact ⟨m, found, guarded, rfl⟩

/-- The narrower walk drops the findings without a guard. -/
theorem ownDiagnostic?_guardedOnly (e : Expr) :
    ownDiagnostic? .guardedOnly e = (ownDiagnostic? {} e).filter (·.shape ≠ .unguarded) := by
  ext d
  rw [ownDiagnostic?_guardedOnly_eq_some_iff, Option.filter_eq_some_iff, decide_eq_true_iff]

/-- What a walk of the expression finds. -/
def findings (config : InspectionConfig) (e : Expr) : List Diagnostic :=
  (report config e #[]).toList

section Walk

variable (config : InspectionConfig)

theorem toList_report_eq_append (e : Expr) (sink : Array Diagnostic) :
    (report config e sink).toList = sink.toList ++ findings config e := by
  obtain ⟨found, h⟩ := Findings.of_tree config e
  rw [findings, h.added, h.added, List.nil_append]

theorem toList_reportAll_eq_append (es : List Expr) (sink : Array Diagnostic) :
    (reportAll config es sink).toList = sink.toList ++ es.flatMap (findings config) := by
  induction es generalizing sink with
  | nil => rw [reportAll, List.flatMap_nil, List.append_nil]
  | cons e rest ih =>
      rw [reportAll, ih, toList_report_eq_append, List.flatMap_cons, List.append_assoc]

end Walk

/-- What the narrower walk finds where the wider one has a finding: the finding itself, or what is
below it if it is a bare call. -/
def inPlaceOf (node? : List Nat → Option Expr) (path : List Nat) (d : Diagnostic) :
    List Diagnostic :=
  if d.shape = .unguarded then ((node? path).elim [] children).flatMap (findings .guardedOnly)
  else [d]

/-- All findings of the wider walk, and each of them replaced in the narrower one. -/
structure Narrowed (node? : List Nat → Option Expr) (wide narrow : Array Diagnostic → Array Diagnostic)
    (found : List (List Nat × Diagnostic)) : Prop extends Findings {} node? wide found where
  replaced : ∀ sink, (narrow sink).toList =
    sink.toList ++ found.flatMap fun f => inPlaceOf node? f.1 f.2

namespace Narrowed

variable {e : Expr} {rest : List Expr}

theorem of_matched {d : Diagnostic} (h : ownDiagnostic? {} e = some d) :
    Narrowed e.at? (report {} e) (report .guardedOnly e) [([], d)] where
  toFindings := Findings.of_matched h
  replaced sink := by
    rw [List.flatMap_singleton]
    by_cases bare : d.shape = .unguarded
    · have skipped : ownDiagnostic? .guardedOnly e = none := by
        rw [ownDiagnostic?_guardedOnly, h, Option.filter_some, if_neg (by simp [bare])]
      rw [inPlaceOf, if_pos bare, report_of_none skipped, toList_reportAll_eq_append]
      rfl
    · have kept : ownDiagnostic? .guardedOnly e = some d :=
        (ownDiagnostic?_guardedOnly_eq_some_iff e d).mpr ⟨h, bare⟩
      rw [inPlaceOf, if_neg bare, report_of_some kept, Array.toList_push]

theorem of_children {found : List (List Nat × Diagnostic)} (h : ownDiagnostic? {} e = none)
    (below : Narrowed (inForest? e.children) (reportAll {} e.children)
      (reportAll .guardedOnly e.children) found) :
    Narrowed e.at? (report {} e) (report .guardedOnly e) found where
  toFindings := Findings.of_children h below.toFindings
  replaced sink := by
    have skipped : ownDiagnostic? .guardedOnly e = none := by
      rw [ownDiagnostic?_guardedOnly, h, Option.filter_none]
    rw [report_of_none skipped, below.replaced]
    congr 1
    refine List.flatMap_congr fun f mem => ?_
    obtain ⟨path, d⟩ := f
    cases path with
    | nil => exact (below.ne_nil mem rfl).elim
    | cons i path => rfl

theorem nil : Narrowed (inForest? []) (reportAll {} []) (reportAll .guardedOnly []) [] where
  toFindings := Findings.nil
  replaced sink := by simp [reportAll]

theorem cons {here there : List (List Nat × Diagnostic)}
    (first : Narrowed e.at? (report {} e) (report .guardedOnly e) here)
    (others : Narrowed (inForest? rest) (reportAll {} rest) (reportAll .guardedOnly rest) there) :
    Narrowed (inForest? (e :: rest)) (reportAll {} (e :: rest)) (reportAll .guardedOnly (e :: rest))
      (here.map (Prod.map (0 :: ·) id) ++ there.map (Prod.map nextRoot id)) where
  toFindings := first.toFindings.cons others.toFindings
  replaced sink := by
    rw [reportAll, others.replaced, first.replaced, List.flatMap_append, List.flatMap_map,
      List.flatMap_map, List.append_assoc]
    congr 2
    refine List.flatMap_congr fun f mem => ?_
    obtain ⟨path, d⟩ := f
    cases path with
    | nil => exact (others.ne_nil mem rfl).elim
    | cons i path => rfl

theorem of_forest {es : List Expr}
    (each : ∀ e ∈ es, ∃ found, Narrowed e.at? (report {} e) (report .guardedOnly e) found) :
    ∃ found, Narrowed (inForest? es) (reportAll {} es) (reportAll .guardedOnly es) found := by
  induction es with
  | nil => exact ⟨[], nil⟩
  | cons e rest ih =>
      obtain ⟨here, first⟩ := each e List.mem_cons_self
      obtain ⟨there, others⟩ := ih fun x hx => each x (List.mem_cons_of_mem e hx)
      exact ⟨_, first.cons others⟩

theorem of_tree (e : Expr) :
    ∃ found, Narrowed e.at? (report {} e) (report .guardedOnly e) found := by
  induction e using childrenInduction with
  | node e ih =>
      cases h : ownDiagnostic? {} e with
      | some d => exact ⟨_, of_matched h⟩
      | none =>
          obtain ⟨found, below⟩ := of_forest ih
          exact ⟨found, of_children h below⟩

end Narrowed

section Places

variable {node? : List Nat → Option Expr} {path : List Nat} {d : Diagnostic}

theorem shape_of_foundAt_guardedOnly (h : FoundAt .guardedOnly node? path d) :
    d.shape ≠ .unguarded := by
  obtain ⟨-, e, m, -, found, rfl⟩ := h
  exact ((recognize?_guardedOnly_eq_some_iff e m).mp found).2

/-- A finding without a guard stands at a call of the equality method. -/
theorem exists_call_of_unguarded (h : FoundAt {} node? path d) (bare : d.shape = .unguarded) :
    ∃ receiver typeArgs argument span,
      node? path = some (call (some receiver) typeArgs "equals" [argument] span) := by
  obtain ⟨⟨⟨e, he, noParen, -⟩, -⟩, x, m, hx, found, rfl⟩ := h
  cases he.symm.trans hx
  obtain ⟨l, r, p, s, span⟩ := m
  replace bare : s = .unguarded := bare
  subst bare
  have form := form_of_recognize? found
  rw [stripParens_of_isParen_eq_false noParen] at form
  cases form with
  | unguarded reported test =>
      cases test with
      | call _ _ _ _ => exact ⟨_, _, _, _, he⟩

/-- The narrower walk finds at a place what the wider one finds there, or the wider one has stopped at
a bare call above. -/
theorem foundAt_or_below_call (h : FoundAt .guardedOnly node? path d) :
    FoundAt {} node? path d ∨
      ∃ above c, FoundAt {} node? above c ∧ c.shape = .unguarded ∧ above <+: path ∧
        above ≠ path := by
  obtain ⟨⟨⟨e, he, noParen, -⟩, first⟩, x, m, hx, found, rfl⟩ := h
  cases he.symm.trans hx
  have found := ((recognize?_guardedOnly_eq_some_iff e m).mp found).1
  have matched : Matched {} e := ⟨noParen, Option.isSome_iff_exists.mpr ⟨m, found⟩⟩
  obtain ⟨above, hpath, outermost⟩ := exists_outermost_above he matched
  by_cases same : above = path
  · subst same
    exact .inl ⟨outermost, e, m, he, found, rfl⟩
  · obtain ⟨y, hy, noParen', matched'⟩ := outermost.1
    obtain ⟨n, found'⟩ := Option.isSome_iff_exists.mp matched'
    refine .inr ⟨above, Diagnostic.ofMatch y n, ⟨outermost, y, n, hy, found', rfl⟩, ?_, hpath, same⟩
    refine Decidable.byContradiction fun guarded => first above hpath same y hy ⟨noParen', ?_⟩
    exact Option.isSome_iff_exists.mpr
      ⟨n, (recognize?_guardedOnly_eq_some_iff y n).mpr ⟨found', guarded⟩⟩

/-- Findings with a guard are never replaced. -/
theorem guarded_sublist_replaced (node? : List Nat → Option Expr)
    (found : List (List Nat × Diagnostic)) :
    ((found.map Prod.snd).filter (·.shape ≠ .unguarded)).Sublist
      (found.flatMap fun f => inPlaceOf node? f.1 f.2) := by
  induction found with
  | nil => exact List.Sublist.refl []
  | cons f rest ih =>
      rw [List.map_cons, List.flatMap_cons]
      by_cases bare : f.2.shape = .unguarded
      · rw [List.filter_cons_of_neg (by simp [bare])]
        exact ih.trans (List.sublist_append_right _ _)
      · rw [List.filter_cons_of_pos (by simp [bare]), inPlaceOf, if_neg bare]
        exact ih.cons_cons f.2

end Places

/-- Both walks of an expression with their findings in order. The narrower walk finds what the wider
one does, in the place of each bare call what it finds in the receiver and then in the argument. So
it has all guarded findings in their order and no other kind, and whatever it finds besides stands
properly below a bare call. -/
theorem guardedOnly_replaces_bare_calls (e : Expr) :
    ∃ wide narrow : List (List Nat × Diagnostic),
      Findings {} e.at? (report {} e) wide ∧
      Findings .guardedOnly e.at? (report .guardedOnly e) narrow ∧
      narrow.map Prod.snd = wide.flatMap (fun f => inPlaceOf e.at? f.1 f.2) ∧
      (∀ f ∈ wide, f.2.shape = .unguarded → ∃ receiver typeArgs argument span,
        e.at? f.1 = some (call (some receiver) typeArgs "equals" [argument] span)) ∧
      ((wide.map Prod.snd).filter (·.shape ≠ .unguarded)).Sublist (narrow.map Prod.snd) ∧
      (∀ f ∈ narrow, f.2.shape ≠ .unguarded) ∧
      ∀ f ∈ narrow, f ∈ wide ∨
        ∃ g ∈ wide, g.2.shape = .unguarded ∧ g.1 <+: f.1 ∧ g.1 ≠ f.1 := by
  obtain ⟨wide, narrowed⟩ := Narrowed.of_tree e
  obtain ⟨narrow, found⟩ := Findings.of_tree .guardedOnly e
  have replaced : narrow.map Prod.snd = wide.flatMap (fun f => inPlaceOf e.at? f.1 f.2) :=
    List.append_cancel_left ((found.added #[]).symm.trans (narrowed.replaced #[]))
  refine ⟨wide, narrow, narrowed.toFindings, found, replaced, ?_, ?_, ?_, ?_⟩
  · intro f mem
    exact exists_call_of_unguarded ((narrowed.complete f.1 f.2).mp mem)
  · rw [replaced]
    exact guarded_sublist_replaced e.at? wide
  · intro f mem
    exact shape_of_foundAt_guardedOnly ((found.complete f.1 f.2).mp mem)
  · intro f mem
    rcases foundAt_or_below_call ((found.complete f.1 f.2).mp mem) with here | ⟨path, d, above⟩
    · exact .inl ((narrowed.complete f.1 f.2).mpr here)
    · exact .inr ⟨(path, d), (narrowed.complete path d).mpr above.1, above.2⟩

end Expr
end NullSafeEquality
