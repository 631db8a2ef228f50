import NullSafeEquality.Fixture.Outcome
import Mathlib.Data.List.Perm.Subperm

/-!
What a comparison of expected with produced warnings accounts for. Every expectation is met or
missing and every finding is taken or unexpected. Where no two findings have one range, an
expectation fits at most one of them, so to take the first that fits loses nothing: no other way to
pair expectations with findings meets more of them.
-/

namespace NullSafeEquality

namespace ExpectedWarning

/-- The finding has the range of the expectation and its message, if it gives one. -/
def Fits (w : ExpectedWarning) (d : Diagnostic) : Prop :=
  d.span.startByte = w.start ∧ d.span.endByte = w.stop ∧
    (w.descr = none ∨ w.descr = some d.message)

theorem accepts_iff (w : ExpectedWarning) (d : Diagnostic) : w.accepts d = true ↔ w.Fits d := by
  cases h : w.descr <;> simp [accepts, Fits, h, and_assoc]

end ExpectedWarning

/-- No two findings have one range. -/
def DistinctRanges (ds : List Diagnostic) : Prop :=
  ds.Pairwise fun c d => ¬ (c.span.startByte = d.span.startByte ∧ c.span.endByte = d.span.endByte)

instance (ds : List Diagnostic) : Decidable (DistinctRanges ds) :=
  inferInstanceAs (Decidable (List.Pairwise _ ds))

namespace Fixture

/-- Expectations beside findings that fit them. No expectation and no finding is used more often
than it is there. -/
structure Pairing (ws : List ExpectedWarning) (ds : List Diagnostic) where
  pairs : List (ExpectedWarning × Diagnostic)
  expectations : (pairs.map Prod.fst).Subperm ws
  findings : (pairs.map Prod.snd).Subperm ds
  fits : ∀ p ∈ pairs, p.1.Fits p.2

variable {ws : List ExpectedWarning} {ds : List Diagnostic}

namespace Pairing

/-- The number of expectations that are met. -/
def size (p : Pairing ws ds) : Nat := p.pairs.length

/-- These expectations are left without a finding, and these findings without an expectation. -/
structure Leaves (p : Pairing ws ds) (missing : List ExpectedWarning)
    (unexpected : List Diagnostic) : Prop where
  missing : (p.pairs.map Prod.fst ++ missing).Perm ws
  unexpected : (p.pairs.map Prod.snd ++ unexpected).Perm ds

theorem Leaves.size_add_missing {p : Pairing ws ds} {missing : List ExpectedWarning}
    {unexpected : List Diagnostic} (h : p.Leaves missing unexpected) :
    p.size + missing.length = ws.length := by
  rw [← h.missing.length_eq, List.length_append, List.length_map, size]

theorem Leaves.size_add_unexpected {p : Pairing ws ds} {missing : List ExpectedWarning}
    {unexpected : List Diagnostic} (h : p.Leaves missing unexpected) :
    p.size + unexpected.length = ds.length := by
  rw [← h.unexpected.length_eq, List.length_append, List.length_map, size]

/-- Nothing is paired. -/
def empty (ws : List ExpectedWarning) (ds : List Diagnostic) : Pairing ws ds where
  pairs := []
  expectations := List.nil_subperm
  findings := List.nil_subperm
  fits := fun _ h => absurd h List.not_mem_nil

/-- One more expectation is there, and is not met. -/
def skip (p : Pairing ws ds) (w : ExpectedWarning) : Pairing (w :: ws) ds where
  pairs := p.pairs
  expectations := p.expectations.cons_right w
  findings := p.findings
  fits := p.fits

/-- One more expectation is there, and takes a finding. -/
def take {w : ExpectedWarning} {d : Diagnostic} {front back : List Diagnostic}
    (p : Pairing ws (front ++ back)) (fit : w.Fits d) : Pairing (w :: ws) (front ++ d :: back) where
  pairs := (w, d) :: p.pairs
  expectations := (List.subperm_cons w).mpr p.expectations
  findings := ((List.subperm_cons d).mpr p.findings).trans List.perm_middle.symm.subperm
  fits := List.forall_mem_cons.mpr ⟨fit, p.fits⟩

/-- The order of the expectations does not matter. -/
def reorder {vs : List ExpectedWarning} (p : Pairing ws ds) (h : ws.Perm vs) : Pairing vs ds where
  pairs := p.pairs
  expectations := p.expectations.trans h.subperm
  findings := p.findings
  fits := p.fits

end Pairing

/-- The outcome is the one of a pairing. -/
structure Settled (ws : List ExpectedWarning) (ds : List Diagnostic) (o : FixtureOutcome)
    (p : Pairing ws ds) : Prop where
  leaves : p.Leaves o.missing o.unexpected
  size : p.size = o.matched
  missing : o.missing.Sublist ws
  unexpected : o.unexpected.Sublist ds

variable {w : ExpectedWarning} {o : FixtureOutcome}

theorem settled_empty (ds : List Diagnostic) :
    Settled [] ds { unexpected := ds } (Pairing.empty [] ds) where
  leaves := ⟨List.Perm.refl [], List.Perm.refl ds⟩
  size := rfl
  missing := List.Sublist.refl []
  unexpected := List.Sublist.refl ds

theorem Settled.skip {p : Pairing ws ds} (h : Settled ws ds o p) (w : ExpectedWarning) :
    Settled (w :: ws) ds { o with missing := w :: o.missing } (p.skip w) where
  leaves :=
    { missing := List.perm_middle.trans (h.leaves.missing.cons w)
      unexpected := h.leaves.unexpected }
  size := h.size
  missing := h.missing.cons_cons w
  unexpected := h.unexpected

theorem Settled.take {d : Diagnostic} {front back : List Diagnostic}
    {p : Pairing ws (front ++ back)} (h : Settled ws (front ++ back) o p) (fit : w.Fits d) :
    Settled (w :: ws) (front ++ d :: back) { o with matched := o.matched + 1 } (p.take fit) where
  leaves :=
    { missing := h.leaves.missing.cons w
      unexpected := (h.leaves.unexpected.cons d).trans List.perm_middle.symm }
  size := congrArg (· + 1) h.size
  missing := h.missing.cons w
  unexpected := h.unexpected.trans
    ((List.Sublist.refl front).append (List.sublist_cons_self d back))

/-- An expectation takes a finding that fits it out of those left, or none of those left fits. -/
theorem compareAll_cases (w : ExpectedWarning) (ws : List ExpectedWarning) (ds : List Diagnostic) :
    (∃ front d back, ds = front ++ d :: back ∧ w.Fits d ∧
      compareAll (w :: ws) ds =
        { compareAll ws (front ++ back) with
          matched := (compareAll ws (front ++ back)).matched + 1 }) ∨
    ((∀ d ∈ ds, ¬ w.Fits d) ∧
      compareAll (w :: ws) ds =
        { compareAll ws ds with missing := w :: (compareAll ws ds).missing }) := by
  cases found : ds.any w.accepts with
  | true =>
      obtain ⟨c, mem, accepted⟩ := List.any_eq_true.mp found
      obtain ⟨d, front, back, -, fit, rfl, rest⟩ := List.exists_of_eraseP mem accepted
      refine Or.inl ⟨front, d, back, rfl, (w.accepts_iff d).mp fit, ?_⟩
      rw [compareAll, if_pos found, rest]
  | false =>
      refine Or.inr ⟨fun d mem fit => ?_, ?_⟩
      · exact List.any_eq_false.mp found d mem ((w.accepts_iff d).mpr fit)
      · rw [compareAll, if_neg (by rw [found]; exact Bool.false_ne_true)]

/-- A comparison is the outcome of a pairing. -/
theorem exists_settled (ws : List ExpectedWarning) (ds : List Diagnostic) :
    ∃ p, Settled ws ds (compareAll ws ds) p := by
  induction ws generalizing ds with
  | nil => exact ⟨Pairing.empty [] ds, settled_empty ds⟩
  | cons w ws ih =>
      obtain ⟨front, d, back, rfl, fit, outcome⟩ | ⟨-, outcome⟩ := compareAll_cases w ws ds
      · obtain ⟨p, settled⟩ := ih (front ++ back)
        exact ⟨p.take fit, outcome ▸ settled.take fit⟩
      · obtain ⟨p, settled⟩ := ih ds
        exact ⟨p.skip w, outcome ▸ settled.skip w⟩

/-- Besides the finding that an expectation has taken none fits it. -/
theorem not_fits_of_taken {c d : Diagnostic} {front back : List Diagnostic}
    (distinct : DistinctRanges (front ++ d :: back)) (fit : w.Fits d) (mem : c ∈ front ++ back) :
    ¬ w.Fits c := by
  have apart := (List.pairwise_middle fun h => mt (fun ⟨s, t⟩ => ⟨s.symm, t.symm⟩) h).mp distinct
  intro other
  exact (List.pairwise_cons.mp apart).1 c mem
    ⟨fit.1.trans other.1.symm, fit.2.1.trans other.2.1.symm⟩

/-- A finding that is left over fits none of the expectations. -/
theorem not_fits_of_unexpected (distinct : DistinctRanges ds) {d : Diagnostic}
    (left : d ∈ (compareAll ws ds).unexpected) (hw : w ∈ ws) : ¬ w.Fits d := by
  induction ws generalizing ds with
  | nil => exact absurd hw List.not_mem_nil
  | cons v ws ih =>
      obtain ⟨front, c, back, rfl, fit, outcome⟩ | ⟨none, outcome⟩ := compareAll_cases v ws ds
      · rw [outcome] at left
        have fewer : (front ++ back).Sublist (front ++ c :: back) :=
          (List.Sublist.refl front).append (List.sublist_cons_self c back)
        obtain ⟨p, settled⟩ := exists_settled ws (front ++ back)
        cases hw with
        | head => exact not_fits_of_taken distinct fit (settled.unexpected.subset left)
        | tail _ hw => exact ih (List.Pairwise.sublist fewer distinct) left hw
      · rw [outcome] at left
        obtain ⟨p, settled⟩ := exists_settled ws ds
        cases hw with
        | head => exact none d (settled.unexpected.subset left)
        | tail _ hw => exact ih distinct left hw

open Classical in
/-- No pairing meets more expectations: it uses only findings that fit some expectation, and the
comparison has taken all of these. -/
theorem Pairing.size_le_matched (distinct : DistinctRanges ds) (p : Pairing ws ds) :
    p.size ≤ (compareAll ws ds).matched := by
  obtain ⟨best, settled⟩ := exists_settled ws ds
  let fitting : Diagnostic → Bool := fun d => decide (∃ w ∈ ws, w.Fits d)
  have used : ∀ d ∈ p.pairs.map Prod.snd, fitting d = true := by
    intro d mem
    obtain ⟨pair, hpair, rfl⟩ := List.mem_map.mp mem
    have expected := p.expectations.subset (List.mem_map_of_mem hpair)
    exact decide_eq_true ⟨pair.1, expected, p.fits pair hpair⟩
  have leftOver : (compareAll ws ds).unexpected.countP fitting = 0 := by
    refine List.countP_eq_zero.mpr fun d left fits => ?_
    obtain ⟨w, hw, fit⟩ := of_decide_eq_true fits
    exact not_fits_of_unexpected distinct left hw fit
  calc p.size = (p.pairs.map Prod.snd).countP fitting := by
        rw [List.countP_eq_length.mpr used, List.length_map, Pairing.size]
    _ ≤ ds.countP fitting := p.findings.countP_le fitting
    _ = (best.pairs.map Prod.snd).countP fitting := by
        rw [← settled.leaves.unexpected.countP_eq, List.countP_append, leftOver, Nat.add_zero]
    _ ≤ (best.pairs.map Prod.snd).length := List.countP_le_length
    _ = (compareAll ws ds).matched := by rw [List.length_map, ← settled.size, Pairing.size]

theorem passed_iff (o : FixtureOutcome) :
    o.passed = true ↔ o.missing = [] ∧ o.unexpected = [] := by
  rw [FixtureOutcome.passed, Bool.and_eq_true, List.isEmpty_iff, List.isEmpty_iff]

theorem passed_of_leaves_nothing (distinct : DistinctRanges ds) {p : Pairing ws ds}
    (h : p.Leaves [] []) : (compareAll ws ds).passed = true := by
  obtain ⟨best, settled⟩ := exists_settled ws ds
  have most : p.size ≤ best.size := settled.size ▸ p.size_le_matched distinct
  have missing := settled.leaves.size_add_missing
  have unexpected := settled.leaves.size_add_unexpected
  have all := h.size_add_missing
  have allFindings := h.size_add_unexpected
  rw [List.length_nil, Nat.add_zero] at all allFindings
  refine (passed_iff _).mpr ⟨List.length_eq_zero_iff.mp ?_, List.length_eq_zero_iff.mp ?_⟩
  · omega
  · omega

theorem passed_iff_leaves_nothing (distinct : DistinctRanges ds) :
    (compareAll ws ds).passed = true ↔ ∃ p : Pairing ws ds, p.Leaves [] [] := by
  refine ⟨fun passed => ?_, fun ⟨_, covering⟩ => passed_of_leaves_nothing distinct covering⟩
  obtain ⟨missing, unexpected⟩ := (passed_iff _).mp passed
  obtain ⟨best, settled⟩ := exists_settled ws ds
  exact ⟨best, missing ▸ unexpected ▸ settled.leaves⟩

theorem Pairing.leaves_reorder {vs : List ExpectedWarning} {p : Pairing ws ds} (h : ws.Perm vs)
    (covering : p.Leaves [] []) : (p.reorder h).Leaves [] [] :=
  ⟨covering.missing.trans h, covering.unexpected⟩

/-- As many expectations are met in any other order of them. -/
theorem matched_le_of_perm {vs : List ExpectedWarning} (distinct : DistinctRanges ds)
    (h : vs.Perm ws) : (compareAll vs ds).matched ≤ (compareAll ws ds).matched := by
  obtain ⟨p, settled⟩ := exists_settled vs ds
  exact settled.size ▸ (p.reorder h).size_le_matched distinct

theorem passed_iff_of_perm {vs : List ExpectedWarning} (distinct : DistinctRanges ds)
    (h : vs.Perm ws) :
    (compareAll vs ds).passed = true ↔ (compareAll ws ds).passed = true := by
  rw [passed_iff_leaves_nothing distinct, passed_iff_leaves_nothing distinct]
  exact ⟨fun ⟨_, covering⟩ => ⟨_, Pairing.leaves_reorder h covering⟩,
    fun ⟨_, covering⟩ => ⟨_, Pairing.leaves_reorder h.symm covering⟩⟩

/-- A comparison accounts for every expectation and every finding: it pairs those that are met with
those that are taken, and the others are missing or unexpected, each list in its order. Where no two
findings have one range no pairing meets more, the comparison passes if some pairing leaves nothing,
and the order of the expectations does not matter. -/
theorem compare_pairs_most (f : Fixture) (ds : List Diagnostic) :
    (f.compare ds).matched + (f.compare ds).missing.length = f.expected.length ∧
    (f.compare ds).matched + (f.compare ds).unexpected.length = ds.length ∧
    (f.compare ds).missing.Sublist f.expected ∧ (f.compare ds).unexpected.Sublist ds ∧
    (∃ p : Pairing f.expected ds, p.size = (f.compare ds).matched ∧
      p.Leaves (f.compare ds).missing (f.compare ds).unexpected) ∧
    (DistinctRanges ds →
      (∀ p : Pairing f.expected ds, p.size ≤ (f.compare ds).matched) ∧
      ((f.compare ds).passed = true ↔ ∃ p : Pairing f.expected ds, p.Leaves [] []) ∧
      ∀ g : Fixture, g.expected.Perm f.expected →
        (g.compare ds).matched = (f.compare ds).matched ∧
        ((g.compare ds).passed = true ↔ (f.compare ds).passed = true)) := by
  obtain ⟨p, settled⟩ := exists_settled f.expected ds
  have met : p.size = (f.compare ds).matched := settled.size
  refine ⟨?_, ?_, settled.missing, settled.unexpected, ⟨p, met, settled.leaves⟩,
    fun distinct => ⟨fun q => q.size_le_matched distinct, passed_iff_leaves_nothing distinct,
      fun g same => ⟨?_, passed_iff_of_perm distinct same⟩⟩⟩
  · rw [← met]
    exact settled.leaves.size_add_missing
  · rw [← met]
    exact settled.leaves.size_add_unexpected
  · exact Nat.le_antisymm (matched_le_of_perm distinct same)
      (matched_le_of_perm distinct same.symm)

/-- A finding of a message in a range. -/
def findingAt (start stop : Nat) (message : String) : Diagnostic :=
  { span := { startByte := start, endByte := stop }
    message, replacement := "", polarity := .equals, shape := .unguarded }

/-- A range is expected twice, first with any message. -/
def twiceExpected : Fixture where
  source := "a b"
  expected := [⟨0, 1, 1, none⟩, ⟨0, 1, 1, some "m"⟩, ⟨2, 3, 1, some "n"⟩]

theorem twiceExpected_pairs_two :
    DistinctRanges [findingAt 0 1 "m", findingAt 2 3 "n"] ∧
    (twiceExpected.compare [findingAt 0 1 "m", findingAt 2 3 "n"]).matched = 2 ∧
    ∀ p : Pairing twiceExpected.expected [findingAt 0 1 "m", findingAt 2 3 "n"], p.size ≤ 2 := by
  have distinct : DistinctRanges [findingAt 0 1 "m", findingAt 2 3 "n"] := by decide
  have two : (twiceExpected.compare [findingAt 0 1 "m", findingAt 2 3 "n"]).matched = 2 := by decide
  obtain ⟨-, -, -, -, -, most⟩ :=
    compare_pairs_most twiceExpected [findingAt 0 1 "m", findingAt 2 3 "n"]
  exact ⟨distinct, two, fun p => le_of_le_of_eq ((most distinct).1 p) two⟩

-- With two findings in one range the order of the expectations decides how many are met.
example : (compareAll [⟨0, 1, 1, none⟩, ⟨0, 1, 1, some "m"⟩]
      [findingAt 0 1 "m", findingAt 0 1 "n"]).matched = 1 ∧
    (compareAll [⟨0, 1, 1, some "m"⟩, ⟨0, 1, 1, none⟩]
      [findingAt 0 1 "m", findingAt 0 1 "n"]).matched = 2 := by
  decide

end Fixture
end NullSafeEquality
