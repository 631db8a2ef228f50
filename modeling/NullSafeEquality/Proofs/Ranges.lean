import NullSafeEquality.Fixture.Markup
import NullSafeEquality.Proofs.Bytes

/-!
Ranges of expectations. A fixture holds its expectations by their ranges, and those of one range in
the order in which they were found.
-/

namespace NullSafeEquality

namespace ExpectedWarning

/-- The range begins earlier, or at the same place and ends no later. -/
def RangeLE (v w : ExpectedWarning) : Prop :=
  v.start < w.start ∨ v.start = w.start ∧ v.stop ≤ w.stop

/-- One range lies in the other, or the one ends before the other begins. -/
def NestedOrApart (v w : ExpectedWarning) : Prop :=
  (w.start ≤ v.start ∧ v.stop ≤ w.stop) ∨ (v.start ≤ w.start ∧ w.stop ≤ v.stop) ∨
    v.stop ≤ w.start ∨ w.stop ≤ v.start

theorem NestedOrApart.symm {v w : ExpectedWarning} (h : v.NestedOrApart w) : w.NestedOrApart v := by
  simp only [NestedOrApart] at h ⊢
  omega

end ExpectedWarning

namespace Fixture

/-- The second list holds the warnings of the first by their ranges, those of one range in the same
order. -/
structure SortedByRange (ws sorted : List ExpectedWarning) : Prop where
  perm : sorted.Perm ws
  increasing : sorted.Pairwise ExpectedWarning.RangeLE
  stable : ∀ start stop, sorted.filter (fun w => w.start = start ∧ w.stop = stop) =
    ws.filter fun w => w.start = start ∧ w.stop = stop

theorem notAfter_iff (v w : ExpectedWarning) : notAfter v w = true ↔ v.RangeLE w := by
  simp [notAfter, ExpectedWarning.RangeLE]

theorem notAfter_trans (u v w : ExpectedWarning) (huv : notAfter u v = true)
    (hvw : notAfter v w = true) : notAfter u w = true := by
  simp only [notAfter_iff, ExpectedWarning.RangeLE] at huv hvw ⊢
  omega

theorem notAfter_total (v w : ExpectedWarning) : (notAfter v w || notAfter w v) = true := by
  simp only [Bool.or_eq_true, notAfter_iff, ExpectedWarning.RangeLE]
  omega

theorem sortedByRange_mergeSort (ws : List ExpectedWarning) :
    SortedByRange ws (ws.mergeSort notAfter) where
  perm := List.mergeSort_perm ws notAfter
  increasing := (List.pairwise_mergeSort notAfter_trans notAfter_total ws).imp
    fun h => (notAfter_iff _ _).mp h
  stable start stop := by
    have perm := (List.mergeSort_perm ws notAfter).filter fun w => w.start = start ∧ w.stop = stop
    -- Warnings of one range are in order already, so sorting keeps them as a sublist.
    have tied : (ws.filter fun w => w.start = start ∧ w.stop = stop).Pairwise
        fun v w => notAfter v w = true := by
      refine List.pairwise_of_forall_mem_list fun v hv w hw => ?_
      simp only [List.mem_filter, decide_eq_true_eq] at hv hw
      simp only [notAfter_iff, ExpectedWarning.RangeLE]
      omega
    have kept := (List.sublist_mergeSort notAfter_trans notAfter_total tied
      List.filter_sublist).filter fun w => w.start = start ∧ w.stop = stop
    rw [List.filter_filter] at kept
    simp only [Bool.and_self] at kept
    exact (kept.eq_of_length perm.length_eq.symm).symm

end Fixture
end NullSafeEquality
