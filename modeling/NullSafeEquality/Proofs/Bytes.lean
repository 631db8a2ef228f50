import NullSafeEquality.Text.Bytes
import NullSafeEquality.Text.Source

/-!
Byte positions between characters. A text is cut at a position exactly if so many bytes encode some
first characters of it, and the places of a source text are such positions.
-/

namespace NullSafeEquality

namespace Text

@[simp] theorem byteLength_nil : byteLength [] = 0 := rfl

@[simp] theorem byteLength_cons (c : Char) (cs : List Char) :
    byteLength (c :: cs) = c.utf8Size + byteLength cs := rfl

@[simp] theorem byteLength_append (front rest : List Char) :
    byteLength (front ++ rest) = byteLength front + byteLength rest := by
  induction front with
  | nil => exact (Nat.zero_add _).symm
  | cons c front ih => rw [List.cons_append, byteLength_cons, byteLength_cons, ih, Nat.add_assoc]

/-- To cut behind some first characters is to cut what follows them. -/
theorem splitAtByte_append (front rest : List Char) (n : Nat) :
    splitAtByte (byteLength front + n) (front ++ rest) =
      (splitAtByte n rest).map fun (inside, behind) => (front ++ inside, behind) := by
  induction front with
  | nil =>
      rw [byteLength_nil, Nat.zero_add, List.nil_append]
      exact Option.map_id'.symm
  | cons c front ih =>
      -- A character has some bytes, so the position is not zero.
      have positive : 0 < c.utf8Size := c.utf8Size_pos
      obtain ⟨m, count⟩ : ∃ m, byteLength (c :: front) + n = m + 1 :=
        Nat.exists_eq_succ_of_ne_zero (by rw [byteLength_cons]; omega)
      have bound : c.utf8Size ≤ m + 1 := by rw [← count, byteLength_cons]; omega
      have left : m + 1 - c.utf8Size = byteLength front + n := by
        rw [← count, byteLength_cons]; omega
      rw [count, List.cons_append, splitAtByte, if_pos bound, left, ih, Option.map_map]
      rfl

theorem splitAtByte_eq_some_iff {n : Nat} {cs front rest : List Char} :
    splitAtByte n cs = some (front, rest) ↔ cs = front ++ rest ∧ n = byteLength front := by
  constructor
  · intro cut
    fun_induction splitAtByte n cs generalizing front rest with
    | case1 cs =>
        cases cut
        exact ⟨rfl, rfl⟩
    | case2 => cases cut
    | case3 n c cs bound ih =>
        obtain ⟨⟨later, behind⟩, deeper, same⟩ := Option.map_eq_some_iff.mp cut
        cases same
        obtain ⟨rfl, count⟩ := ih deeper
        refine ⟨rfl, ?_⟩
        rw [byteLength_cons]
        omega
    | case4 => cases cut
  · rintro ⟨rfl, rfl⟩
    have whole : splitAtByte 0 rest = some ([], rest) := by cases rest <;> rfl
    have cut := splitAtByte_append front rest 0
    rw [Nat.add_zero, whole] at cut
    rw [cut, Option.map_some]
    simp only [List.append_nil]

theorem splitAtByte_byteLength (front rest : List Char) :
    splitAtByte (byteLength front) (front ++ rest) = some (front, rest) :=
  splitAtByte_eq_some_iff.mpr ⟨rfl, rfl⟩

theorem slice?_append (front part rest : List Char) :
    slice? (String.ofList (front ++ (part ++ rest))) (byteLength front) (byteLength (front ++ part)) =
      some (String.ofList part) := by
  have width : byteLength (front ++ part) - byteLength front = byteLength part := by
    rw [byteLength_append, Nat.add_sub_cancel_left]
  have order : byteLength front ≤ byteLength (front ++ part) := by
    rw [byteLength_append]
    exact Nat.le_add_right _ _
  simp only [slice?, if_pos order, String.toList_ofList, width, splitAtByte_byteLength,
    Option.bind_eq_bind, Option.bind_some, Option.pure_def]

/-- Does the position lie between two characters of the text, or at an end of it? -/
def Boundary (cs : List Char) (n : Nat) : Prop := (splitAtByte n cs).isSome

instance (cs : List Char) : DecidablePred (Boundary cs) := fun n =>
  inferInstanceAs (Decidable ((splitAtByte n cs).isSome = true))

theorem boundary_byteLength (front rest : List Char) :
    Boundary (front ++ rest) (byteLength front) :=
  Option.isSome_iff_exists.mpr ⟨_, splitAtByte_byteLength front rest⟩

/-- A position behind some first characters cuts what follows them. -/
theorem exists_split_behind {front rest : List Char} {n : Nat} (h : Boundary (front ++ rest) n)
    (behind : byteLength front ≤ n) :
    ∃ part later, rest = part ++ later ∧ n = byteLength (front ++ part) := by
  obtain ⟨k, rfl⟩ := Nat.exists_eq_add_of_le behind
  rw [Boundary, splitAtByte_append, Option.isSome_map] at h
  obtain ⟨⟨part, later⟩, cut⟩ := Option.isSome_iff_exists.mp h
  obtain ⟨same, rfl⟩ := splitAtByte_eq_some_iff.mp cut
  exact ⟨part, later, same, (byteLength_append front part).symm⟩

end Text

namespace Source

/-- The bytes before each place of the source are those of its first characters. -/
structure Places (s : Source) (cs : List Char) : Prop where
  size : s.bytes.size = cs.length + 1
  bytes : ∀ i ≤ cs.length, s.bytes[i]? = some (Text.byteLength (cs.take i))

theorem places_step {s : Source} {cs : List Char} (h : Places s cs) (c : Char) :
    Places (step c s) (cs ++ [c]) where
  size := by
    rw [step, Array.size_push, h.size, List.length_append, List.length_singleton]
  bytes := by
    intro i bound
    rw [List.length_append, List.length_singleton] at bound
    rw [step, Array.getElem?_push, h.size]
    split
    case isTrue last =>
      have back : s.bytes.back? = some (Text.byteLength cs) := by
        rw [Array.back?_eq_getElem?, h.size, Nat.add_sub_cancel, h.bytes _ (Nat.le_refl _),
          List.take_length]
      rw [back, last, List.take_of_length_le (by simp), Text.byteLength_append]
      rfl
    case isFalse earlier =>
      have inside : i ≤ cs.length := by omega
      rw [h.bytes i inside, List.take_append_of_le_length inside]

theorem places_foldl {s : Source} {cs : List Char} (h : Places s cs) (more : List Char) :
    Places (more.foldl (fun s c => step c s) s) (cs ++ more) := by
  induction more generalizing s cs with
  | nil => rwa [List.append_nil]
  | cons c more ih =>
      rw [List.foldl_cons, List.append_cons]
      exact ih (places_step h c)

theorem places_ofString (text : String) : Places (ofString text) text.toList := by
  rw [ofString, List.foldl_toArray]
  show Places _ ([] ++ text.toList)
  refine places_foldl ⟨rfl, fun i bound => ?_⟩ text.toList
  cases Nat.le_zero.mp bound
  rfl

/-- Every place of a source text is between two characters. -/
theorem boundary_byteAt (text : String) (place : Nat) :
    Text.Boundary text.toList ((ofString text).byteAt place) := by
  have places := places_ofString text
  rw [byteAt, Array.getD_eq_getD_getElem?]
  by_cases bound : place ≤ text.toList.length
  · have cut := Text.boundary_byteLength (text.toList.take place) (text.toList.drop place)
    rw [List.take_append_drop] at cut
    rwa [places.bytes place bound]
  · have outside : (ofString text).bytes.size ≤ place := by
      rw [places.size]
      omega
    rw [Array.getElem?_eq_none outside]
    exact Text.boundary_byteLength [] text.toList

end Source
end NullSafeEquality
