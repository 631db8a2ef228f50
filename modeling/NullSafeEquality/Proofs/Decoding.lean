import Mathlib.Data.List.Pairwise
import NullSafeEquality.Fixture.Entity

/-!
Decoding in one pass. The kinds of entities are decoded one after another, each over the whole text.
That is the same as to go through the text once and to decode whichever entity begins at a place: a
kind leaves the spellings of the others as they are, and what it decodes stands in no spelling of a
kind that comes later. The ampersand stands in all of them and therefore comes last.
-/

namespace NullSafeEquality.Fixture

/-- Go through a text once and decode whichever of some entities begins at a place. What was decoded
is not looked at again. -/
def decodeOnce (known : List (List Char × Char)) : List Char → List Char
  | [] => []
  | c :: rest =>
      match known.find? fun entry => entry.1.isPrefixOf (c :: rest) with
      | some (entity, decoded) => decoded :: decodeOnce known (rest.drop (entity.length - 1))
      | none => c :: decodeOnce known rest
termination_by text => text.length

/-- Every entity begins with an ampersand and has no other, and none is a beginning of another. -/
structure Separate (known : List (List Char × Char)) : Prop where
  shape : ∀ entry ∈ known, ∃ rest, entry.1 = '&' :: rest ∧ '&' ∉ rest
  apart : known.Pairwise fun a b => ¬ a.1 <+: b.1 ∧ ¬ b.1 <+: a.1

/-- What a kind decodes stands in no spelling of a kind that comes later. -/
def Harmless (known : List (List Char × Char)) : Prop :=
  known.Pairwise fun earlier later => earlier.2 ∉ later.1

theorem replaceFrom_length (pattern replacement front rest : List Char) :
    replaceFrom pattern replacement front.length (front ++ rest) =
      replaceFrom pattern replacement 0 rest := by
  induction front with
  | nil => rfl
  | cons c front ih => exact ih

theorem replaceFrom_of_absent {pattern replacement : List Char} {c : Char} {rest : List Char}
    (h : ¬ pattern <+: c :: rest) :
    replaceFrom pattern replacement 0 (c :: rest) =
      c :: replaceFrom pattern replacement 0 rest := by
  rw [← List.isPrefixOf_iff_prefix] at h
  rw [replaceFrom, if_neg h]

theorem replaceFrom_self {c : Char} {pattern replacement rest : List Char} :
    replaceFrom (c :: pattern) replacement 0 (c :: pattern ++ rest) =
      replacement ++ replaceFrom (c :: pattern) replacement 0 rest := by
  have begins : (c :: pattern).isPrefixOf (c :: (pattern ++ rest)) = true :=
    List.isPrefixOf_iff_prefix.mpr (List.prefix_append (c :: pattern) rest)
  rw [List.cons_append, replaceFrom, if_pos begins, List.length_cons, Nat.add_sub_cancel,
    replaceFrom_length]

/-- Where no ampersand stands no entity begins. -/
theorem replaceFrom_plain {pattern replacement front rest : List Char} (h : '&' ∉ front) :
    replaceFrom ('&' :: pattern) replacement 0 (front ++ rest) =
      front ++ replaceFrom ('&' :: pattern) replacement 0 rest := by
  induction front with
  | nil => rfl
  | cons c front ih =>
      obtain ⟨other, later⟩ := not_or.mp (mt List.mem_cons.mpr h)
      have here : ¬ '&' :: pattern <+: c :: (front ++ rest) :=
        fun begins => other (List.cons_prefix_cons.mp begins).1
      rw [List.cons_append, replaceFrom_of_absent here, ih later, List.cons_append]

variable {known : List (List Char × Char)} {e : List Char} {c : Char} {rest : List Char}

/-- An entity is passed over when another is decoded. -/
theorem replaceFrom_other {replacement other rest : List Char}
    (separate : ¬ e <+: other ∧ ¬ other <+: e) (hEntity : ∃ tail, e = '&' :: tail)
    (hOther : ∃ tail, other = '&' :: tail ∧ '&' ∉ tail) :
    replaceFrom e replacement 0 (other ++ rest) = other ++ replaceFrom e replacement 0 rest := by
  obtain ⟨pattern, rfl⟩ := hEntity
  obtain ⟨tail, rfl, single⟩ := hOther
  have here : ¬ '&' :: pattern <+: '&' :: (tail ++ rest) := fun begins =>
    (List.prefix_or_prefix_of_prefix begins
      (List.prefix_append ('&' :: tail) rest)).elim separate.1 separate.2
  rw [List.cons_append, replaceFrom_of_absent here, replaceFrom_plain single, List.cons_append]

theorem Separate.tail {entry : List Char × Char} (separate : Separate (entry :: known)) :
    Separate known where
  shape := fun a mem => separate.shape a (List.mem_cons_of_mem _ mem)
  apart := (List.pairwise_cons.mp separate.apart).2

/-- At most one entity begins at a place. -/
theorem Separate.eq_of_prefix (separate : Separate known) {a b : List Char × Char}
    {text : List Char} (ha : a ∈ known) (hb : b ∈ known) (beginsA : a.1 <+: text)
    (beginsB : b.1 <+: text) : a = b := by
  by_contra differ
  have symmetric : Std.Symm fun a b : List Char × Char => ¬ a.1 <+: b.1 ∧ ¬ b.1 <+: a.1 :=
    ⟨fun _ _ apart => apart.symm⟩
  have apart := separate.apart.forall ha hb differ
  exact (List.prefix_or_prefix_of_prefix beginsA beginsB).elim apart.1 apart.2

/-- Where an entity begins there is an ampersand. -/
theorem Separate.head_of_prefix (separate : Separate known) {entry : List Char × Char}
    (mem : entry ∈ known) (begins : entry.1 <+: c :: rest) : c = '&' ∧ c ∈ entry.1 := by
  obtain ⟨tail, shape, -⟩ := separate.shape entry mem
  rw [shape] at begins ⊢
  have ampersand := (List.cons_prefix_cons.mp begins).1
  exact ⟨ampersand.symm, ampersand ▸ List.mem_cons_self⟩

theorem decodeOnce_nil : decodeOnce known [] = [] := by rw [decodeOnce]

theorem decodeOnce_of_absent (h : ∀ entry ∈ known, ¬ entry.1 <+: c :: rest) :
    decodeOnce known (c :: rest) = c :: decodeOnce known rest := by
  have none : known.find? (fun entry => entry.1.isPrefixOf (c :: rest)) = none := by
    apply List.find?_eq_none.mpr
    intro entry mem begins
    exact h entry mem (List.isPrefixOf_iff_prefix.mp begins)
  rw [decodeOnce, none]

/-- What is found begins the text, and decoding goes on behind it. -/
theorem Separate.of_find? (separate : Separate known) {entity : List Char} {decoded : Char}
    (found : known.find? (fun entry => entry.1.isPrefixOf (c :: rest)) = some (entity, decoded)) :
    (entity, decoded) ∈ known ∧ c :: rest = entity ++ rest.drop (entity.length - 1) := by
  have mem := List.mem_of_find?_eq_some found
  have begins := List.find?_some found
  obtain ⟨tail, text⟩ := List.isPrefixOf_iff_prefix.mp begins
  obtain ⟨spelling, shape, -⟩ : ∃ tail, entity = '&' :: tail ∧ '&' ∉ tail := separate.shape _ mem
  refine ⟨mem, ?_⟩
  subst shape
  obtain ⟨rfl, rfl⟩ := List.cons.inj text
  simp

theorem decodeOnce_entity (separate : Separate known) (mem : (e, c) ∈ known) :
    decodeOnce known (e ++ rest) = c :: decodeOnce known rest := by
  obtain ⟨tail, rfl, -⟩ : ∃ tail, e = '&' :: tail ∧ '&' ∉ tail := separate.shape _ mem
  have here : '&' :: tail <+: '&' :: (tail ++ rest) := List.prefix_append ('&' :: tail) rest
  rw [List.cons_append, decodeOnce]
  split
  · next entity decoded found =>
      obtain ⟨known, text⟩ := separate.of_find? found
      cases separate.eq_of_prefix known mem (text ▸ List.prefix_append ..) here
      rw [List.length_cons, Nat.add_sub_cancel, List.drop_left]
  · next none =>
      exact absurd (List.isPrefixOf_iff_prefix.mpr here) (List.find?_eq_none.mp none _ mem)

/-- A text without the decoded character that begins the decoded text began it before. -/
theorem prefix_of_prefix_replaceFrom {text front : List Char} (fresh : c ∉ front)
    (h : front <+: replaceFrom e [c] 0 text) : front <+: text := by
  induction text generalizing front with
  | nil => exact h
  | cons d rest ih =>
      cases front with
      | nil => exact List.nil_prefix
      | cons first front =>
          rw [replaceFrom] at h
          split at h
          · exact absurd (List.cons_prefix_cons.mp h).1 (List.ne_of_not_mem_cons fresh).symm
          · obtain ⟨same, later⟩ := List.cons_prefix_cons.mp h
            exact List.cons_prefix_cons.mpr ⟨same, ih (List.not_mem_of_not_mem_cons fresh) later⟩

/-- Decoding the first kind lets no other begin where none began. -/
theorem absent_replaceFrom (separate : Separate known) (fresh : ∀ entry ∈ known, c ∉ entry.1)
    {d : Char} (absent : ∀ entry ∈ known, ¬ entry.1 <+: d :: rest) :
    ∀ entry ∈ known, ¬ entry.1 <+: d :: replaceFrom e [c] 0 rest := by
  intro entry mem begins
  apply absent entry mem
  obtain ⟨tail, shape, -⟩ := separate.shape entry mem
  have unread := fresh entry mem
  rw [shape] at begins unread ⊢
  obtain ⟨same, later⟩ := List.cons_prefix_cons.mp begins
  have before := prefix_of_prefix_replaceFrom (List.not_mem_of_not_mem_cons unread) later
  exact List.cons_prefix_cons.mpr ⟨same, before⟩

/-- The first kind can be decoded in the whole text before the others are. -/
theorem decodeOnce_replaceFrom (separate : Separate ((e, c) :: known))
    (fresh : ∀ entry ∈ known, c ∉ entry.1) (text : List Char) :
    decodeOnce known (replaceFrom e [c] 0 text) = decodeOnce ((e, c) :: known) text := by
  obtain ⟨pattern, shape, -⟩ : ∃ tail, e = '&' :: tail ∧ '&' ∉ tail :=
    separate.shape _ List.mem_cons_self
  have unlike := (List.pairwise_cons.mp separate.apart).1
  fun_induction decodeOnce ((e, c) :: known) text with
  | case1 => rw [replaceFrom, decodeOnce_nil]
  | case2 d rest entity decoded found ih =>
      obtain ⟨mem, text⟩ := separate.of_find? found
      rw [text, ← ih]
      obtain same | later := List.mem_cons.mp mem
      · -- the entity is of the first kind: its character is in no spelling, so none begins with it
        cases same
        subst shape
        rw [replaceFrom_self, List.singleton_append, decodeOnce_of_absent]
        intro entry mem begins
        exact fresh entry mem (separate.tail.head_of_prefix mem begins).2
      · -- it is of a later kind and is still there when that is decoded
        rw [replaceFrom_other (unlike _ later) ⟨pattern, shape⟩ (separate.tail.shape _ later),
          decodeOnce_entity separate.tail later]
  | case3 d rest none ih =>
      have absent : ∀ entry ∈ (e, c) :: known, ¬ entry.1 <+: d :: rest := by
        intro entry mem begins
        exact List.find?_eq_none.mp none entry mem (List.isPrefixOf_iff_prefix.mpr begins)
      obtain ⟨first, others⟩ := List.forall_mem_cons.mp absent
      rw [replaceFrom_of_absent first,
        decodeOnce_of_absent (absent_replaceFrom separate.tail fresh others), ih]

/-- Without entities nothing is decoded. -/
theorem decodeOnce_without (text : List Char) : decodeOnce [] text = text := by
  induction text with
  | nil => exact decodeOnce_nil
  | cons c rest ih => rw [decodeOnce_of_absent fun _ mem => absurd mem List.not_mem_nil, ih]

/-- To decode the kinds one after another is to decode all of them in one pass. -/
theorem foldl_replaceFrom_eq_decodeOnce (separate : Separate known) (harmless : Harmless known)
    (text : List Char) :
    known.foldl (fun cs (entity, c) => replaceFrom entity [c] 0 cs) text =
      decodeOnce known text := by
  induction known generalizing text with
  | nil => exact (decodeOnce_without text).symm
  | cons entry known ih =>
      obtain ⟨fresh, later⟩ := List.pairwise_cons.mp harmless
      rw [List.foldl_cons, ih separate.tail later, decodeOnce_replaceFrom separate fresh]

theorem separate_entities : Separate entities where
  shape := by
    have shapes : ∀ entry ∈ entities, entry.1 = '&' :: entry.1.tail ∧ '&' ∉ entry.1.tail := by
      decide
    exact fun entry mem => ⟨_, shapes entry mem⟩
  apart := by
    have unlike : entities.Pairwise fun a b =>
        a.1.isPrefixOf b.1 = false ∧ b.1.isPrefixOf a.1 = false := by decide
    refine unlike.imp fun ⟨left, right⟩ => ⟨fun begins => ?_, fun begins => ?_⟩
    · exact Bool.false_ne_true (left.symm.trans (List.isPrefixOf_iff_prefix.mpr begins))
    · exact Bool.false_ne_true (right.symm.trans (List.isPrefixOf_iff_prefix.mpr begins))

theorem harmless_entities : Harmless entities := by
  rw [Harmless]
  decide

theorem unescapeChars_eq_decodeOnce (text : List Char) :
    unescapeChars text = decodeOnce entities text :=
  foldl_replaceFrom_eq_decodeOnce separate_entities harmless_entities text

/-- Descriptions are decoded in one pass: each entity gives its character and each place at which
none begins stays, whatever the text behind it decodes to. -/
theorem unescape_in_one_pass :
    (∀ s : String, unescape s = String.ofList (decodeOnce entities s.toList)) ∧
    (∀ entry ∈ entities, ∀ rest,
      unescapeChars (entry.1 ++ rest) = entry.2 :: unescapeChars rest) ∧
    ∀ c rest, (∀ entry ∈ entities, ¬ entry.1 <+: c :: rest) →
      unescapeChars (c :: rest) = c :: unescapeChars rest := by
  refine ⟨fun s => congrArg String.ofList (unescapeChars_eq_decodeOnce s.toList), ?_, ?_⟩
  · intro entry mem rest
    rw [unescapeChars_eq_decodeOnce, unescapeChars_eq_decodeOnce]
    exact decodeOnce_entity separate_entities mem
  · intro c rest absent
    rw [unescapeChars_eq_decodeOnce, unescapeChars_eq_decodeOnce]
    exact decodeOnce_of_absent absent

/-- A decoded ampersand begins no entity, and an ampersand that begins none stays. -/
theorem doublyEscaped_in_one_pass :
    (("&amp;".toList, '&') ∈ entities ∧
      unescapeChars "&amp;lt;".toList = '&' :: unescapeChars "lt;".toList) ∧
    ((∀ entry ∈ entities, ¬ entry.1 <+: "&&lt;".toList) ∧
      unescapeChars "&&lt;".toList = '&' :: unescapeChars "&lt;".toList) ∧
    unescape "&amp;lt;" = "&lt;" := by
  obtain ⟨-, entity, plain⟩ := unescape_in_one_pass
  have mem : ("&amp;".toList, '&') ∈ entities := by decide
  have absent : ∀ entry ∈ entities, ¬ entry.1 <+: "&&lt;".toList := by decide
  exact ⟨⟨mem, entity _ mem "lt;".toList⟩, ⟨absent, plain '&' "&lt;".toList absent⟩,
    by decide +kernel⟩

end NullSafeEquality.Fixture
