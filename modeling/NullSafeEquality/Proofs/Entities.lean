import NullSafeEquality.Proofs.Decoding

/-!
Texts in which entities stand for characters. Such a text may use an entity wherever it likes, but
writes an ampersand only at the beginning of one. A pass over it therefore meets either an entity or
a character that stands for itself, and gives the characters back.
-/

namespace NullSafeEquality.Fixture

/-- The second text writes the first, with some of these entities. -/
inductive Encoded (known : List (List Char × Char)) : List Char → List Char → Prop where
  | nil : Encoded known [] []
  | plain {c cs text} : c ≠ '&' → Encoded known cs text → Encoded known (c :: cs) (c :: text)
  | entity {e c cs text} : (e, c) ∈ known → Encoded known cs text →
      Encoded known (c :: cs) (e ++ text)

/-- Decoding the entities of a text gives what it writes. -/
theorem unescapeChars_of_encoded {cs text : List Char} (h : Encoded entities cs text) :
    unescapeChars text = cs := by
  rw [unescapeChars_eq_decodeOnce]
  induction h with
  | nil => exact decodeOnce_nil
  | plain other _ ih =>
      rw [decodeOnce_of_absent, ih]
      intro entry mem begins
      exact other (separate_entities.head_of_prefix mem begins).1
  | entity mem _ ih => rw [decodeOnce_entity separate_entities mem, ih]

theorem Encoded.mono {known more : List (List Char × Char)} (sub : known ⊆ more)
    {cs text : List Char} (h : Encoded known cs text) : Encoded more cs text := by
  induction h with
  | nil => exact .nil
  | plain other _ ih => exact .plain other ih
  | entity mem _ ih => exact .entity (sub mem) ih

/-- How a description may write the characters that have a meaning in markup. -/
def markupEntities : List (List Char × Char) :=
  [("&amp;".toList, '&'), ("&quot;".toList, '"'), ("&apos;".toList, '\''), ("&lt;".toList, '<'),
    ("&gt;".toList, '>')]

/-- The text writes the other one and can stand in quotes: ampersands and quotes are written as
entities, and other characters with a meaning in markup may be. -/
structure Escaped (cs text : List Char) : Prop where
  encoded : Encoded markupEntities cs text
  unquoted : '"' ∉ text

theorem unescapeChars_of_escaped {cs text : List Char} (h : Escaped cs text) :
    unescapeChars text = cs := by
  have sub : ∀ entry ∈ markupEntities, entry ∈ entities := by decide
  exact unescapeChars_of_encoded (h.encoded.mono fun entry mem => sub entry mem)

/-- A text with entities for ampersands and quotes. -/
def escape (cs : List Char) : List Char :=
  cs.flatMap fun c =>
    if c = '&' then "&amp;".toList else if c = '"' then "&quot;".toList else [c]

theorem escaped_escape (cs : List Char) : Escaped cs (escape cs) := by
  induction cs with
  | nil => exact ⟨.nil, List.not_mem_nil⟩
  | cons c cs ih =>
      rw [escape, List.flatMap_cons, ← escape]
      by_cases ampersand : c = '&'
      · subst ampersand
        rw [if_pos rfl]
        exact ⟨.entity (by decide) ih.encoded,
          List.not_mem_append (by decide) ih.unquoted⟩
      · rw [if_neg ampersand]
        by_cases quote : c = '"'
        · subst quote
          rw [if_pos rfl]
          exact ⟨.entity (by decide) ih.encoded, List.not_mem_append (by decide) ih.unquoted⟩
        · rw [if_neg quote]
          exact ⟨.plain ampersand ih.encoded,
            mt List.mem_cons.mp (not_or.mpr ⟨fun same => quote same.symm, ih.unquoted⟩)⟩

end NullSafeEquality.Fixture
