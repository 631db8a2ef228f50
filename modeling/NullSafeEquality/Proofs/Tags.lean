import NullSafeEquality.Fixture.Markup

/-!
The texts of tags, and how a text is cut into pieces. At each place stands at most one tag, whatever
follows, so the pieces of a text are those that a reader finds from the left: a tag wherever one
stands, and otherwise a character.
-/

namespace NullSafeEquality.Fixture

/-- The beginning of an opening tag. -/
def openingStart : List Char := "<warning".toList

def closingTag : List Char := "</warning>".toList

/-- What stands in front of a description. -/
def descriptionStart : List Char := "descr=\"".toList

def Blank (cs : List Char) : Prop := ∀ c ∈ cs, Text.isBlank c = true

instance : DecidablePred Blank := List.decidableBAll fun c => Text.isBlank c = true

/-- The texts of a tag. Blanks may stand in front of the end of an opening tag, and must stand in
front of its description. -/
inductive Spelled : Tag → List Char → Prop where
  | closing : Spelled .closing closingTag
  | bare {blanks} : Blank blanks → Spelled (.opening none) (openingStart ++ (blanks ++ ['>']))
  | described {before descr after} : before ≠ [] → Blank before → '"' ∉ descr → Blank after →
      Spelled (.opening (some descr))
        (openingStart ++ (before ++ (descriptionStart ++ (descr ++ '"' :: (after ++ ['>'])))))

/-- The pieces of a text. -/
inductive Reads : List Char → List Piece → Prop where
  | nil : Reads [] []
  | char {c cs ps} : (∀ tag text, Spelled tag text → ¬ text <+: c :: cs) → Reads cs ps →
      Reads (c :: cs) (.char c :: ps)
  | tag {tag text rest ps} : Spelled tag text → Reads rest ps →
      Reads (text ++ rest) (.tag tag text :: ps)

theorem dropBeginning?_eq_some_iff {beginning cs rest : List Char} :
    dropBeginning? beginning cs = some rest ↔ cs = beginning ++ rest := by
  induction beginning generalizing cs with
  | nil => exact Option.some_inj
  | cons p beginning ih =>
      cases cs with
      | nil => simp [dropBeginning?]
      | cons c cs =>
          rw [dropBeginning?]
          split
          case isTrue same => rw [ih, same, List.cons_append, List.cons.injEq, and_iff_right rfl]
          case isFalse other =>
            refine ⟨fun none => (Option.some_ne_none _ none.symm).elim, fun same => ?_⟩
            exact (other (List.cons.inj same).1.symm).elim

theorem dropBeginning?_append (beginning rest : List Char) :
    dropBeginning? beginning (beginning ++ rest) = some rest :=
  dropBeginning?_eq_some_iff.mpr rfl

theorem dropBeginning?_eq_none {beginning cs : List Char} (h : ¬ beginning <+: cs) :
    dropBeginning? beginning cs = none :=
  Option.eq_none_iff_forall_ne_some.mpr fun _ found =>
    h ⟨_, (dropBeginning?_eq_some_iff.mp found).symm⟩

section Runs

variable {p : Char → Bool} {front rest : List Char} {c : Char}

theorem dropWhile_run (run : ∀ x ∈ front, p x = true) (stop : p c = false) :
    (front ++ c :: rest).dropWhile p = c :: rest := by
  rw [List.dropWhile_append_of_pos run, List.dropWhile_cons_of_neg (by simp [stop])]

theorem takeWhile_run (run : ∀ x ∈ front, p x = true) (stop : p c = false) :
    (front ++ c :: rest).takeWhile p = front := by
  rw [List.takeWhile_append_of_pos run, List.takeWhile_cons_of_neg (by simp [stop]), List.append_nil]

end Runs

theorem of_mem_takeWhile {p : Char → Bool} {cs : List Char} : ∀ c ∈ cs.takeWhile p, p c = true :=
  List.all_eq_true.mp List.all_takeWhile

theorem tagEnd?_eq_some_iff {cs rest : List Char} :
    tagEnd? cs = some rest ↔ ∃ blanks, Blank blanks ∧ cs = blanks ++ '>' :: rest := by
  rw [tagEnd?, dropBeginning?_eq_some_iff]
  constructor
  · intro behind
    refine ⟨cs.takeWhile Text.isBlank, of_mem_takeWhile, ?_⟩
    rw [← List.singleton_append, ← behind, List.takeWhile_append_dropWhile]
  · rintro ⟨blanks, blank, rfl⟩
    exact dropWhile_run blank (by decide)

theorem description?_eq_some_iff {cs descr rest : List Char} :
    description? cs = some (descr, rest) ↔
      ∃ before, before ≠ [] ∧ Blank before ∧ '"' ∉ descr ∧
        cs = before ++ (descriptionStart ++ (descr ++ '"' :: rest)) := by
  constructor
  · intro found
    cases cs with
    | nil => cases found
    | cons c cs =>
        obtain ⟨blank, found⟩ := Option.ite_none_right_eq_some.mp found
        obtain ⟨inside, start, found⟩ := Option.bind_eq_some_iff.mp found
        obtain ⟨behind, quote, found⟩ := Option.bind_eq_some_iff.mp found
        cases found
        rw [dropBeginning?_eq_some_iff] at start quote
        have text : inside.takeWhile (· ≠ '"') ++ '"' :: rest = inside :=
          (congrArg _ quote.symm).trans List.takeWhile_append_dropWhile
        have front : (c :: cs).takeWhile Text.isBlank ++ (descriptionStart ++ inside) = c :: cs :=
          (congrArg _ start.symm).trans List.takeWhile_append_dropWhile
        refine ⟨(c :: cs).takeWhile Text.isBlank, ?_, of_mem_takeWhile, ?_, ?_⟩
        · rw [List.takeWhile_cons_of_pos blank]
          exact List.cons_ne_nil c _
        · intro mem
          exact of_decide_eq_true (of_mem_takeWhile _ mem) rfl
        · rw [text, front]
  · rintro ⟨before, nonempty, blank, unquoted, rfl⟩
    obtain ⟨c, before, rfl⟩ := List.exists_cons_of_ne_nil nonempty
    have start : (c :: before ++ (descriptionStart ++ (descr ++ '"' :: rest))).dropWhile
        Text.isBlank = descriptionStart ++ (descr ++ '"' :: rest) :=
      dropWhile_run blank (by decide)
    have inside : ∀ d ∈ descr, decide (d ≠ '"') = true :=
      fun d mem => decide_eq_true fun quote => unquoted (quote ▸ mem)
    have text : (descr ++ '"' :: rest).takeWhile (· ≠ '"') = descr := takeWhile_run inside (by decide)
    have behind : (descr ++ '"' :: rest).dropWhile (· ≠ '"') = '"' :: rest :=
      dropWhile_run inside (by decide)
    rw [List.cons_append] at start ⊢
    rw [description?, if_pos (blank c List.mem_cons_self), start]
    show (dropBeginning? descriptionStart (descriptionStart ++ (descr ++ '"' :: rest))).bind _ = _
    rw [dropBeginning?_append, Option.bind_some]
    simp only [text, behind]
    rfl

theorem describedOpening?_eq_some_iff {cs rest : List Char} {tag : Tag} :
    describedOpening? cs = some (tag, rest) ↔
      ∃ before descr after, tag = .opening (some descr) ∧ before ≠ [] ∧ Blank before ∧
        '"' ∉ descr ∧ Blank after ∧
        cs = before ++ (descriptionStart ++ (descr ++ '"' :: (after ++ '>' :: rest))) := by
  constructor
  · intro found
    obtain ⟨⟨descr, behind⟩, start, found⟩ := Option.bind_eq_some_iff.mp found
    obtain ⟨last, stop, found⟩ := Option.bind_eq_some_iff.mp found
    cases found
    obtain ⟨before, nonempty, blank, unquoted, rfl⟩ := description?_eq_some_iff.mp start
    obtain ⟨after, blank', rfl⟩ := tagEnd?_eq_some_iff.mp stop
    exact ⟨before, descr, after, rfl, nonempty, blank, unquoted, blank', rfl⟩
  · rintro ⟨before, descr, after, rfl, nonempty, blank, unquoted, blank', rfl⟩
    have start : description?
        (before ++ (descriptionStart ++ (descr ++ '"' :: (after ++ '>' :: rest)))) =
          some (descr, after ++ '>' :: rest) :=
      description?_eq_some_iff.mpr ⟨before, nonempty, blank, unquoted, rfl⟩
    have stop : tagEnd? (after ++ '>' :: rest) = some rest :=
      tagEnd?_eq_some_iff.mpr ⟨after, blank', rfl⟩
    simp only [describedOpening?, start, stop, Option.bind_eq_bind, Option.bind_some,
      Option.pure_def]

/-- Where an opening tag ends after blanks no description begins. -/
theorem describedOpening?_bare {blanks : List Char} (blank : Blank blanks) (rest : List Char) :
    describedOpening? (blanks ++ '>' :: rest) = none := by
  refine Option.eq_none_iff_forall_ne_some.mpr fun ⟨tag, behind⟩ found => ?_
  obtain ⟨before, descr, after, -, -, blank', -, -, same⟩ := describedOpening?_eq_some_iff.mp found
  have here : (blanks ++ '>' :: rest).dropWhile Text.isBlank = '>' :: rest :=
    dropWhile_run blank (by decide)
  have there : (before ++ (descriptionStart ++ (descr ++ '"' :: (after ++ '>' :: behind)))).dropWhile
      Text.isBlank = descriptionStart ++ (descr ++ '"' :: (after ++ '>' :: behind)) :=
    dropWhile_run blank' (by decide)
  rw [same, there] at here
  cases here

theorem tag?_eq (cs : List Char) :
    tag? cs =
      match dropBeginning? openingStart cs with
      | some rest =>
          describedOpening? rest <|> (tagEnd? rest).map fun rest => (.opening none, rest)
      | none => (dropBeginning? closingTag cs).map fun rest => (.closing, rest) := rfl

theorem tag?_of_spelled {tag : Tag} {text : List Char} (h : Spelled tag text) (rest : List Char) :
    tag? (text ++ rest) = some (tag, rest) := by
  cases h with
  | closing => rfl
  | @bare blanks blank =>
      have stop : tagEnd? (blanks ++ '>' :: rest) = some rest :=
        tagEnd?_eq_some_iff.mpr ⟨blanks, blank, rfl⟩
      rw [List.append_assoc, List.append_assoc, List.singleton_append, tag?_eq,
        dropBeginning?_append]
      simp only [describedOpening?_bare blank, stop, Option.map_some]
      rfl
  | @described before descr after nonempty blank unquoted blank' =>
      have start : describedOpening?
          (before ++ (descriptionStart ++ (descr ++ '"' :: (after ++ '>' :: rest)))) =
          some (.opening (some descr), rest) :=
        describedOpening?_eq_some_iff.mpr
          ⟨before, descr, after, rfl, nonempty, blank, unquoted, blank', rfl⟩
      simp only [List.append_assoc, List.cons_append, List.nil_append, tag?_eq,
        dropBeginning?_append, start]
      rfl

theorem exists_spelled_of_tag? {cs rest : List Char} {tag : Tag} (h : tag? cs = some (tag, rest)) :
    ∃ text, Spelled tag text ∧ cs = text ++ rest := by
  rw [tag?_eq] at h
  split at h
  case h_1 inside start =>
    rw [dropBeginning?_eq_some_iff] at start
    subst start
    rw [Option.orElse_eq_orElse, Option.orElse_eq_or, Option.or_eq_some_iff] at h
    rcases h with found | ⟨-, found⟩
    · obtain ⟨before, descr, after, rfl, nonempty, blank, unquoted, blank', rfl⟩ :=
        describedOpening?_eq_some_iff.mp found
      refine ⟨_, .described nonempty blank unquoted blank', ?_⟩
      simp only [List.append_assoc, List.cons_append, List.nil_append]
    · obtain ⟨behind, stop, same⟩ := Option.map_eq_some_iff.mp found
      cases same
      obtain ⟨blanks, blank, rfl⟩ := tagEnd?_eq_some_iff.mp stop
      refine ⟨_, .bare blank, ?_⟩
      simp only [List.append_assoc, List.cons_append, List.nil_append]
  case h_2 =>
    obtain ⟨behind, start, same⟩ := Option.map_eq_some_iff.mp h
    cases same
    exact ⟨_, .closing, dropBeginning?_eq_some_iff.mp start⟩

theorem tag?_eq_none_iff {cs : List Char} :
    tag? cs = none ↔ ∀ tag text, Spelled tag text → ¬ text <+: cs := by
  rw [Option.eq_none_iff_forall_ne_some]
  constructor
  · rintro none tag text spelled ⟨rest, rfl⟩
    exact none (tag, rest) (tag?_of_spelled spelled rest)
  · rintro none ⟨tag, rest⟩ found
    obtain ⟨text, spelled, rfl⟩ := exists_spelled_of_tag? found
    exact none tag text spelled (List.prefix_append text rest)

theorem Spelled.head {tag : Tag} {text : List Char} (h : Spelled tag text) :
    text.head? = some '<' := by
  cases h <;> rfl

theorem Spelled.ne_nil {tag : Tag} {text : List Char} (h : Spelled tag text) : text ≠ [] := by
  rintro rfl
  cases h.head

theorem piecesFrom_length (front rest : List Char) :
    piecesFrom front.length (front ++ rest) = pieces rest := by
  induction front with
  | nil => rfl
  | cons c front ih => exact ih

theorem pieces_char {c : Char} {cs : List Char} (h : tag? (c :: cs) = none) :
    pieces (c :: cs) = .char c :: pieces cs := by
  rw [pieces, piecesFrom, h, pieces]

theorem pieces_spelled {tag : Tag} {text : List Char} (h : Spelled tag text) (rest : List Char) :
    pieces (text ++ rest) = .tag tag text :: pieces rest := by
  have found := tag?_of_spelled h rest
  obtain ⟨c, text, rfl⟩ := List.exists_cons_of_ne_nil h.ne_nil
  have length : (c :: text ++ rest).length - rest.length = (c :: text).length := by
    rw [List.length_append, Nat.add_sub_cancel]
  rw [pieces, List.cons_append, piecesFrom, ← List.cons_append, found]
  simp only [length, List.take_left]
  rw [List.length_cons, Nat.add_sub_cancel, piecesFrom_length]

theorem pieces_of_reads {cs : List Char} {ps : List Piece} (h : Reads cs ps) : pieces cs = ps := by
  induction h with
  | nil => rfl
  | char none _ ih => rw [pieces_char (tag?_eq_none_iff.mpr none), ih]
  | tag spelled _ ih => rw [pieces_spelled spelled, ih]

theorem reads_pieces (cs : List Char) : Reads cs (pieces cs) := by
  induction length : cs.length using Nat.strongRecOn generalizing cs with
  | ind n ih =>
      subst length
      cases cs with
      | nil => exact .nil
      | cons c cs =>
          cases found : tag? (c :: cs) with
          | none =>
              rw [pieces_char found]
              exact .char (tag?_eq_none_iff.mp found) (ih cs.length (Nat.lt_succ_self _) cs rfl)
          | some result =>
              obtain ⟨tag, rest⟩ := result
              obtain ⟨text, spelled, same⟩ := exists_spelled_of_tag? found
              have positive : 0 < text.length := List.length_pos_iff.mpr spelled.ne_nil
              have shorter : rest.length < (c :: cs).length := by
                rw [same, List.length_append]
                omega
              rw [same, pieces_spelled spelled]
              exact .tag spelled (ih rest.length shorter rest rfl)

/-- The pieces of a text are what its reader finds, and nothing else. -/
theorem reads_iff {cs : List Char} {ps : List Piece} : Reads cs ps ↔ ps = pieces cs := by
  refine ⟨fun h => (pieces_of_reads h).symm, ?_⟩
  rintro rfl
  exact reads_pieces cs

end NullSafeEquality.Fixture
