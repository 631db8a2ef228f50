import Mathlib.Data.List.Chain
import NullSafeEquality.Inspection.FileText

/-!
Entries in the report on a file. The path is put in front of lines of the finished text, so an entry
whose texts have line feeds of their own is cut up as well. What is printed for an entry depends on
that entry alone, and it is the path with the entry behind it exactly if each line feed inside the
entry is followed by a blank and none has a carriage return in front of it.
-/

namespace NullSafeEquality

namespace Text

/-- The pieces of a text between its line feeds, the piece behind the last one only if it is not
empty. -/
def rows : List Char → List (List Char)
  | [] => []
  | c :: rest =>
      if c = '\n' then [] :: rows rest
      else match rows rest with
        | [] => [[c]]
        | row :: others => (c :: row) :: others

/-- A line feed behind each piece. -/
def unlines (rows : List (List Char)) : List Char := rows.flatMap (· ++ ['\n'])

/-- A piece without the carriage return at its end. -/
def withoutReturn (row : List Char) : List Char := (dropReturn row.reverse).reverse

variable {row front rest cs : List Char} {pieces others : List (List Char)}

@[simp] theorem unlines_cons (row : List Char) (others : List (List Char)) :
    unlines (row :: others) = row ++ '\n' :: unlines others := by
  simp [unlines]

theorem unlines_flatMap {α : Type} (f : α → List (List Char)) (as : List α) :
    unlines (as.flatMap f) = as.flatMap fun a => unlines (f a) :=
  List.flatMap_assoc

theorem unlines_rows (front : List Char) :
    unlines (rows (front ++ ['\n'])) = front ++ ['\n'] := by
  induction front with
  | nil => rfl
  | cons c front ih =>
      rw [List.cons_append, rows]
      split
      case isTrue feed => rw [unlines_cons, ih, feed, List.nil_append]
      case isFalse other =>
        cases parts : rows (front ++ ['\n']) with
        | nil =>
            rw [parts] at ih
            exact absurd ih.symm (List.append_ne_nil_of_right_ne_nil front (List.cons_ne_nil _ _))
        | cons row others =>
            rw [parts, unlines_cons] at ih
            rw [unlines_cons, List.cons_append, ih]

theorem not_mem_of_mem_rows (h : row ∈ rows cs) : '\n' ∉ row := by
  induction cs generalizing row with
  | nil => exact absurd h List.not_mem_nil
  | cons c cs ih =>
      rw [rows] at h
      split at h
      case isTrue feed =>
        cases h with
        | head => exact List.not_mem_nil
        | tail _ h => exact ih h
      case isFalse other =>
        cases parts : rows cs with
        | nil =>
            rw [parts] at h
            cases List.mem_singleton.mp h
            exact fun mem => other (List.mem_singleton.mp mem).symm
        | cons first others =>
            rw [parts] at h ih
            cases h with
            | head =>
                exact List.not_mem_cons_of_ne_of_not_mem (Ne.symm other) (ih List.mem_cons_self)
            | tail _ h => exact ih (List.mem_cons_of_mem _ h)

theorem linesFrom_row (line : List Char) (h : '\n' ∉ row) :
    linesFrom line (row ++ '\n' :: rest) =
      (dropReturn (row.reverse ++ line)).reverse :: linesFrom [] rest := by
  induction row generalizing line with
  | nil => rfl
  | cons c row ih =>
      obtain ⟨here, later⟩ := List.ne_and_not_mem_of_not_mem_cons h
      have step : linesFrom line (c :: (row ++ '\n' :: rest)) =
          linesFrom (c :: line) (row ++ '\n' :: rest) := by
        rw [linesFrom]
        exact fun feed => here feed.symm
      rw [List.cons_append, step, ih (c :: line) later, List.reverse_cons, List.append_assoc]
      rfl

theorem linesFrom_unlines_append (h : ∀ row ∈ pieces, '\n' ∉ row) (rest : List Char) :
    linesFrom [] (unlines pieces ++ rest) = pieces.map withoutReturn ++ linesFrom [] rest := by
  induction pieces with
  | nil => rfl
  | cons row others ih =>
      obtain ⟨here, later⟩ := List.forall_mem_cons.mp h
      rw [unlines_cons, List.append_assoc, List.cons_append, linesFrom_row [] here, ih later,
        List.append_nil]
      rfl

theorem eq_of_row_append_eq {other s t : List Char} (hRow : '\n' ∉ row) (hOther : '\n' ∉ other)
    (h : row ++ '\n' :: s = other ++ '\n' :: t) : row = other ∧ s = t := by
  induction row generalizing other with
  | nil =>
      cases other with
      | nil => exact ⟨rfl, (List.cons.inj h).2⟩
      | cons d other => exact absurd ((List.cons.inj h).1 ▸ List.mem_cons_self) hOther
  | cons c row ih =>
      cases other with
      | nil => exact absurd ((List.cons.inj h).1 ▸ List.mem_cons_self) hRow
      | cons d other =>
          obtain ⟨first, later⟩ := List.cons.inj h
          obtain ⟨same, rest⟩ := ih (List.not_mem_of_not_mem_cons hRow)
            (List.not_mem_of_not_mem_cons hOther) later
          exact ⟨first ▸ same ▸ rfl, rest⟩

/-- Pieces are read off the text with a line feed behind each. -/
theorem unlines_injective (hPieces : ∀ row ∈ pieces, '\n' ∉ row)
    (hOthers : ∀ row ∈ others, '\n' ∉ row) (h : unlines pieces = unlines others) : pieces = others := by
  induction pieces generalizing others with
  | nil =>
      cases others with
      | nil => rfl
      | cons row others => simp [unlines] at h
  | cons row rest ih =>
      cases others with
      | nil => simp [unlines] at h
      | cons other others =>
          rw [unlines_cons, unlines_cons] at h
          obtain ⟨here, later⟩ := List.forall_mem_cons.mp hPieces
          obtain ⟨there, behind⟩ := List.forall_mem_cons.mp hOthers
          obtain ⟨same, next⟩ := eq_of_row_append_eq here there h
          rw [same, ih later behind next]

theorem withoutReturn_cases (row : List Char) :
    (withoutReturn row = row ∧ row.getLast? ≠ some '\r') ∨ row = withoutReturn row ++ ['\r'] := by
  obtain rfl | ⟨front, last, rfl⟩ := List.eq_nil_or_concat row
  · exact Or.inl ⟨rfl, by simp⟩
  · rw [List.concat_eq_append]
    by_cases same : last = '\r'
    · subst same
      refine Or.inr ?_
      rw [withoutReturn, List.reverse_append, List.reverse_singleton, List.singleton_append,
        dropReturn, List.reverse_reverse]
    · refine Or.inl ⟨?_, ?_⟩
      · rw [withoutReturn, List.reverse_append, List.reverse_singleton, List.singleton_append,
          dropReturn, List.reverse_cons, List.reverse_reverse]
        exact fun rest h => same (List.cons.inj h).1
      · rw [List.getLast?_concat]
        exact fun h => same (Option.some.inj h)

theorem withoutReturn_eq_iff (row : List Char) :
    withoutReturn row = row ↔ row.getLast? ≠ some '\r' := by
  obtain ⟨same, last⟩ | cut := withoutReturn_cases row
  · exact iff_of_true same last
  · refine iff_of_false (fun same => ?_) (fun last => last ?_)
    · rw [same] at cut
      exact absurd (congrArg List.length cut) (by simp)
    · rw [cut, List.getLast?_concat]

/-- In front of a line feed there is no carriage return, and behind one there is a blank. -/
def Flows (a b : Char) : Prop := ¬ (a = '\r' ∧ b = '\n') ∧ (a = '\n' → b = ' ')

instance (a b : Char) : Decidable (Flows a b) := inferInstanceAs (Decidable (_ ∧ (_ → _)))

/-- So it is everywhere inside the text. -/
def Steady (cs : List Char) : Prop := cs.IsChain Flows

instance (cs : List Char) : Decidable (Steady cs) := inferInstanceAs (Decidable (cs.IsChain Flows))

theorem steady_of_not_mem (h : '\n' ∉ row) : Steady row := by
  refine (List.pairwise_of_forall_mem_list fun a ha b hb => ?_).isChain
  exact ⟨fun both => h (both.2 ▸ hb), fun feed => absurd (feed ▸ ha) h⟩

theorem flows_lineFeed_iff {c : Char} (h : c ≠ '\n') : Flows c '\n' ↔ c ≠ '\r' := by
  simp [Flows, h]

theorem lineFeed_flows_iff (c : Char) : Flows '\n' c ↔ c = ' ' := by
  simp [Flows]

theorem steady_row_append_iff (h : '\n' ∉ row) (rest : List Char) :
    Steady (row ++ '\n' :: rest) ↔ row.getLast? ≠ some '\r' ∧ Steady ('\n' :: rest) := by
  have last : (∀ a ∈ row.getLast?, Flows a '\n') ↔ row.getLast? ≠ some '\r' := by
    cases found : row.getLast? with
    | none => simp
    | some c =>
        have other : c ≠ '\n' := fun feed => h (feed ▸ List.mem_of_getLast? found)
        simp [flows_lineFeed_iff other]
  have inside := steady_of_not_mem h
  rw [Steady] at inside
  rw [Steady, List.isChain_append, ← last]
  simp only [inside, true_and, List.head?_cons, Option.mem_def, Option.some.injEq, forall_eq']
  exact and_comm

theorem steady_lineFeed_unlines_iff (row : List Char) (others : List (List Char)) :
    Steady ('\n' :: unlines (row :: others)) ↔
      row.head? = some ' ' ∧ Steady (unlines (row :: others)) := by
  rw [Steady, List.isChain_cons, Steady, unlines_cons]
  refine and_congr_left' ?_
  cases row with
  | nil => simp [lineFeed_flows_iff]
  | cons c row => simp [lineFeed_flows_iff]

/-- A text of several lines is steady if each line but the first begins with a blank and none ends
with a carriage return. -/
theorem steady_unlines_iff (hRow : '\n' ∉ row) (hOthers : ∀ other ∈ others, '\n' ∉ other) :
    Steady (unlines (row :: others)) ↔ row.getLast? ≠ some '\r' ∧
      ∀ other ∈ others, other.head? = some ' ' ∧ other.getLast? ≠ some '\r' := by
  induction others generalizing row with
  | nil =>
      rw [unlines_cons, steady_row_append_iff hRow]
      refine and_congr_right' (iff_of_true ?_ fun _ h => absurd h List.not_mem_nil)
      exact List.isChain_singleton _
  | cons other others ih =>
      obtain ⟨here, later⟩ := List.forall_mem_cons.mp hOthers
      rw [unlines_cons, steady_row_append_iff hRow, steady_lineFeed_unlines_iff, ih here later,
        List.forall_mem_cons, and_assoc]

end Text

/-- An entry ends with a line feed and begins with neither a line feed nor a blank. -/
structure IsEntry (text : String) : Prop where
  last : text.toList.getLast? = some '\n'
  head : ∃ c rest, text.toList = c :: rest ∧ c ≠ '\n' ∧ c ≠ ' '

/-- What begins with a number and ends with a line feed is an entry. -/
theorem isEntry_of_number (n : Nat) {text : String}
    (last : text.toList.getLast? = some '\n') : IsEntry (toString n ++ text) := by
  have digits : (toString n).toList = Nat.toDigits 10 n := Nat.toList_repr
  obtain ⟨c, rest, start⟩ := List.exists_cons_of_ne_nil (Nat.toDigits_ne_nil (n := n) (b := 10))
  have digit : c.isDigit = true := by
    refine Nat.isDigit_of_mem_toDigits (n := n) (b := 10) (by decide) (by decide) ?_
    rw [start]
    exact List.mem_cons_self
  refine ⟨?_, c, rest ++ text.toList, ?_, ?_, ?_⟩
  · rw [String.toList_append, List.getLast?_append, last, Option.some_or]
  · rw [String.toList_append, digits, start, List.cons_append]
  · rintro rfl
    exact absurd digit (by decide)
  · rintro rfl
    exact absurd digit (by decide)

namespace InspectionReport

/-- What is printed for each finding and then for each syntax error. -/
def entries (r : InspectionReport) : List String :=
  r.diagnostics.map Diagnostic.toText ++ r.syntaxErrors.map SyntaxError.toText

theorem toText_eq_join (r : InspectionReport) : r.toText = String.join r.entries := rfl

theorem isEntry_of_mem_entries {r : InspectionReport} {t : String} (h : t ∈ r.entries) :
    IsEntry t := by
  obtain finding | fault := List.mem_append.mp h
  · obtain ⟨d, -, rfl⟩ := List.mem_map.mp finding
    simp only [Diagnostic.toText, String.append_assoc]
    exact isEntry_of_number _ (by simp [List.getLast?_append, List.getLast?_cons])
  · obtain ⟨e, -, rfl⟩ := List.mem_map.mp fault
    simp only [SyntaxError.toText, String.append_assoc]
    exact isEntry_of_number _ (by simp [List.getLast?_append, List.getLast?_cons])

end InspectionReport

namespace FileReport

open Text

/-- A line of a report on a file, without the line feed. -/
def marked (path row : List Char) : List Char :=
  if row.head? = some ' ' then row else path ++ ':' :: row

/-- The path in front of the first line. -/
def prefixed (path : List Char) : List (List Char) → List (List Char)
  | [] => []
  | row :: others => (path ++ ':' :: row) :: others

/-- What the report on a file prints for an entry. -/
def inFile (path entry : String) : String := String.join ((Text.lines entry).map (line path))

variable {path row : List Char} {others : List (List Char)}

theorem toList_line (path : String) (row : List Char) :
    (line path (String.ofList row)).toList = marked path.toList row ++ ['\n'] := by
  have blank : (String.ofList row).startsWith " " = true ↔ row.head? = some ' ' := by
    cases row with
    | nil => simp
    | cons c row => simp [String.startsWith_string_iff, eq_comm (a := ' ')]
  by_cases h : row.head? = some ' '
  · simp [line, marked, blank, h]
  · simp [line, marked, blank, h]

theorem toList_inFile {pieces : List (List Char)} {entry : String}
    (h : ∀ row ∈ pieces, '\n' ∉ row) (split : entry.toList = unlines pieces) (path : String) :
    (inFile path entry).toList =
      unlines (pieces.map fun row => marked path.toList (withoutReturn row)) := by
  have cut : linesFrom [] entry.toList = pieces.map withoutReturn := by
    rw [split]
    simpa [linesFrom] using linesFrom_unlines_append h []
  rw [inFile, Text.lines, cut, String.toList_join]
  simp only [List.flatMap_map, toList_line, unlines]

theorem marked_eq_prefixed_iff {c : Char} {rest : List Char} (h : c ≠ ' ') (path : List Char) :
    marked path (withoutReturn (c :: rest)) = path ++ ':' :: c :: rest ↔
      (c :: rest).getLast? ≠ some '\r' := by
  have noBlank : (withoutReturn (c :: rest)).head? ≠ some ' ' := by
    intro blank
    obtain ⟨same, -⟩ | cut := withoutReturn_cases (c :: rest)
    · rw [same] at blank
      exact h (Option.some.inj blank)
    · cases front : withoutReturn (c :: rest) with
      | nil => rw [front] at blank; cases blank
      | cons d front' =>
          rw [front] at cut blank
          exact h ((List.cons.inj cut).1.trans (Option.some.inj blank))
  rw [marked, if_neg noBlank, List.append_cancel_left_eq, List.cons.injEq,
    ← withoutReturn_eq_iff]
  simp

/-- A path with its colon does not make up for a carriage return. -/
theorem colon_append_ne (path row : List Char) : path ++ ':' :: row ≠ row ++ ['\r'] := by
  intro same
  have lengths := congrArg List.length same
  simp only [List.length_append, List.length_cons, List.length_nil] at lengths
  have empty : path = [] := List.length_eq_zero_iff.mp (by omega)
  have returns := congrArg (List.count '\r') same
  simp [empty] at returns

theorem marked_eq_iff (path row : List Char) :
    marked path (withoutReturn row) = row ↔
      row.head? = some ' ' ∧ row.getLast? ≠ some '\r' := by
  obtain ⟨same, last⟩ | cut := withoutReturn_cases row
  · rw [same, marked]
    split
    case isTrue blank => exact iff_of_true rfl ⟨blank, last⟩
    case isFalse other =>
      refine iff_of_false (fun equal => ?_) fun h => other h.1
      have lengths := congrArg List.length equal
      simp only [List.length_append, List.length_cons] at lengths
      omega
  · refine iff_of_false (fun equal => ?_) fun h => h.2 (by rw [cut, List.getLast?_concat])
    nth_rewrite 2 [cut] at equal
    rw [marked] at equal
    split at equal
    · exact absurd (congrArg List.length equal) (by simp)
    · exact colon_append_ne path (withoutReturn row) equal

/-- What is printed for the lines of an entry is the path and the entry exactly if the entry is
steady. -/
theorem map_marked_eq_prefixed_iff {c : Char} (h : c ≠ ' ') (hRow : '\n' ∉ c :: row)
    (hOthers : ∀ other ∈ others, '\n' ∉ other) (path : List Char) :
    ((c :: row) :: others).map (fun row => marked path (withoutReturn row)) =
        prefixed path ((c :: row) :: others) ↔ Steady (unlines ((c :: row) :: others)) := by
  have later : others.map (fun row => marked path (withoutReturn row)) = others ↔
      ∀ other ∈ others, other.head? = some ' ' ∧ other.getLast? ≠ some '\r' := by
    have each : others.map (fun row => marked path (withoutReturn row)) = others.map id ↔
        ∀ other ∈ others, marked path (withoutReturn other) = id other := List.map_inj_left
    simpa only [List.map_id, id, marked_eq_iff] using each
  rw [steady_unlines_iff hRow hOthers, List.map_cons, prefixed, List.cons.injEq,
    marked_eq_prefixed_iff h, later]

theorem unlines_prefixed (path row : List Char) (others : List (List Char)) :
    unlines (prefixed path (row :: others)) = path ++ ':' :: unlines (row :: others) := by
  simp [prefixed]

/-- The lines of an entry. -/
theorem exists_rows_of_isEntry {t : String} (h : IsEntry t) :
    ∃ c row others, rows t.toList = (c :: row) :: others ∧ c ≠ ' ' ∧
      t.toList = unlines (rows t.toList) := by
  obtain ⟨front, closed⟩ := List.getLast?_eq_some_iff.mp h.last
  obtain ⟨c, rest, head, notFeed, notBlank⟩ := h.head
  have split : t.toList = unlines (rows t.toList) := by rw [closed, unlines_rows]
  cases found : rows t.toList with
  | nil => rw [found, head] at split; cases split
  | cons first others =>
      rw [found, head, unlines_cons] at split
      cases first with
      | nil => exact absurd (List.cons.inj split).1 notFeed
      | cons d row =>
          have same := (List.cons.inj split).1
          exact ⟨d, row, others, rfl, same ▸ notBlank, by rw [unlines_cons, ← split, head]⟩

theorem not_mem_withoutReturn (h : '\n' ∉ row) : '\n' ∉ withoutReturn row := by
  obtain ⟨same, -⟩ | cut := withoutReturn_cases row
  · rwa [same]
  · exact fun mem => h (cut ▸ List.mem_append_left _ mem)

theorem not_mem_path_append (hPath : '\n' ∉ path) (hRow : '\n' ∉ row) :
    '\n' ∉ path ++ ':' :: row := by
  simp [hPath, hRow]

theorem not_mem_marked (hPath : '\n' ∉ path) (hRow : '\n' ∉ row) : '\n' ∉ marked path row := by
  rw [marked]
  split
  · exact hRow
  · exact not_mem_path_append hPath hRow

theorem not_mem_of_mem_prefixed {pieces : List (List Char)} (hPath : '\n' ∉ path)
    (h : ∀ row ∈ pieces, '\n' ∉ row) : ∀ row ∈ prefixed path pieces, '\n' ∉ row := by
  cases pieces with
  | nil => exact h
  | cons row others =>
      obtain ⟨here, later⟩ := List.forall_mem_cons.mp h
      exact List.forall_mem_cons.mpr ⟨not_mem_path_append hPath here, later⟩

theorem length_prefixed (path : List Char) (pieces : List (List Char)) :
    (prefixed path pieces).length = pieces.length := by
  cases pieces <;> rfl

theorem lines_append {t : String} (h : IsEntry t) (rest : String) :
    Text.lines (t ++ rest) = Text.lines t ++ Text.lines rest := by
  obtain ⟨c, row, others, -, -, split⟩ := exists_rows_of_isEntry h
  have cut (rest : List Char) : linesFrom [] (t.toList ++ rest) =
      (rows t.toList).map withoutReturn ++ linesFrom [] rest := by
    conv_lhs => rw [split]
    exact linesFrom_unlines_append (fun _ => not_mem_of_mem_rows) rest
  have alone := cut []
  rw [List.append_nil, linesFrom, List.isEmpty_nil, if_pos rfl, List.append_nil] at alone
  rw [Text.lines, Text.lines, Text.lines, String.toList_append, cut, alone, List.map_append]

/-- What is printed for an entry depends on that entry alone. -/
theorem join_lines_join (path : String) {entries : List String} (h : ∀ t ∈ entries, IsEntry t) :
    String.join ((Text.lines (String.join entries)).map (line path)) =
      String.join (entries.map (inFile path)) := by
  induction entries with
  | nil => rfl
  | cons t entries ih =>
      obtain ⟨here, later⟩ := List.forall_mem_cons.mp h
      rw [String.join_cons, lines_append here, List.map_append, String.join_append, ih later,
        List.map_cons, String.join_cons, inFile]

theorem flatMap_eq_iff {α β : Type} {f g : α → List β} {as : List α}
    (h : ∀ a ∈ as, (f a).length = (g a).length) :
    as.flatMap f = as.flatMap g ↔ ∀ a ∈ as, f a = g a := by
  induction as with
  | nil => exact iff_of_true rfl fun _ mem => absurd mem List.not_mem_nil
  | cons a as ih =>
      obtain ⟨here, later⟩ := List.forall_mem_cons.mp h
      rw [List.flatMap_cons, List.flatMap_cons, List.forall_mem_cons, ← ih later]
      exact ⟨fun both => List.append_inj both here, fun ⟨first, others⟩ => first ▸ others ▸ rfl⟩

/-- Each entry has the path in front, and nothing else is changed, exactly if the entries are
steady. -/
theorem join_inFile_eq_iff {path : String} (oneLine : '\n' ∉ path.toList) {entries : List String}
    (h : ∀ t ∈ entries, IsEntry t) :
    String.join (entries.map (inFile path)) = String.join (entries.map (path ++ ":" ++ ·)) ↔
      ∀ t ∈ entries, Steady t.toList := by
  have printed : (String.join (entries.map (inFile path))).toList =
      unlines (entries.flatMap fun t =>
        (rows t.toList).map fun row => marked path.toList (withoutReturn row)) := by
    rw [String.toList_join, List.flatMap_map, unlines_flatMap]
    refine List.flatMap_congr fun t mem => ?_
    obtain ⟨c, row, others, -, -, split⟩ := exists_rows_of_isEntry (h t mem)
    exact toList_inFile (fun _ => not_mem_of_mem_rows) split path
  have wanted : (String.join (entries.map (path ++ ":" ++ ·))).toList =
      unlines (entries.flatMap fun t => prefixed path.toList (rows t.toList)) := by
    rw [String.toList_join, List.flatMap_map, unlines_flatMap]
    refine List.flatMap_congr fun t mem => ?_
    obtain ⟨c, row, others, found, -, split⟩ := exists_rows_of_isEntry (h t mem)
    rw [found, unlines_prefixed, ← found, ← split]
    simp
  have printedRows : ∀ row ∈ entries.flatMap fun t =>
      (rows t.toList).map fun row => marked path.toList (withoutReturn row), '\n' ∉ row := by
    intro row mem
    obtain ⟨t, -, inEntry⟩ := List.mem_flatMap.mp mem
    obtain ⟨piece, inRows, rfl⟩ := List.mem_map.mp inEntry
    exact not_mem_marked oneLine (not_mem_withoutReturn (not_mem_of_mem_rows inRows))
  have wantedRows : ∀ row ∈ entries.flatMap fun t => prefixed path.toList (rows t.toList),
      '\n' ∉ row := by
    intro row mem
    obtain ⟨t, -, mem⟩ := List.mem_flatMap.mp mem
    exact not_mem_of_mem_prefixed oneLine (fun _ => not_mem_of_mem_rows) row mem
  rw [← String.toList_inj, printed, wanted]
  refine Iff.trans ⟨unlines_injective printedRows wantedRows, congrArg unlines⟩ ?_
  rw [flatMap_eq_iff fun t _ => by rw [List.length_map, length_prefixed]]
  refine forall₂_congr fun t mem => ?_
  obtain ⟨c, row, others, found, notBlank, split⟩ := exists_rows_of_isEntry (h t mem)
  have lineFree (row : List Char) (mem : row ∈ rows t.toList) : '\n' ∉ row :=
    not_mem_of_mem_rows mem
  rw [found] at lineFree
  obtain ⟨here, later⟩ := List.forall_mem_cons.mp lineFree
  rw [found, map_marked_eq_prefixed_iff notBlank here later, ← found, ← split]

/-- The report on a file prints its entries one after another, each for itself. It prints the path
and then the entry as the report without the path does, for all of them, exactly if each line feed
inside an entry is followed by a blank and none has a carriage return in front of it. -/
theorem toText_prefixes_entries_iff (r : FileReport) (oneLine : '\n' ∉ r.path.toList) :
    r.report.toText = String.join r.report.entries ∧
    r.toText = String.join (r.report.entries.map (inFile r.path)) ∧
    (r.toText = String.join (r.report.entries.map (r.path ++ ":" ++ ·)) ↔
      ∀ t ∈ r.report.entries, Steady t.toList) := by
  have entries : ∀ t ∈ r.report.entries, IsEntry t :=
    fun _ => InspectionReport.isEntry_of_mem_entries
  have each : r.toText = String.join (r.report.entries.map (inFile r.path)) :=
    join_lines_join r.path entries
  exact ⟨InspectionReport.toText_eq_join r.report, each, each ▸ join_inFile_eq_iff oneLine entries⟩

/-- The report on a file with one syntax error. -/
def faultIn (sourceText : String) : FileReport where
  path := "A.java"
  report :=
    { sourceHash := ""
      diagnostics := []
      syntaxErrors := [{
        message := "unexpected input"
        span := { startLine := 1, startCol := 0 }
        sourceText }] }

theorem indentedFault_prefixed_once :
    '\n' ∉ (faultIn "x\n y").path.toList ∧
    (faultIn "x\n y").toText =
      String.join ((faultIn "x\n y").report.entries.map ((faultIn "x\n y").path ++ ":" ++ ·)) := by
  have oneLine : '\n' ∉ (faultIn "x\n y").path.toList := by decide
  have steady : ∀ t ∈ (faultIn "x\n y").report.entries, Steady t.toList := by decide +kernel
  exact ⟨oneLine, (toText_prefixes_entries_iff (faultIn "x\n y") oneLine).2.2.mpr steady⟩

/-- A line inside an entry gets the path, and a carriage return is lost. -/
theorem brokenFault_not_prefixed_once :
    (faultIn "x\ny").toText =
      "A.java:1:1: syntax error: unexpected input near 'x\nA.java:y'\n" ∧
    (faultIn "x\ny").toText ≠
      String.join ((faultIn "x\ny").report.entries.map ((faultIn "x\ny").path ++ ":" ++ ·)) ∧
    (faultIn "x\r\n y").toText ≠
      String.join ((faultIn "x\r\n y").report.entries.map
        ((faultIn "x\r\n y").path ++ ":" ++ ·)) := by
  decide +kernel

end FileReport
end NullSafeEquality
