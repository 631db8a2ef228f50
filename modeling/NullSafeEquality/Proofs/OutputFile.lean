import NullSafeEquality.Command.Run

/-!
What a run changes. A text is written to one file at most, the one that the output option names. All
other entries of the folder stay as they are, and what was written is read again.
-/

namespace NullSafeEquality

namespace Folder

variable {f : Folder} {names others : List String} {text path : String}

theorem lookup_put_of_ne (ne : others ≠ names) :
    (f.put names text).entries.lookup others = f.entries.lookup others := by
  have kept (entries : List (List String × Entry)) :
      (entries.filter (·.1 ≠ names)).lookup others = entries.lookup others := by
    induction entries with
    | nil => rfl
    | cons entry rest ih =>
        obtain ⟨key, entry⟩ := entry
        by_cases same : key = names
        · have other : (others == key) = false := by simp [same, ne]
          rw [List.filter_cons_of_neg (by simp [same]), ih, List.lookup_cons, other]
        · rw [List.filter_cons_of_pos (by simp [same]), List.lookup_cons, List.lookup_cons, ih]
  have other : (others == names) = false := by simp [ne]
  rw [put, List.lookup_cons, other]
  exact kept f.entries

theorem entry?_put_self : entry? (f.put names text) names = some (.file text.toUTF8) := by
  simp [ entry?, put]

/-- Folders stand on the way to the names. -/
def InFolders (f : Folder) (names : List String) : Prop :=
  ∀ way, way <+: names → way ≠ names → way ≠ [] → f.entry? way = some .folder

theorem inFolders_concat {part : String} (here : f.entry? names = some .folder)
    (inside : InFolders f names) : InFolders f (names ++ [part]) := by
  intro way leads proper begun
  rcases List.prefix_concat_iff.mp leads with whole | shorter
  · exact (proper whole).elim
  · by_cases same : way = names
    · rw [same, here]
    · exact inside way shorter same begun

theorem inFolders_outward (here : f.entry? names = some .folder) (inside : InFolders f names) :
    InFolders f (outward names) := by
  rw [outward]
  split
  · exact inside
  · split
    · exact inFolders_concat here inside
    · intro way leads proper begun
      have shorter := leads.trans (List.dropLast_prefix names)
      by_cases same : way = names
      · rw [same, here]
      · exact inside way shorter same begun

theorem inFolders_of_follow {parts : List String} {start : List String} (inside : InFolders f start)
    (h : f.follow start parts = .ok names) : InFolders f names := by
  induction parts generalizing start with
  | nil =>
      rw [follow] at h
      cases h
      exact inside
  | cons part rest ih =>
      rw [follow] at h
      split at h
      case h_1 => cases h
      case h_2 here =>
        split at h
        · exact ih inside h
        · split at h
          · exact ih (inFolders_outward here inside) h
          · split at h
            · cases h
            · exact ih (inFolders_concat here inside) h
      case h_3 => cases h

theorem inFolders_of_length_le_one (short : names.length ≤ 1) : InFolders f names := by
  intro way leads proper begun
  have some_name := List.length_pos_iff.mpr begun
  have whole := leads.eq_of_length_le (by omega)
  exact (proper whole).elim

theorem inFolders_of_locate (h : f.locate path = .ok names) : InFolders f names := by
  rw [locate] at h
  split at h
  · cases h
  · split at h
    · cases h
    · refine inFolders_of_follow (inFolders_of_length_le_one ?_) h
      split <;> simp

theorem any_put_of_not_prefix (astray : ¬ others <+: names) :
    ((f.put names text).entries.any fun (o, _) => others.isPrefixOf o) =
      f.entries.any fun (o, _) => others.isPrefixOf o := by
  have first : others.isPrefixOf names = false :=
    Bool.eq_false_iff.mpr fun way => astray (List.isPrefixOf_iff_prefix.mp way)
  rw [put, List.any_cons]
  simp only [first, Bool.false_or, List.any_filter]
  refine congrArg (fun p => f.entries.any p) (funext fun (o, _) => ?_)
  by_cases same : o = names
  · simp [same, first]
  · simp [same]

/-- A text that is put among folders changes no other entry. -/
theorem entry?_put_of_ne (inside : InFolders f names) (ne : others ≠ names) :
    entry? (f.put names text) others = f.entry? others := by
  cases found : f.entries.lookup others with
  | some entry => simp only [ entry?, lookup_put_of_ne ne, found]
  | none =>
      by_cases way : others <+: names
      · -- What leads to the new entry leads to a folder, before as after.
        have after : entry? (f.put names text) others = some .folder := by
          simp only [ entry?, lookup_put_of_ne ne, found]
          rw [if_pos (by simp [put, way])]
        have before : f.entry? others = some .folder := by
          by_cases empty : others = []
          · subst empty
            simp [ entry?, found, outside?]
          · exact inside others way ne empty
        rw [after, before]
      · simp only [ entry?, lookup_put_of_ne ne, found, any_put_of_not_prefix way]
        rfl

theorem follow_put {parts start : List String} (inside : InFolders f names)
    (noFolder : f.entry? names ≠ some .folder) (h : f.follow start parts = .ok names) :
    (f.put names text).follow start parts = .ok names := by
  induction parts generalizing start with
  | nil =>
      rw [follow] at h ⊢
      exact h
  | cons part rest ih =>
      rw [follow] at h
      split at h
      case h_1 => cases h
      case h_2 here =>
        -- A path passes through folders only, so it does not meet the new entry before its end.
        have other : start ≠ names := fun same => noFolder (same ▸ here)
        rw [follow, entry?_put_of_ne inside other, here]
        split at h
        case isTrue stays => exact (if_pos stays).trans (ih h)
        case isFalse moves =>
          refine (if_neg moves).trans ?_
          split at h
          case isTrue leaves => exact (if_pos leaves).trans (ih h)
          case isFalse enters =>
            refine (if_neg enters).trans ?_
            split at h
            case isTrue => cases h
            case isFalse short => exact (if_neg short).trans (ih h)
      case h_3 => cases h

theorem locate_put (h : f.locate path = .ok names) (noFolder : f.entry? names ≠ some .folder) :
    (f.put names text).locate path = .ok names := by
  have inside := inFolders_of_locate h
  rw [locate] at h ⊢
  split at h
  case isTrue => cases h
  case isFalse given =>
    rw [if_neg given]
    split at h
    case isTrue => cases h
    case isFalse short =>
      rw [if_neg short]
      exact follow_put inside noFolder h

theorem fromUTF8?_toUTF8 (text : String) : String.fromUTF8? text.toUTF8 = some text :=
  dif_pos text.isValidUTF8

/-- What was put under the names that a path leads to is read from the path. -/
theorem read_put (h : f.locate path = .ok names) (noFolder : f.entry? names ≠ some .folder) :
    (f.put names text).read path = .ok text := by
  have found : (f.put names text).locate path = .ok names := locate_put h noFolder
  simp only [read, found, bind, Except.bind, entry?_put_self, fromUTF8?_toUTF8]

/-- A text that is written to a file goes under the names that the path leads to; one that goes to a
device changes nothing. -/
theorem write_cases {after : Folder} {stream : Option Stream}
    (h : f.write path text = .ok (after, stream)) :
    after = f ∨ ∃ names, f.locate (withoutSlashes path) = .ok names ∧
      f.entry? names ≠ some .folder ∧ after = f.put names text := by
  simp only [write, bind, Except.bind] at h
  split at h
  case h_1 => cases h
  case h_2 names located =>
    split at h
    case isTrue => cases h
    case isFalse =>
      split at h
      case h_1 => cases h
      case h_2 taken _ =>
        cases taken with
        | error error => cases h
        | ok stream =>
            cases h
            exact .inl rfl
      case h_3 found =>
        cases h
        exact .inr ⟨names, located, by rw [found]; nofun, rfl⟩
      case h_4 found =>
        cases h
        exact .inr ⟨names, located, by rw [found]; nofun, rfl⟩

end Folder

namespace Command

variable {s : Surroundings} {args : List String} {said path text : String}
  {answer : Except FileError Unit → Answer}

theorem output_of_deliver {output : Option String} {content stderr : String}
    {verdict : Except Failure Verdict}
    (h : Action.deliver output content stderr verdict = .write said path text answer) :
    output = some path := by
  cases output with
  | none => cases h
  | some path =>
      cases h
      rfl

theorem output_of_check (h : check s args = .write said path text answer) :
    optionValue? args outputOptions = some path := by
  simp only [check] at h
  split at h
  · cases h
  · split at h
    · cases h
    · exact output_of_deliver h

theorem output_of_fixture (h : fixture s args = .write said path text answer) :
    optionValue? args outputOptions = some path := by
  simp only [fixture] at h
  split at h
  · cases h
  · split at h
    · cases h
    · exact output_of_deliver h

theorem output_of_sexp (h : sexp s args = .write said path text answer) :
    optionValue? args outputOptions = some path := by
  simp only [sexp] at h
  split at h
  · cases h
  · split at h
    · cases h
    · exact output_of_deliver h

theorem schema_ne_write : schema args ≠ .write said path text answer := by
  intro h
  simp only [schema] at h
  split at h
  · cases h
  · split at h <;> cases h

/-- A run writes to no file but the one that the output option names. -/
theorem output_of_run (h : run s args = .write said path text answer) :
    ∃ command rest, args = command :: rest ∧ optionValue? rest outputOptions = some path := by
  cases args with
  | nil => cases h
  | cons command rest =>
      refine ⟨command, rest, rfl, ?_⟩
      simp only [run] at h
      split at h
      case h_1 => exact output_of_check h
      case h_2 => exact output_of_fixture h
      case h_3 => exact output_of_sexp h
      case h_4 => exact (schema_ne_write h).elim
      all_goals cases h

/-- A run changes the folder in one way at most: the file that the output option names then holds
the text that was written, and all other entries are as before. -/
theorem runIn_changes_output_only (folder : Folder) (folderName : String) (args : List String)
    {answer : Answer} {after : Folder} (h : runIn folder folderName args = (answer, after)) :
    after = folder ∨ ∃ command rest path names text, args = command :: rest ∧
      optionValue? rest outputOptions = some path ∧
      folder.locate (Folder.withoutSlashes path) = .ok names ∧
      after.read (Folder.withoutSlashes path) = .ok text ∧
      after.entry? names = some (.file text.toUTF8) ∧
      ∀ others, others ≠ names → after.entry? others = folder.entry? others := by
  rw [runIn] at h
  split at h
  case h_1 =>
    cases h
    exact .inl rfl
  case h_2 said path text reply writes =>
    obtain ⟨command, rest, rfl, output⟩ := output_of_run writes
    split at h
    case h_1 stream written =>
      cases h
      rcases Folder.write_cases written with same | ⟨names, located, noFolder, rfl⟩
      · exact .inl same
      · exact .inr ⟨command, rest, path, names, text, rfl, output, located,
          Folder.read_put located noFolder, Folder.entry?_put_self,
          fun others ne => Folder.entry?_put_of_ne (Folder.inFolders_of_locate located) ne⟩
    case h_2 =>
      cases h
      exact .inl rfl

end Command
end NullSafeEquality
