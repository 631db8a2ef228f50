import Mathlib.Data.List.NodupEquivFin
import NullSafeEquality.Command.Arguments

/-!
Roles of the arguments of a command by their places. The scan for files passes over the value of an
option before it looks at it, but an option is looked up by its name wherever that stands. The two
agree unless the value of one option is itself the name of an option or of a switch.
-/

namespace NullSafeEquality.Command

/-- What the scan for files takes an argument for. -/
inductive Role where
  | file | option | value | switch
deriving DecidableEq

/-- The role of an argument that is not the value of an option. -/
def ownRole (arg : String) : Role :=
  if valueOptions.contains arg then .option
  else if arg.startsWith "-" then .switch
  else .file

/-- The role of an argument behind one with a known role. -/
def roleBehind (before : Role) (arg : String) : Role :=
  if before = .option then .value else ownRole arg

def rolesFrom : Role → List String → List Role
  | _, [] => []
  | before, arg :: rest => roleBehind before arg :: rolesFrom (roleBehind before arg) rest

/-- The roles of all arguments. The first is no value, as if a file stood in front of it. -/
def roles (args : List String) : List Role := rolesFrom .file args

/-- The options that are looked up, each with its names. -/
def optionNames : List (List String) := [configOptions, outputOptions]

def switches : List String := ["--json", "--guarded-only"]

/-- The place of the first argument that is among some names. -/
def firstOf? (args names : List String) : Option Nat := args.findIdx? names.contains

/-- The argument is what the lookup of an option takes for its value. -/
def UsedAsValue (args : List String) (i : Nat) : Prop :=
  ∃ names ∈ optionNames, ∃ j, firstOf? args names = some j ∧ i = j + 1 ∧ i < args.length

/-- The scan for files or the lookup of an option takes the argument for the name of an option. -/
def ReadAsName (args : List String) (i : Nat) : Prop :=
  (roles args)[i]? = some .option ∨ ∃ names ∈ optionNames, firstOf? args names = some i

def ReadAsSwitch (args : List String) (i : Nat) : Prop := ∃ name ∈ switches, args[i]? = some name

/-- No value of an option is a file, the name of an option or a switch as well. -/
def OneRole (args : List String) : Prop :=
  ∀ i, UsedAsValue args i →
    (roles args)[i]? ≠ some .file ∧ ¬ ReadAsName args i ∧ ¬ ReadAsSwitch args i

/-- What stands behind the option at a place is its value and nothing else: the scan for files takes
the option for one, and no option is looked up where the value stands; or it passes over the option
as the value of another, and then over what looks like a switch and is none. -/
def OnlyValue (args : List String) (j : Nat) (arg : String) : Prop :=
  arg ∉ switches ∧
    ((roles args)[j]? = some .option ∧ (∀ names ∈ optionNames, firstOf? args names ≠ some (j + 1)) ∨
      (roles args)[j]? = some .value ∧ ownRole arg = .switch)

variable {args names : List String} {i j : Nat} {arg : String}

theorem roleBehind_option (arg : String) : roleBehind .option arg = .value := if_pos rfl

theorem roleBehind_of_ne {before : Role} (h : before ≠ .option) (arg : String) :
    roleBehind before arg = ownRole arg :=
  if_neg h

theorem ownRole_eq_option_iff (arg : String) : ownRole arg = .option ↔ arg ∈ valueOptions := by
  simp only [ownRole, List.contains_iff_mem]
  split
  · simp_all
  · split <;> simp_all

theorem ownRole_ne_value (arg : String) : ownRole arg ≠ .value := by
  simp only [ownRole]
  split
  · simp
  · split <;> simp

theorem length_rolesFrom (before : Role) (args : List String) :
    (rolesFrom before args).length = args.length := by
  induction args generalizing before with
  | nil => rfl
  | cons arg rest ih => simp [rolesFrom, ih]

/-- An argument has a role, and the next one has the role that goes with it. -/
theorem getElem?_rolesFrom_succ {before role : Role} (h : (rolesFrom before args)[i]? = some role) :
    (rolesFrom before args)[i + 1]? = args[i + 1]?.map (roleBehind role) := by
  induction args generalizing before i with
  | nil => cases h
  | cons arg rest ih =>
      cases i with
      | zero =>
          cases h
          cases rest <;> rfl
      | succ i => exact ih h

theorem role_of_option_before (h : (roles args)[i]? = some .option)
    (next : args[i + 1]? = some arg) : (roles args)[i + 1]? = some .value := by
  rw [roles, getElem?_rolesFrom_succ h, next, Option.map_some, roleBehind_option]

theorem role_of_value_before (h : (roles args)[i]? = some .value) (next : args[i + 1]? = some arg) :
    (roles args)[i + 1]? = some (ownRole arg) := by
  rw [roles, getElem?_rolesFrom_succ h, next, Option.map_some, roleBehind_of_ne (by decide)]

/-- The name of an option is taken for one unless it is passed over. -/
theorem role_of_mem_valueOptions (here : args[i]? = some arg) (mem : arg ∈ valueOptions) :
    (roles args)[i]? = some .option ∨ (roles args)[i]? = some .value := by
  have name := (ownRole_eq_option_iff arg).mpr mem
  cases i with
  | zero =>
      cases args with
      | nil => cases here
      | cons first rest =>
          cases here
          exact Or.inl (congrArg some ((roleBehind_of_ne (by decide) arg).trans name))
  | succ i =>
      have bound : i < (roles args).length := by
        rw [roles, length_rolesFrom]
        exact Nat.lt_of_succ_lt (List.getElem?_eq_some_iff.mp here).1
      have next : (roles args)[i + 1]? = _ :=
        getElem?_rolesFrom_succ (List.getElem?_eq_getElem bound)
      rw [here, Option.map_some] at next
      by_cases before : (roles args)[i] = .option
      · exact Or.inr (next.trans (congrArg some (before ▸ roleBehind_option arg)))
      · exact Or.inl (next.trans (congrArg some ((roleBehind_of_ne before arg).trans name)))

theorem exists_of_firstOf? (h : firstOf? args names = some j) :
    ∃ arg, args[j]? = some arg ∧ arg ∈ names := by
  obtain ⟨bound, found, -⟩ := List.findIdx?_eq_some_iff_getElem.mp h
  exact ⟨args[j], List.getElem?_eq_getElem bound, List.contains_iff_mem.mp found⟩

theorem mem_valueOptions (h : names ∈ optionNames) (mem : arg ∈ names) : arg ∈ valueOptions := by
  rw [valueOptions, List.mem_append]
  cases h with
  | head => exact Or.inl mem
  | tail _ h => exact Or.inr (List.mem_singleton.mp h ▸ mem)

theorem not_firstOf?_of_not_mem (here : args[i]? = some arg) (h : arg ∉ valueOptions) :
    ∀ names ∈ optionNames, firstOf? args names ≠ some i := by
  intro names hNames first
  obtain ⟨other, there, mem⟩ := exists_of_firstOf? first
  cases here.symm.trans there
  exact h (mem_valueOptions hNames mem)

/-- The scan keeps exactly the arguments that are files. -/
theorem filesFrom_eq (before : Role) (args : List String) :
    filesFrom (before = .option) args =
      ((args.zip (rolesFrom before args)).filter (·.2 = .file)).map Prod.fst := by
  induction args generalizing before with
  | nil => simp [filesFrom]
  | cons arg rest ih =>
      have later := ih (roleBehind before arg)
      by_cases passed : before = .option
      · subst passed
        simpa [filesFrom, rolesFrom, roleBehind_option] using later
      · rw [roleBehind_of_ne passed] at later
        by_cases option : arg ∈ valueOptions
        · simpa [filesFrom, rolesFrom, roleBehind_of_ne passed, passed, option, ownRole] using later
        · by_cases dash : arg.startsWith "-" = true
          · simpa only [filesFrom, rolesFrom, roleBehind_of_ne passed, passed, option, ownRole, dash,
              decide_false, List.contains_iff_mem, if_false, if_true, List.zip_cons_cons,
              List.filter_cons, reduceCtorEq] using later
          · simpa [filesFrom, rolesFrom, roleBehind_of_ne passed, passed, option, ownRole, dash]
              using later

theorem fileArguments_eq (args : List String) :
    fileArguments args = ((args.zip (roles args)).filter (·.2 = .file)).map Prod.fst :=
  filesFrom_eq .file args

/-- The value of an option stands behind the first of its names. -/
theorem optionValue?_eq (args names : List String) :
    optionValue? args names = (firstOf? args names).bind fun j => args[j + 1]? := by
  induction args with
  | nil => rfl
  | cons arg rest ih =>
      by_cases found : names.contains arg = true
      · cases rest <;> simp_all [optionValue?, firstOf?, List.findIdx?_cons]
      · simp_all [optionValue?, firstOf?, List.findIdx?_cons, Option.bind_map]

theorem hasSwitch_iff (args : List String) (name : String) :
    hasSwitch args name = true ↔ ∃ i : Nat, args[i]? = some name := by
  rw [hasSwitch, List.contains_iff_mem, List.mem_iff_getElem?]

theorem exists_place_of_mem_fileArguments (h : arg ∈ fileArguments args) :
    ∃ i : Nat, args[i]? = some arg ∧ (roles args)[i]? = some .file := by
  rw [fileArguments_eq] at h
  obtain ⟨⟨found, role⟩, mem, rfl⟩ := List.mem_map.mp h
  obtain ⟨zipped, file⟩ := List.mem_filter.mp mem
  obtain ⟨i, both⟩ := List.mem_iff_getElem?.mp zipped
  obtain ⟨here, there⟩ := List.getElem?_zip_eq_some.mp both
  exact ⟨i, here, (of_decide_eq_true file : role = .file) ▸ there⟩

theorem onlyValue_of_oneRole (h : OneRole args) (hNames : names ∈ optionNames)
    (first : firstOf? args names = some j) (next : args[j + 1]? = some arg) :
    OnlyValue args j arg := by
  obtain ⟨bound, -⟩ := List.getElem?_eq_some_iff.mp next
  obtain ⟨notFile, notName, notSwitch⟩ := h (j + 1) ⟨names, hNames, j, first, rfl, bound⟩
  obtain ⟨name, here, mem⟩ := exists_of_firstOf? first
  refine ⟨fun mem => notSwitch ⟨arg, mem, next⟩, ?_⟩
  obtain option | passed := role_of_mem_valueOptions here (mem_valueOptions hNames mem)
  · exact Or.inl ⟨option, fun others hOthers other => notName (Or.inr ⟨others, hOthers, other⟩)⟩
  · have role := role_of_value_before passed next
    refine Or.inr ⟨passed, ?_⟩
    cases own : ownRole arg with
    | switch => rfl
    | file => exact absurd (own ▸ role) notFile
    | option => exact absurd (Or.inl (own ▸ role)) notName
    | value => exact absurd own (ownRole_ne_value arg)

theorem oneRole_of_onlyValue
    (h : ∀ names ∈ optionNames, ∀ j arg, firstOf? args names = some j → args[j + 1]? = some arg →
      OnlyValue args j arg) : OneRole args := by
  rintro i ⟨names, hNames, j, first, rfl, bound⟩
  have next := List.getElem?_eq_getElem bound
  obtain ⟨notSwitch, ⟨option, apart⟩ | ⟨passed, own⟩⟩ := h names hNames j _ first next
  · have role := role_of_option_before option next
    refine ⟨by simp [role], ?_, ?_⟩
    · rintro (name | ⟨others, hOthers, other⟩)
      · simp [role] at name
      · exact apart others hOthers other
    · rintro ⟨name, mem, here⟩
      cases next.symm.trans here
      exact notSwitch mem
  · have role := role_of_value_before passed next
    rw [own] at role
    have plain : args[j + 1] ∉ valueOptions := fun mem => by
      simp [(ownRole_eq_option_iff _).mpr mem] at own
    refine ⟨by simp [role], ?_, ?_⟩
    · rintro (name | ⟨others, hOthers, other⟩)
      · simp [role] at name
      · exact not_firstOf?_of_not_mem next plain others hOthers other
    · rintro ⟨name, mem, here⟩
      cases next.symm.trans here
      exact notSwitch mem

/-- It is enough that no argument that is passed over is the name of an option or a switch. -/
theorem oneRole_of_plain_values
    (h : ∀ (i : Nat) (arg : String), (roles args)[i]? = some .value → args[i]? = some arg →
      arg ∉ valueOptions ∧ arg ∉ switches) : OneRole args := by
  refine oneRole_of_onlyValue fun names hNames j arg first next => ?_
  obtain ⟨name, here, mem⟩ := exists_of_firstOf? first
  have option := mem_valueOptions hNames mem
  obtain role | passed := role_of_mem_valueOptions here option
  · obtain ⟨plain, notSwitch⟩ := h (j + 1) arg (role_of_option_before role next) next
    exact ⟨notSwitch, Or.inl ⟨role, not_firstOf?_of_not_mem next plain⟩⟩
  · exact absurd option (h j name passed here).1

/-- The output is no input unless its name is given twice. -/
theorem two_le_count_of_oneRole (h : OneRole args)
    (output : optionValue? args outputOptions = some arg) (input : arg ∈ fileArguments args) :
    2 ≤ args.count arg := by
  rw [optionValue?_eq] at output
  obtain ⟨j, first, next⟩ := Option.bind_eq_some_iff.mp output
  obtain ⟨i, here, file⟩ := exists_place_of_mem_fileArguments input
  obtain ⟨outputBound, there⟩ := List.getElem?_eq_some_iff.mp next
  obtain ⟨inputBound, same⟩ := List.getElem?_eq_some_iff.mp here
  have used : UsedAsValue args (j + 1) :=
    ⟨outputOptions, List.mem_cons_of_mem _ List.mem_cons_self, j, first, rfl, outputBound⟩
  have apart : i ≠ j + 1 := fun equal => (h (j + 1) used).1 (equal ▸ file)
  rw [← List.duplicate_iff_two_le_count, List.duplicate_iff_exists_distinct_get]
  obtain less | more := Nat.lt_or_gt_of_ne apart
  · exact ⟨⟨i, inputBound⟩, ⟨j + 1, outputBound⟩, less, same.symm, there.symm⟩
  · exact ⟨⟨j + 1, outputBound⟩, ⟨i, inputBound⟩, more, there.symm, same.symm⟩

/-- Each argument plays one role exactly if what stands behind the first name of each option is only
its value, which holds if no argument that is passed over is the name of an option or a switch. The
output is then no input unless its name is given twice. -/
theorem oneRole_iff_only_values (args : List String) :
    fileArguments args = ((args.zip (roles args)).filter (·.2 = .file)).map Prod.fst ∧
    (∀ names, optionValue? args names = (firstOf? args names).bind fun j => args[j + 1]?) ∧
    (∀ name, hasSwitch args name = true ↔ ∃ i : Nat, args[i]? = some name) ∧
    (OneRole args ↔ ∀ names ∈ optionNames, ∀ j arg, firstOf? args names = some j →
      args[j + 1]? = some arg → OnlyValue args j arg) ∧
    ((∀ (i : Nat) (arg : String), (roles args)[i]? = some .value → args[i]? = some arg →
      arg ∉ valueOptions ∧ arg ∉ switches) → OneRole args) ∧
    (OneRole args → ∀ path, optionValue? args outputOptions = some path →
      path ∈ fileArguments args → 2 ≤ args.count path) :=
  ⟨fileArguments_eq args, optionValue?_eq args, hasSwitch_iff args,
    ⟨fun h _ hNames _ _ => onlyValue_of_oneRole h hNames, oneRole_of_onlyValue⟩,
    oneRole_of_plain_values, fun h _ => two_le_count_of_oneRole h⟩

/-- The value of one option is the name of another, so that an input is the output as well. -/
theorem hiddenOption_overwrites_input :
    fileArguments ["-c", "-o", "A.java"] = ["A.java"] ∧
    optionValue? ["-c", "-o", "A.java"] outputOptions = some "A.java" ∧
    ¬ OneRole ["-c", "-o", "A.java"] := by
  have file : fileArguments ["-c", "-o", "A.java"] = ["A.java"] := by decide +kernel
  have output : optionValue? ["-c", "-o", "A.java"] outputOptions = some "A.java" := by
    decide +kernel
  refine ⟨file, output, fun h => ?_⟩
  have input : "A.java" ∈ fileArguments ["-c", "-o", "A.java"] := by
    rw [file]
    exact List.mem_cons_self
  have twice := two_le_count_of_oneRole h output input
  exact absurd twice (by decide +kernel)

end NullSafeEquality.Command
