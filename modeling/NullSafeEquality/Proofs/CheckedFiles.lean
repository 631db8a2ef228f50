import NullSafeEquality.Command.Run

/-!
A check of several files. Each file is inspected by itself, so what is printed on a list of files and
the status of the whole are put together from what each file gives: the reports in the order of the
files, the sums of the counts, the worst status.
-/

namespace NullSafeEquality.Command

/-- The arguments of a check that asks for these files, with options that load, in one of the two
formats, and has its result printed. -/
structure Asks (s : Surroundings) (config : InspectionConfig) (json : Bool)
    (files args : List String) : Prop where
  files : fileArguments args = files
  config : loadConfig s args = .ok config
  json : hasSwitch args "--json" = json
  toStdout : optionValue? args outputOptions = none

section Files

variable (s : Surroundings) (config : InspectionConfig)

/-- The reports on the files that can be read. -/
def fileReports (files : List String) : List FileReport :=
  files.filterMap fun path => (inspectFile s config path).toOption

/-- The status of a check of one file: 2 if it cannot be read, 1 if something was found in it. -/
def fileStatus (path : String) : Nat :=
  match inspectFile s config path with
  | .error _ => 2
  | .ok r => if r.report.hasDiagnostics then 1 else 0

/-- The worst status of some files. -/
def worst : List String → Nat
  | [] => 0
  | path :: rest => max (fileStatus s config path) (worst rest)

end Files

/-- Number of findings in all reports. -/
def found : List FileReport → Nat
  | [] => 0
  | r :: rest => r.report.diagnostics.length + found rest

def texts (reports : List FileReport) : String := String.join (reports.map FileReport.toText)

def summary (found files : Nat) : String :=
  toString found ++ " replaceable expression(s) in " ++ toString files ++ " file(s)\n"

def arrayText (items : List Json) : String := (Json.array items).pretty ++ "\n"

variable {s : Surroundings} {config : InspectionConfig} {path : String} {files xs ys : List String}

theorem fileReports_append :
    fileReports s config (xs ++ ys) = fileReports s config xs ++ fileReports s config ys :=
  List.filterMap_append

theorem worst_append : worst s config (xs ++ ys) = max (worst s config xs) (worst s config ys) := by
  induction xs with
  | nil => rw [List.nil_append, worst, Nat.zero_max]
  | cons path rest ih => rw [List.cons_append, worst, worst, ih, Nat.max_assoc]

theorem worst_le_two : worst s config files ≤ 2 := by
  induction files with
  | nil => exact Nat.zero_le 2
  | cons path rest ih =>
      refine Nat.max_le.mpr ⟨?_, ih⟩
      rw [fileStatus]
      split
      · exact Nat.le_refl 2
      · split <;> omega

theorem found_append (reports others : List FileReport) :
    found (reports ++ others) = found reports + found others := by
  induction reports with
  | nil => rw [List.nil_append, found, Nat.zero_add]
  | cons r rest ih => rw [List.cons_append, found, found, ih, Nat.add_assoc]

theorem texts_append (reports others : List FileReport) :
    texts (reports ++ others) = texts reports ++ texts others := by
  rw [texts, List.map_append, String.join_append, ← texts, ← texts]

theorem reports_checkFiles (files : List String) :
    (checkFiles s config files).reports = fileReports s config files := by
  induction files with
  | nil => rfl
  | cons path rest ih =>
      rw [checkFiles, fileReports, List.filterMap_cons]
      cases inspectFile s config path with
      | ok report => exact congrArg (report :: ·) ih
      | error error => exact ih

theorem found_eq (r : CheckResult) : r.found = found r.reports := by
  rw [CheckResult.found]
  induction r.reports with
  | nil => rfl
  | cons r rest ih => rw [List.foldr_cons, ih, found]

theorem toText_eq (r : CheckResult) :
    r.toText = texts r.reports ++ summary (found r.reports) r.reports.length := by
  rw [CheckResult.toText, summary, found_eq, texts, String.append_assoc, String.append_assoc,
    String.append_assoc, String.append_assoc, String.append_assoc]

theorem stdout_conclude (stdout stderr : String) (verdict : Except Failure Verdict) :
    (Answer.conclude stdout stderr verdict).stdout = stdout := by
  cases verdict with
  | error failure => rfl
  | ok verdict => cases verdict <;> rfl

theorem status_verdict (stdout stderr : String) (r : CheckResult) :
    (Answer.conclude stdout stderr r.verdict).status =
      if r.failures.isEmpty then if r.reports.any (·.report.hasDiagnostics) then 1 else 0
      else 2 := by
  rw [CheckResult.verdict]
  cases r.failures.isEmpty with
  | false => rfl
  | true => cases r.reports.any (·.report.hasDiagnostics) <;> rfl

/-- A failure outranks findings, wherever either stands in the list. -/
theorem status_checkFiles (stdout stderr : String) (files : List String) :
    (Answer.conclude stdout stderr (checkFiles s config files).verdict).status =
      worst s config files := by
  rw [status_verdict]
  induction files with
  | nil => rfl
  | cons path rest ih =>
      rw [worst, ← ih, fileStatus, checkFiles]
      cases inspectFile s config path with
      | error error =>
          have bound : worst s config rest ≤ 2 := worst_le_two
          rw [← ih] at bound
          exact (Nat.max_eq_left bound).symm
      | ok report =>
          simp only [List.any_cons, Bool.or_eq_true]
          split
          · by_cases here : report.report.hasDiagnostics = true
            · rw [if_pos (Or.inl here), if_pos here]
              split <;> rfl
            · rw [if_neg here, Nat.zero_max]
              simp only [here, Bool.false_eq_true, false_or]
          · split <;> rfl

/-- What a check prints that reports on some files. -/
def printed (json : Bool) (reports : List FileReport) : String :=
  if json then arrayText (reports.map FileReport.toJson)
  else texts reports ++ summary (found reports) reports.length

theorem printed_append (json : Bool) (reports others : List FileReport) :
    printed json (reports ++ others) =
      if json then arrayText (reports.map FileReport.toJson ++ others.map FileReport.toJson)
      else texts reports ++ texts others ++
        summary (found reports + found others) (reports.length + others.length) := by
  rw [printed, List.map_append, texts_append, found_append, List.length_append]

theorem rendered_eq (args : List String) (r : CheckResult) :
    rendered args r.toJson r.toText = printed (hasSwitch args "--json") r.reports := by
  rw [rendered, printed, toText_eq]
  rfl

/-- A check that prints its result answers at once. -/
theorem exists_run_eq_answer {json : Bool} {args : List String}
    (asks : Asks s config json files args) (some : files ≠ []) :
    ∃ stderr, run s ("check" :: args) = .answer (.conclude
      (printed json (fileReports s config files)) stderr (checkFiles s config files).verdict) := by
  obtain ⟨rfl, loads, rfl, toStdout⟩ := asks
  have isEmpty : (fileArguments args).isEmpty = false := List.isEmpty_eq_false_iff.mpr some
  rw [← reports_checkFiles, ← rendered_eq, run, check, isEmpty, loads, toStdout]
  exact ⟨_, rfl⟩

/-- A file that cannot be read leaves the reports on the others as they are. -/
theorem fileReports_of_unread {front back : List String} {error : FileError}
    (unread : s.read path = .error error) :
    fileReports s config (front ++ path :: back) = fileReports s config (front ++ back) := by
  have skipped : (inspectFile s config path).toOption = none := by
    rw [inspectFile, unread]
    rfl
  rw [fileReports, List.filterMap_append, List.filterMap_cons, skipped, ← List.filterMap_append,
    ← fileReports]

/-- A check of two lists of files answers with the worse of the two statuses. It prints the reports
on the first list and then those on the second, with the sums of the counts, or the items of both
arrays in one. A file that cannot be read leaves the other reports and their order as they are. -/
theorem check_append {json : Bool} {xArgs yArgs args : List String}
    (first : Asks s config json xs xArgs) (second : Asks s config json ys yArgs)
    (both : Asks s config json (xs ++ ys) args) (hxs : xs ≠ []) (hys : ys ≠ []) :
    let reports := fileReports s config xs
    let others := fileReports s config ys
    ∃ a b c, run s ("check" :: xArgs) = .answer a ∧ run s ("check" :: yArgs) = .answer b ∧
      run s ("check" :: args) = .answer c ∧
      a.status = worst s config xs ∧ b.status = worst s config ys ∧
      c.status = max a.status b.status ∧
      (if json then
        a.stdout = arrayText (reports.map FileReport.toJson) ∧
        b.stdout = arrayText (others.map FileReport.toJson) ∧
        c.stdout = arrayText (reports.map FileReport.toJson ++ others.map FileReport.toJson)
      else
        a.stdout = texts reports ++ summary (found reports) reports.length ∧
        b.stdout = texts others ++ summary (found others) others.length ∧
        c.stdout = texts reports ++ texts others ++
          summary (found reports + found others) (reports.length + others.length)) ∧
      ∀ front path back error, s.read path = .error error →
        fileReports s config (front ++ path :: back) = fileReports s config (front ++ back) := by
  intro reports others
  obtain ⟨_, runFirst⟩ := exists_run_eq_answer first hxs
  obtain ⟨_, runSecond⟩ := exists_run_eq_answer second hys
  obtain ⟨_, runBoth⟩ := exists_run_eq_answer both (List.append_ne_nil_of_left_ne_nil hxs ys)
  refine ⟨_, _, _, runFirst, runSecond, runBoth, status_checkFiles _ _ _, status_checkFiles _ _ _,
    ?_, ?_, fun _ _ _ _ => fileReports_of_unread⟩
  · rw [status_checkFiles, status_checkFiles, status_checkFiles, worst_append]
  · rw [stdout_conclude, stdout_conclude, stdout_conclude, fileReports_append, printed_append]
    cases json with
    | false => exact ⟨rfl, rfl, rfl⟩
    | true => exact ⟨rfl, rfl, rfl⟩

/-- A folder with one file and without options. -/
def oneFile : Surroundings where
  read := fun path => if path = "A.java" then .ok "class A {}" else .error .notFound
  folderName := "/work"

/-- One list names a file twice, the other one a file that is missing. -/
theorem missingFile_check_append :
    let repeated := ["A.java", "--guarded-only", "A.java"]
    let missing := ["--guarded-only", "B.java", "A.java"]
    let together := ["A.java", "A.java", "B.java", "--guarded-only", "A.java"]
    let reports := fileReports oneFile .guardedOnly ["A.java", "A.java"]
    let others := fileReports oneFile .guardedOnly ["A.java"]
    Asks oneFile .guardedOnly false ["A.java", "A.java"] repeated ∧
    Asks oneFile .guardedOnly false ["B.java", "A.java"] missing ∧
    Asks oneFile .guardedOnly false ["A.java", "A.java", "B.java", "A.java"] together ∧
    oneFile.read "B.java" = .error .notFound ∧
    ∃ a b c, run oneFile ("check" :: repeated) = .answer a ∧
      run oneFile ("check" :: missing) = .answer b ∧
      run oneFile ("check" :: together) = .answer c ∧
      c.status = max a.status b.status ∧ b.status = 2 ∧
      c.stdout = texts reports ++ texts others ++
        summary (found reports + found others) (reports.length + others.length) := by
  intro repeated missing together reports others
  have first : Asks oneFile .guardedOnly false ["A.java", "A.java"] repeated :=
    ⟨by decide +kernel, rfl, by decide +kernel, by decide +kernel⟩
  have second : Asks oneFile .guardedOnly false ["B.java", "A.java"] missing :=
    ⟨by decide +kernel, rfl, by decide +kernel, by decide +kernel⟩
  have both : Asks oneFile .guardedOnly false (["A.java", "A.java"] ++ ["B.java", "A.java"])
      together :=
    ⟨by decide +kernel, rfl, by decide +kernel, by decide +kernel⟩
  obtain ⟨a, b, c, runA, runB, runC, -, status, worse, text, skip⟩ :=
    check_append first second both (by decide) (by decide)
  refine ⟨first, second, both, rfl, a, b, c, runA, runB, runC, worse, ?_, ?_⟩
  · have bound : worst oneFile .guardedOnly ["B.java", "A.java"] ≤ 2 := worst_le_two
    have unread : 2 ≤ worst oneFile .guardedOnly ["B.java", "A.java"] := Nat.le_max_left 2 _
    rw [status]
    exact Nat.le_antisymm bound unread
  · rw [if_neg Bool.false_ne_true] at text
    have others := skip [] "B.java" ["A.java"] .notFound rfl
    rw [List.nil_append, List.nil_append] at others
    rw [others] at text
    exact text.2.2

end NullSafeEquality.Command
