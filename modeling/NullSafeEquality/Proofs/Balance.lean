import NullSafeEquality.Proofs.Nesting

/-!
Tags counted. Whether a text is a fixture is decided by the numbers of its opening and closing tags:
no beginning of it may close more warnings than it opens, and the whole must close them all. Pieces
counted so are those whose tags pair up, so what is known of pairs holds of every fixture.
-/

namespace NullSafeEquality.Fixture

namespace Piece

def isOpening : Piece → Bool
  | tag (.opening _) _ => true
  | _ => false

def isClosing : Piece → Bool
  | tag .closing _ => true
  | _ => false

end Piece

def opens (ps : List Piece) : Nat := ps.countP Piece.isOpening

def closes (ps : List Piece) : Nat := ps.countP Piece.isClosing

/-- Some beginning of the pieces closes more warnings than it opens and than are open before it. -/
def Excess (depth : Nat) (ps : List Piece) : Prop :=
  ∃ front, front <+: ps ∧ opens front + depth < closes front

/-- As many warnings are closed as are opened, and none before it is opened. -/
structure Balanced (ps : List Piece) : Prop where
  total : closes ps = opens ps
  ordered : ¬ Excess 0 ps

section Counts

variable {c : Char} {descr : Option (List Char)} {text : List Char} {ps qs : List Piece}

@[simp] theorem opens_nil : opens [] = 0 := rfl

@[simp] theorem closes_nil : closes [] = 0 := rfl

@[simp] theorem opens_char : opens (.char c :: ps) = opens ps :=
  List.countP_cons_of_neg (by simp [Piece.isOpening])

@[simp] theorem closes_char : closes (.char c :: ps) = closes ps :=
  List.countP_cons_of_neg (by simp [Piece.isClosing])

@[simp] theorem opens_opening : opens (.tag (.opening descr) text :: ps) = opens ps + 1 :=
  List.countP_cons_of_pos rfl

@[simp] theorem closes_opening : closes (.tag (.opening descr) text :: ps) = closes ps :=
  List.countP_cons_of_neg (by simp [Piece.isClosing])

@[simp] theorem opens_closing : opens (.tag .closing text :: ps) = opens ps :=
  List.countP_cons_of_neg (by simp [Piece.isOpening])

@[simp] theorem closes_closing : closes (.tag .closing text :: ps) = closes ps + 1 :=
  List.countP_cons_of_pos rfl

@[simp] theorem opens_append : opens (ps ++ qs) = opens ps + opens qs := List.countP_append

@[simp] theorem closes_append : closes (ps ++ qs) = closes ps + closes qs := List.countP_append

end Counts

section Excess

variable {depth : Nat} {c : Char} {descr : Option (List Char)} {text : List Char} {ps : List Piece}

theorem not_excess_nil : ¬ Excess depth [] := by
  rintro ⟨front, begins, more⟩
  cases List.prefix_nil.mp begins
  exact Nat.not_lt_zero _ more

theorem excess_cons {p : Piece} :
    Excess depth (p :: ps) ↔
      ∃ front, front <+: ps ∧ opens (p :: front) + depth < closes (p :: front) := by
  constructor
  · rintro ⟨front, begins, more⟩
    rcases List.prefix_cons_iff.mp begins with rfl | ⟨later, rfl, begins'⟩
    · exact (Nat.not_lt_zero _ more).elim
    · exact ⟨later, begins', more⟩
  · rintro ⟨front, begins, more⟩
    exact ⟨p :: front, List.cons_prefix_cons.mpr ⟨rfl, begins⟩, more⟩

@[simp] theorem excess_char : Excess depth (.char c :: ps) ↔ Excess depth ps := by
  rw [excess_cons]
  simp only [opens_char, closes_char]
  exact Iff.rfl

@[simp] theorem excess_opening :
    Excess depth (.tag (.opening descr) text :: ps) ↔ Excess (depth + 1) ps := by
  rw [excess_cons]
  simp only [opens_opening, closes_opening, Nat.add_right_comm _ 1]
  exact Iff.rfl

theorem excess_closing_zero : Excess 0 (.tag .closing text :: ps) :=
  excess_cons.mpr ⟨[], List.nil_prefix, Nat.zero_lt_one⟩

@[simp] theorem excess_closing_succ :
    Excess (depth + 1) (.tag .closing text :: ps) ↔ Excess depth ps := by
  rw [excess_cons]
  simp only [opens_closing, closes_closing, ← Nat.add_assoc, Nat.add_lt_add_iff_right]
  exact Iff.rfl

end Excess

namespace Nests

variable {before ps : List Piece} {ws : List Warning} {depth : Nat}

theorem excess_append (h : Nests before ps ws) (rest : List Piece) :
    Excess depth (ps ++ rest) ↔ Excess depth rest := by
  induction h generalizing depth rest with
  | nil => exact Iff.rfl
  | char _ ih => exact excess_char.trans (ih rest)
  | pair _ _ ihInside ihBehind =>
      rw [List.cons_append, excess_opening, List.append_assoc, ihInside, List.cons_append,
        excess_closing_succ, ihBehind]

/-- There is one warning for each opening tag. -/
theorem length_eq (h : Nests before ps ws) : ws.length = opens ps := by
  induction h with
  | nil => rfl
  | char _ ih => rw [ih, opens_char]
  | pair _ _ ihInside ihBehind =>
      simp only [List.length_append, List.length_cons, opens_opening, opens_append, opens_closing,
        ihInside, ihBehind]
      omega

theorem balanced (h : Nests before ps ws) : Balanced ps where
  total := by
    induction h with
    | nil => rfl
    | char _ ih => rw [closes_char, opens_char, ih]
    | pair _ _ ihInside ihBehind =>
        simp only [opens_opening, opens_append, opens_closing, closes_opening, closes_append,
          closes_closing, ihInside, ihBehind]
        omega
  ordered := by
    rw [← List.append_nil ps, h.excess_append]
    exact not_excess_nil

end Nests

/-- The pieces behind some others close so many warnings that are open before them, and the tags
between those closing tags pair up. -/
inductive Levels : List Piece → Nat → List Piece → Prop where
  | last {before ps ws} : Nests before ps ws → Levels before 0 ps
  | more {before depth inside closing behind ws} : Nests before inside ws →
      Levels (before ++ (inside ++ [.tag .closing closing])) depth behind →
      Levels before (depth + 1) (inside ++ .tag .closing closing :: behind)

theorem Levels.char {before ps : List Piece} {depth : Nat} {c : Char}
    (h : Levels (before ++ [.char c]) depth ps) : Levels before depth (.char c :: ps) := by
  cases h with
  | last nests => exact .last (.char nests)
  | more nests behind =>
      rw [List.append_assoc] at behind
      exact .more (.char nests) behind

theorem Levels.opening {before ps : List Piece} {depth : Nat} {descr : Option (List Char)}
    {text : List Char} (h : Levels (before ++ [.tag (.opening descr) text]) (depth + 1) ps) :
    Levels before depth (.tag (.opening descr) text :: ps) := by
  cases h with
  | more nests behind =>
      rw [List.append_assoc] at behind
      cases behind with
      | last nests' => exact .last (.pair nests nests')
      | more nests' later =>
          have layers := Levels.more (.pair nests nests') (by simpa using later)
          rwa [List.cons_append, List.append_assoc] at layers

theorem levels_of_not_excess {before ps : List Piece} {depth : Nat} (ordered : ¬ Excess depth ps)
    (total : closes ps = opens ps + depth) : Levels before depth ps := by
  induction ps generalizing before depth with
  | nil =>
      rw [closes_nil, opens_nil, Nat.zero_add] at total
      subst total
      exact .last .nil
  | cons piece ps ih =>
      match piece with
      | .char c =>
          rw [excess_char] at ordered
          rw [closes_char, opens_char] at total
          exact (ih ordered total).char
      | .tag (.opening descr) text =>
          rw [excess_opening] at ordered
          rw [closes_opening, opens_opening] at total
          exact (ih ordered (by omega)).opening
      | .tag .closing text =>
          cases depth with
          | zero => exact (ordered excess_closing_zero).elim
          | succ depth =>
              rw [excess_closing_succ] at ordered
              rw [closes_closing, opens_closing] at total
              exact @Levels.more before depth [] text ps [] .nil (ih ordered (by omega))

theorem Balanced.exists_nests {ps : List Piece} (h : Balanced ps) : ∃ ws, Nests [] ps ws := by
  have levels : Levels [] 0 ps := levels_of_not_excess h.ordered h.total
  cases levels with
  | last nests => exact ⟨_, nests⟩

namespace Progress

/-- A piece moves the number of open tags by what it opens and closes, unless it closes more than
that. -/
theorem step_cases (p : Progress) (piece : Piece) (rest : List Piece) :
    (∃ line, p.step piece = .error (.unmatched line) ∧ Excess p.pending.length (piece :: rest)) ∨
      ∃ next, p.step piece = .ok next ∧
        next.pending.length + closes [piece] = p.pending.length + opens [piece] ∧
        (Excess p.pending.length (piece :: rest) ↔ Excess next.pending.length rest) := by
  match piece with
  | .char c => exact .inr ⟨_, rfl, rfl, excess_char⟩
  | .tag (.opening descr) text => exact .inr ⟨_, rfl, rfl, excess_opening⟩
  | .tag .closing text =>
      cases pending : p.pending with
      | nil => exact .inl ⟨p.rawLineFeeds + 1, by rw [step, pending], excess_closing_zero⟩
      | cons tag tags =>
          exact .inr ⟨_, by rw [step, pending], rfl, excess_closing_succ⟩

/-- To read pieces fails where they close a tag that is not open, and otherwise leaves those open that
they do not close. -/
theorem run_cases (p : Progress) (ps : List Piece) :
    (∃ line, p.run ps = .error (.unmatched line) ∧ Excess p.pending.length ps) ∨
      ∃ q, p.run ps = .ok q ∧ q.pending.length + closes ps = p.pending.length + opens ps ∧
        ¬ Excess p.pending.length ps := by
  induction ps generalizing p with
  | nil => exact .inr ⟨p, rfl, rfl, not_excess_nil⟩
  | cons piece ps ih =>
      rcases step_cases p piece ps with ⟨line, step, excess⟩ | ⟨next, step, count, same⟩
      · exact .inl ⟨line, by rw [run, step], excess⟩
      · rw [same, run, step]
        rcases ih next with ⟨line, run, excess⟩ | ⟨q, run, total, ordered⟩
        · exact .inl ⟨line, run, excess⟩
        · refine .inr ⟨q, run, ?_, ordered⟩
          rw [← List.singleton_append, closes_append, opens_append]
          omega

end Progress

/-- The warning stands among the pieces: its content between an opening tag with its description and
the closing tag that belongs to it. -/
def Warning.PairedIn (ps : List Piece) (w : Warning) : Prop :=
  ∃ opening closing behind,
    ps = w.front ++ .tag (.opening w.descr) opening ::
      (w.content ++ .tag .closing closing :: behind) ∧
    Balanced w.content

/-- Some warnings are those of the pieces: each stands between two tags that belong together, and each
opening tag is that of one of them. -/
structure PairsOf (ps : List Piece) (ws : List Warning) : Prop where
  paired : ∀ w ∈ ws, w.PairedIn ps
  covered : ∀ front descr opening rest, ps = front ++ .tag (.opening descr) opening :: rest →
    ∃ w ∈ ws, w.front = front ∧ w.descr = descr
  length : ws.length = opens ps

/-- What is known of a fixture whose text has these pieces. -/
structure Gives (ps : List Piece) (f : Fixture) : Prop where
  source : f.source = String.ofList (plain ps)
  /-- The expectations are those of the warnings, one for each opening tag, with the text between their
  tags. -/
  expected : ∃ ws, PairsOf ps ws ∧ f.expected.Perm (ws.map Warning.expectation) ∧
    ∀ w ∈ ws, Text.slice? f.source w.expectation.start w.expectation.stop =
      some (String.ofList (plain w.content))
  inside : ∀ v ∈ f.expected, v.start ≤ v.stop ∧ v.stop ≤ Text.byteLength f.source.toList ∧
    Text.Boundary f.source.toList v.start ∧ Text.Boundary f.source.toList v.stop
  nested : f.expected.Pairwise ExpectedWarning.NestedOrApart
  increasing : f.expected.Pairwise ExpectedWarning.RangeLE

namespace Warning.PairedIn

variable {ps : List Piece} {w : Warning}

theorem plain_eq (h : w.PairedIn ps) :
    ∃ rest, plain ps = plain w.front ++ (plain w.content ++ rest) := by
  obtain ⟨opening, closing, behind, rfl, -⟩ := h
  exact ⟨plain behind, by simp⟩

theorem slice?_eq (h : w.PairedIn ps) :
    Text.slice? (String.ofList (plain ps)) w.expectation.start w.expectation.stop =
      some (String.ofList (plain w.content)) := by
  obtain ⟨rest, layout⟩ := h.plain_eq
  rw [layout]
  exact Text.slice?_append _ _ rest

theorem inside (h : w.PairedIn ps) :
    w.expectation.start ≤ w.expectation.stop ∧
      w.expectation.stop ≤ Text.byteLength (plain ps) ∧
      Text.Boundary (plain ps) w.expectation.start ∧
      Text.Boundary (plain ps) w.expectation.stop := by
  obtain ⟨rest, layout⟩ := h.plain_eq
  rw [layout]
  refine ⟨?_, ?_, Text.boundary_byteLength _ _, ?_⟩
  · rw [expectation, Text.byteLength_append]
    exact Nat.le_add_right _ _
  · rw [expectation, ← List.append_assoc, Text.byteLength_append _ rest]
    exact Nat.le_add_right _ _
  · rw [← List.append_assoc]
    exact Text.boundary_byteLength _ rest

end Warning.PairedIn

theorem Nests.pairsOf {ps : List Piece} {ws : List Warning} (h : Nests [] ps ws) : PairsOf ps ws where
  paired w mem := by
    obtain ⟨opening, closing, behind, vs, layout, below⟩ := h.exists_tags mem
    exact ⟨opening, closing, behind, layout, below.balanced⟩
  covered _ _ _ _ layout := h.exists_warning layout
  length := h.length_eq

theorem gives_of_nests {ps : List Piece} {ws : List Warning} (h : Nests [] ps ws) :
    Gives ps
      { source := String.ofList (plain ps)
        expected := (ws.map Warning.expectation).mergeSort notAfter } := by
  have sorted := sortedByRange_mergeSort (ws.map Warning.expectation)
  have pairs := h.pairsOf
  refine ⟨rfl, ⟨ws, pairs, sorted.perm, fun w mem => (pairs.paired w mem).slice?_eq⟩, ?_, ?_,
    sorted.increasing⟩
  · intro v mem
    obtain ⟨w, found, rfl⟩ := List.mem_map.mp (sorted.perm.mem_iff.mp mem)
    rw [String.toList_ofList]
    exact (pairs.paired w found).inside
  · exact (sorted.perm.pairwise_iff fun h => h.symm).mpr h.nestedOrApart

theorem parse_unmatched {text : String} (h : Excess 0 (pieces text.toList)) :
    ∃ line, parse text = .error (.unmatched line) := by
  rcases Progress.run_cases {} (pieces text.toList) with ⟨line, run, -⟩ | ⟨_, -, -, ordered⟩
  · exact ⟨line, by rw [parse, run]⟩
  · exact (ordered h).elim

theorem parse_unclosed {text : String} (ordered : ¬ Excess 0 (pieces text.toList))
    (more : closes (pieces text.toList) < opens (pieces text.toList)) :
    ∃ line, parse text = .error (.unclosed line) := by
  rcases Progress.run_cases {} (pieces text.toList) with ⟨line, -, excess⟩ | ⟨q, run, total, -⟩
  · exact (ordered excess).elim
  · have pending : q.pending ≠ [] := by
      intro none
      rw [none] at total
      simp only [List.length_nil] at total
      omega
    exact ⟨(q.pending.getLast pending).line, by
      simp only [parse, run, List.getLast?_eq_some_getLast pending]⟩

theorem parse_balanced {text : String} (h : Balanced (pieces text.toList)) :
    ∃ f, parse text = .ok f ∧ Gives (pieces text.toList) f := by
  obtain ⟨ws, nests⟩ := h.exists_nests
  exact ⟨_, parse_of_nests nests, gives_of_nests nests⟩

/-- No more is closed than is opened where no beginning closes more. -/
theorem closes_le_opens {ps : List Piece} (ordered : ¬ Excess 0 ps) : closes ps ≤ opens ps :=
  Nat.le_of_not_lt fun more => ordered ⟨ps, List.prefix_rfl, more⟩

/-- Which of the three a text gives is decided by its tags, and a fixture comes with all that is known
of one. -/
theorem parse_decided_by_tags (text : String) :
    ∃ ps, (∀ qs, Reads text.toList qs ↔ qs = ps) ∧
      ((∃ line, parse text = .error (.unmatched line)) ↔ Excess 0 ps) ∧
      (¬ Excess 0 ps →
        ((∃ line, parse text = .error (.unclosed line)) ↔ closes ps < opens ps)) ∧
      (¬ Excess 0 ps → ¬ closes ps < opens ps → ∃ f, parse text = .ok f ∧ Gives ps f) := by
  have balanced (ordered : ¬ Excess 0 (pieces text.toList))
      (closed : ¬ closes (pieces text.toList) < opens (pieces text.toList)) :=
    parse_balanced ⟨Nat.le_antisymm (closes_le_opens ordered) (Nat.le_of_not_lt closed), ordered⟩
  refine ⟨pieces text.toList, fun _ => reads_iff, ⟨?_, parse_unmatched⟩,
    fun ordered => ⟨?_, parse_unclosed ordered⟩, balanced⟩
  · rintro ⟨line, failed⟩
    refine Classical.byContradiction fun ordered => ?_
    by_cases more : closes (pieces text.toList) < opens (pieces text.toList)
    · obtain ⟨line', failed'⟩ := parse_unclosed ordered more
      cases failed.symm.trans failed'
    · obtain ⟨f, found, -⟩ := balanced ordered more
      cases failed.symm.trans found
  · rintro ⟨line, failed⟩
    refine Decidable.byContradiction fun closed => ?_
    obtain ⟨f, found, -⟩ := balanced ordered closed
    cases failed.symm.trans found

end NullSafeEquality.Fixture
