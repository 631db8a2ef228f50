import NullSafeEquality.Proofs.Markup
import NullSafeEquality.Proofs.Ranges

/-!
Pieces whose tags pair up. To read such pieces leaves the tags that were open before them as they
were, and gives one expectation for each pair when its closing tag is read. The range of a pair is
that of the text between its tags, so two ranges nest or do not overlap.
-/

namespace NullSafeEquality.Fixture

/-- The character that a piece adds to the text without markup. -/
def Piece.char? : Piece → Option Char
  | .char c => some c
  | .tag _ _ => none

/-- The text of some pieces without their tags. -/
def plain (ps : List Piece) : List Char := ps.filterMap Piece.char?

@[simp] theorem plain_nil : plain [] = [] := rfl

@[simp] theorem plain_char (c : Char) (ps : List Piece) : plain (.char c :: ps) = c :: plain ps := rfl

@[simp] theorem plain_tag (tag : Tag) (text : List Char) (ps : List Piece) :
    plain (.tag tag text :: ps) = plain ps := rfl

@[simp] theorem plain_append (ps qs : List Piece) : plain (ps ++ qs) = plain ps ++ plain qs :=
  List.filterMap_append

@[simp] theorem plain_map_char (cs : List Char) : plain (cs.map .char) = cs := by
  induction cs with
  | nil => rfl
  | cons c cs ih => rw [List.map_cons, plain_char, ih]

/-- A warning among pieces. -/
structure Warning where
  /-- What stands in front of its opening tag. -/
  front : List Piece
  /-- The description as the tag writes it. -/
  descr : Option (List Char)
  /-- What stands between its tags. -/
  content : List Piece

namespace Warning

/-- What a fixture expects for a warning. -/
def expectation (w : Warning) : ExpectedWarning :=
  { start := Text.byteLength (plain w.front)
    stop := Text.byteLength (plain w.front ++ plain w.content)
    line := Text.lineFeeds (plain w.front) + 1
    descr := w.descr.map fun cs => String.ofList (unescapeChars cs) }

end Warning

/-- The tags of the pieces behind some others pair up, with these warnings in the order of their
closing tags. -/
inductive Nests : List Piece → List Piece → List Warning → Prop where
  | nil {before} : Nests before [] []
  | char {before c ps ws} : Nests (before ++ [.char c]) ps ws → Nests before (.char c :: ps) ws
  | pair {before descr opening closing inside behind ws vs} :
      Nests (before ++ [.tag (.opening descr) opening]) inside ws →
      Nests (before ++ .tag (.opening descr) opening :: (inside ++ [.tag .closing closing]))
        behind vs →
      Nests before (.tag (.opening descr) opening :: (inside ++ .tag .closing closing :: behind))
        (ws ++ ⟨before, descr, inside⟩ :: vs)

namespace Nests

open Progress

variable {before ps : List Piece} {ws : List Warning}

theorem chars {cs : List Char} (h : Nests (before ++ cs.map .char) ps ws) :
    Nests before (cs.map .char ++ ps) ws := by
  induction cs generalizing before with
  | nil => rwa [List.map_nil, List.append_nil] at h
  | cons c cs ih =>
      rw [List.map_cons, List.append_cons] at h
      exact .char (ih h)

/-- To read pieces whose tags pair up adds their text and their expectations. The induction is on the
pairs; the tags open before them stay open. -/
theorem run {p : Progress} {read : List Char} {pending : List OpenTag}
    {expected : List ExpectedWarning} (h : Nests before ps ws) (front : plain before = read)
    (reached : p.Reached read pending expected) :
    ∃ q : Progress, (∀ rest, p.run (ps ++ rest) = q.run rest) ∧
      q.Reached (read ++ plain ps) pending (expected ++ ws.map Warning.expectation) := by
  induction h generalizing p read pending expected with
  | nil => exact ⟨p, fun _ => rfl, by simpa using reached⟩
  | @char before c ps ws _ ih =>
      obtain ⟨next, step, reached⟩ := run_chars reached [c]
      obtain ⟨q, run, reached⟩ := ih (by simp [front]) reached
      refine ⟨q, fun rest => (step (ps ++ rest)).trans (run rest), ?_⟩
      simpa using reached
  | @pair before descr opening closing inside behind ws vs _ _ ihInside ihBehind =>
      obtain ⟨opened, overOpening, reached⟩ := run_opening reached descr opening
      obtain ⟨filled, overInside, reached⟩ := ihInside (by simp [front]) reached
      obtain ⟨closed, overClosing, reached⟩ := run_closing reached closing
      obtain ⟨q, overBehind, reached⟩ := ihBehind (by simp [front]) reached
      refine ⟨q, fun rest => ?_, ?_⟩
      · rw [List.cons_append, List.append_assoc, overOpening, overInside, List.cons_append,
          overClosing, overBehind]
      · simpa [Warning.expectation, OpenTag.closedAt, front] using reached

/-- Each warning stands between its tags, and the tags of its content pair up. -/
theorem exists_tags (h : Nests before ps ws) {w : Warning} (mem : w ∈ ws) :
    ∃ opening closing behind vs,
      before ++ ps = w.front ++ .tag (.opening w.descr) opening ::
        (w.content ++ .tag .closing closing :: behind) ∧
      Nests (w.front ++ [.tag (.opening w.descr) opening]) w.content vs := by
  induction h with
  | nil => cases mem
  | char _ ih =>
      rw [List.append_cons]
      exact ih mem
  | @pair before descr opening closing inside behind _ _ here _ ihInside ihBehind =>
      rcases List.mem_append.mp mem with mem | mem
      · obtain ⟨o, c, rest, vs, layout, below⟩ := ihInside mem
        refine ⟨o, c, rest ++ .tag .closing closing :: behind, vs, ?_, below⟩
        rw [List.append_cons, ← List.append_assoc, layout]
        simp only [List.append_assoc, List.cons_append]
      · rcases List.mem_cons.mp mem with rfl | mem
        · exact ⟨opening, closing, behind, _, rfl, here⟩
        · obtain ⟨o, c, rest, vs, layout, below⟩ := ihBehind mem
          refine ⟨o, c, rest, vs, ?_, below⟩
          rw [← layout]
          simp only [List.append_assoc, List.cons_append, List.nil_append]

/-- Each opening tag is that of a warning. -/
theorem exists_warning (h : Nests before ps ws) {front rest : List Piece}
    {descr : Option (List Char)} {opening : List Char}
    (layout : ps = front ++ .tag (.opening descr) opening :: rest) :
    ∃ w ∈ ws, w.front = before ++ front ∧ w.descr = descr := by
  induction h generalizing front rest with
  | nil => simp at layout
  | char _ ih =>
      cases front with
      | nil => simp at layout
      | cons p front =>
          obtain ⟨rfl, below⟩ := List.cons.inj layout
          obtain ⟨w, mem, place, same⟩ := ih below
          exact ⟨w, mem, by rw [place, ← List.append_cons], same⟩
  | @pair before d o closing inside behind ws vs _ _ ihInside ihBehind =>
      cases front with
      | nil =>
          cases (List.cons.inj layout).1
          exact ⟨_, List.mem_append_right ws List.mem_cons_self, (List.append_nil before).symm, rfl⟩
      | cons p front =>
          obtain ⟨rfl, below⟩ := List.cons.inj layout
          rcases List.append_eq_append_iff.mp below with ⟨more, rfl, tags⟩ | ⟨more, rfl, tags⟩
          · cases more with
            | nil => simp at tags
            | cons p more =>
                obtain ⟨rfl, later⟩ := List.cons.inj tags
                obtain ⟨w, mem, place, same⟩ := ihBehind later
                refine ⟨w, List.mem_append_right ws (List.mem_cons_of_mem _ mem), ?_, same⟩
                rw [place]
                simp only [List.append_assoc, List.cons_append, List.nil_append]
          · cases more with
            | nil => simp at tags
            | cons p more =>
                obtain ⟨rfl, later⟩ := List.cons.inj tags
                obtain ⟨w, mem, place, same⟩ := ihInside rfl
                exact ⟨w, List.mem_append_left _ mem, by rw [place, ← List.append_cons], same⟩

/-- The ranges of the warnings lie in the text of the pieces. -/
theorem within (h : Nests before ps ws) {w : Warning} (mem : w ∈ ws) :
    Text.byteLength (plain before) ≤ w.expectation.start ∧
      w.expectation.start ≤ w.expectation.stop ∧
      w.expectation.stop ≤ Text.byteLength (plain before ++ plain ps) := by
  induction h with
  | nil => cases mem
  | char _ ih =>
      have place := ih mem
      simp only [plain_append, plain_char, plain_nil, Text.byteLength_append,
        Text.byteLength_cons, Text.byteLength_nil] at place ⊢
      omega
  | pair _ _ ihInside ihBehind =>
      rcases List.mem_append.mp mem with mem | mem
      · have place := ihInside mem
        simp only [plain_append, plain_tag, plain_nil, Text.byteLength_append,
          Text.byteLength_nil] at place ⊢
        omega
      · rcases List.mem_cons.mp mem with rfl | mem
        · simp only [Warning.expectation, plain_append, plain_tag, Text.byteLength_append]
          omega
        · have place := ihBehind mem
          simp only [plain_append, plain_tag, plain_nil, Text.byteLength_append,
            Text.byteLength_nil] at place ⊢
          omega

theorem nestedOrApart (h : Nests before ps ws) :
    (ws.map Warning.expectation).Pairwise ExpectedWarning.NestedOrApart := by
  induction h with
  | nil => exact List.Pairwise.nil
  | char _ ih => exact ih
  | @pair before descr opening closing inside behind ws vs first later ihInside ihBehind =>
      rw [List.map_append, List.map_cons, List.pairwise_append, List.pairwise_cons]
      refine ⟨ihInside, ⟨?_, ihBehind⟩, ?_⟩
      · intro v hv
        obtain ⟨v, mem, rfl⟩ := List.mem_map.mp hv
        have place := later.within mem
        simp only [Warning.expectation, ExpectedWarning.NestedOrApart, plain_append, plain_tag,
          Text.byteLength_append] at place ⊢
        omega
      · intro v hv u hu
        obtain ⟨v, mem, rfl⟩ := List.mem_map.mp hv
        have place := first.within mem
        rcases List.mem_cons.mp hu with rfl | hu
        · simp only [Warning.expectation, ExpectedWarning.NestedOrApart, plain_append, plain_tag,
            plain_nil, Text.byteLength_append, Text.byteLength_nil] at place ⊢
          omega
        · obtain ⟨u, mem, rfl⟩ := List.mem_map.mp hu
          have place' := later.within mem
          simp only [Warning.expectation, ExpectedWarning.NestedOrApart, plain_append, plain_tag,
            plain_nil, Text.byteLength_append, Text.byteLength_nil] at place place' ⊢
          omega

end Nests

/-- A text whose tags pair up is a fixture: the text without them, with the expectations in order. -/
theorem parse_of_nests {text : String} {ws : List Warning}
    (h : Nests [] (pieces text.toList) ws) :
    parse text = .ok
      { source := String.ofList (plain (pieces text.toList))
        expected := (ws.map Warning.expectation).mergeSort notAfter } := by
  obtain ⟨q, run, reached⟩ := h.run rfl Progress.reached_start
  have all := run []
  rw [List.append_nil] at all
  exact parse_eq_ok all reached

end NullSafeEquality.Fixture
