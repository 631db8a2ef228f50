import NullSafeEquality.Proofs.Bytes
import NullSafeEquality.Proofs.Tags

/-!
Texts with markup, read piece by piece. A text that has no beginning of an opening tag and no closing
tag is read as its characters, also when a tag follows it, and an opening tag with a description
without quotes is read as that tag. A warning around a part of a text gives one expectation with the
bytes, the line and the message of that part, and leaves the text as it was.
-/

namespace NullSafeEquality.Fixture

/-- An opening tag with a description. -/
def openingTag (descr : List Char) : List Char :=
  openingStart ++ " descr=\"".toList ++ descr ++ "\">".toList

/-- The text has neither a beginning of an opening tag nor a closing tag. -/
structure Unmarked (cs : List Char) : Prop where
  opening : ¬ openingStart <:+: cs
  closing : ¬ closingTag <:+: cs

theorem Unmarked.of_infix {cs part : List Char} (h : Unmarked cs) (inside : part <:+: cs) :
    Unmarked part :=
  ⟨fun found => h.opening (found.trans inside), fun found => h.closing (found.trans inside)⟩

theorem tag?_eq_none {cs : List Char} (opening : ¬ openingStart <+: cs)
    (closing : ¬ closingTag <+: cs) : tag? cs = none := by
  simp only [tag?_eq, dropBeginning?_eq_none opening, dropBeginning?_eq_none closing,
    Option.map_none]

/-- A text at whose beginning a tag may stand. -/
def AtBracket (cs : List Char) : Prop := ∀ c ∈ cs.head?, c = '<'

/-- A word whose only angle bracket is its first character does not begin in a text without it and
end behind that text. -/
theorem not_prefix_append {word part rest : List Char} (single : '<' ∉ word.tail)
    (absent : ¬ word <:+: part) (bracket : AtBracket rest) (nonempty : part ≠ []) :
    ¬ word <+: part ++ rest := by
  intro begins
  rcases List.prefix_or_prefix_of_prefix begins (List.prefix_append part rest) with inside | beyond
  · exact absent inside.isInfix
  · obtain ⟨behind, rfl⟩ := beyond
    obtain ⟨c, part, rfl⟩ := List.exists_cons_of_ne_nil nonempty
    have follows : behind <+: rest := (List.prefix_append_right_inj _).mp begins
    cases behind with
    | nil =>
        rw [List.append_nil] at absent
        exact absent List.infix_rfl
    | cons d behind =>
        obtain ⟨more, rfl⟩ := follows
        cases bracket d rfl
        exact single (by simp)

theorem pieces_unmarked {part rest : List Char} (h : Unmarked part) (bracket : AtBracket rest) :
    pieces (part ++ rest) = part.map .char ++ pieces rest := by
  induction part with
  | nil => rfl
  | cons c part ih =>
      have text : tag? (c :: (part ++ rest)) = none :=
        tag?_eq_none (not_prefix_append (by decide) h.opening bracket (List.cons_ne_nil c part))
          (not_prefix_append (by decide) h.closing bracket (List.cons_ne_nil c part))
      rw [List.cons_append, pieces_char text, ih (h.of_infix (List.suffix_cons c part).isInfix),
        List.map_cons, List.cons_append]

theorem spelled_openingTag {descr : List Char} (unquoted : '"' ∉ descr) :
    Spelled (.opening (some descr)) (openingTag descr) := by
  have layout : openingTag descr =
      openingStart ++ ([' '] ++ (descriptionStart ++ (descr ++ '"' :: ([] ++ ['>'])))) := by
    rw [openingTag, List.append_assoc, List.append_assoc]
    rfl
  rw [layout]
  exact .described (List.cons_ne_nil _ _) (by decide) unquoted (by decide)

theorem atBracket_spelled {tag : Tag} {text : List Char} (h : Spelled tag text) (rest : List Char) :
    AtBracket (text ++ rest) := by
  intro c head
  rw [List.head?_append, h.head] at head
  exact (Option.some_inj.mp head).symm

/-- The text of a part with a warning around it, and what follows. -/
def warned (descr part rest : List Char) : List Char :=
  openingTag descr ++ (part ++ (closingTag ++ rest))

theorem pieces_warned {front part descr rest : List Char} (hFront : Unmarked front)
    (hPart : Unmarked part) (unquoted : '"' ∉ descr) :
    pieces (front ++ warned descr part rest) =
      front.map .char ++ .tag (.opening (some descr)) (openingTag descr) ::
        (part.map .char ++ .tag .closing closingTag :: pieces rest) := by
  have opening := spelled_openingTag unquoted
  rw [warned, pieces_unmarked hFront (atBracket_spelled opening _), pieces_spelled opening,
    pieces_unmarked hPart (atBracket_spelled .closing rest), pieces_spelled .closing]

/-- The expectation that a closing tag gives for the opening one. -/
def OpenTag.closedAt (tag : OpenTag) (stop : Nat) : ExpectedWarning :=
  { start := tag.start
    stop
    line := tag.line
    descr := tag.descr.map fun cs => String.ofList (unescapeChars cs) }

namespace Progress

/-- What is known once some characters of the text without markup are read. -/
structure Reached (p : Progress) (read : List Char) (pending : List OpenTag)
    (expected : List ExpectedWarning) : Prop where
  source : p.source = read.reverse
  bytes : p.bytes = Text.byteLength read
  lineFeeds : p.lineFeeds = Text.lineFeeds read
  pending : p.pending = pending
  expected : p.expected = expected.reverse

theorem reached_start : Reached {} [] [] [] := ⟨rfl, rfl, rfl, rfl, rfl⟩

variable {p : Progress} {read : List Char} {pending : List OpenTag}
  {expected : List ExpectedWarning}

theorem run_chars (h : Reached p read pending expected) (cs : List Char) :
    ∃ q, (∀ rest, p.run (cs.map .char ++ rest) = q.run rest) ∧
      Reached q (read ++ cs) pending expected := by
  induction cs generalizing p read with
  | nil => exact ⟨p, fun _ => rfl, by rwa [List.append_nil]⟩
  | cons c cs ih =>
      obtain ⟨next, step, reached⟩ : ∃ next, p.step (.char c) = .ok next ∧
          Reached next (read ++ [c]) pending expected := by
        refine ⟨_, rfl, ?_, ?_, ?_, h.pending, h.expected⟩
        · rw [h.source, List.reverse_append]
          rfl
        · rw [h.bytes, Text.byteLength_append]
          rfl
        · rw [h.lineFeeds, Text.lineFeeds, Text.lineFeeds, List.count_append,
            List.count_singleton]
          simp
      obtain ⟨q, run, behind⟩ := ih reached
      refine ⟨q, fun rest => ?_, ?_⟩
      · rw [List.map_cons, List.cons_append, Progress.run, step]
        exact run rest
      · rwa [List.append_cons]

theorem run_opening (h : Reached p read pending expected) (descr : Option (List Char))
    (text : List Char) :
    ∃ q, (∀ rest, p.run (.tag (.opening descr) text :: rest) = q.run rest) ∧
      Reached q read (⟨Text.byteLength read, Text.lineFeeds read + 1, descr⟩ :: pending)
        expected := by
  refine ⟨_, fun _ => rfl, h.source, h.bytes, h.lineFeeds, ?_, h.expected⟩
  rw [h.bytes, h.lineFeeds, h.pending]

theorem run_closing {tag : OpenTag} (h : Reached p read (tag :: pending) expected)
    (text : List Char) :
    ∃ q, (∀ rest, p.run (.tag .closing text :: rest) = q.run rest) ∧
      Reached q read pending (expected ++ [tag.closedAt (Text.byteLength read)]) := by
  obtain ⟨q, step, reached⟩ : ∃ q, p.step (.tag .closing text) = .ok q ∧
      Reached q read pending (expected ++ [tag.closedAt (Text.byteLength read)]) := by
    rw [step, h.pending]
    refine ⟨_, rfl, h.source, h.bytes, h.lineFeeds, rfl, ?_⟩
    rw [h.bytes, h.expected, List.reverse_append]
    rfl
  refine ⟨q, fun rest => ?_, reached⟩
  rw [Progress.run, step]

/-- A part with a warning around it is read as that part, and gives one expectation. -/
theorem run_warned (h : Reached p read pending expected) {front part descr : List Char}
    (hFront : Unmarked front) (hPart : Unmarked part) (unquoted : '"' ∉ descr) :
    ∃ q, (∀ rest, p.run (pieces (front ++ warned descr part rest)) = q.run (pieces rest)) ∧
      Reached q (read ++ front ++ part) pending (expected ++
        [OpenTag.closedAt
          ⟨Text.byteLength (read ++ front), Text.lineFeeds (read ++ front) + 1, some descr⟩
          (Text.byteLength (read ++ front ++ part))]) := by
  obtain ⟨atOpening, toOpening, reached⟩ := run_chars h front
  obtain ⟨inside, overOpening, reached⟩ := run_opening reached (some descr) (openingTag descr)
  obtain ⟨atClosing, toClosing, reached⟩ := run_chars reached part
  obtain ⟨behind, overClosing, reached⟩ := run_closing reached closingTag
  refine ⟨behind, fun rest => ?_, reached⟩
  rw [pieces_warned hFront hPart unquoted, toOpening, overOpening, toClosing, overClosing]

theorem run_unmarked (h : Reached p read pending expected) {cs : List Char} (hcs : Unmarked cs) :
    ∃ q, p.run (pieces cs) = .ok q ∧ Reached q (read ++ cs) pending expected := by
  have noMore : AtBracket [] := fun _ head => nomatch head
  obtain ⟨q, run, reached⟩ := run_chars h cs
  refine ⟨q, ?_, reached⟩
  rw [← List.append_nil cs, pieces_unmarked hcs noMore, run]
  rfl

end Progress

theorem parse_eq_ok {text : String} {p : Progress} {read : List Char}
    {expected : List ExpectedWarning} (run : Progress.run {} (pieces text.toList) = .ok p)
    (h : p.Reached read [] expected) :
    parse text = .ok { source := String.ofList read, expected := expected.mergeSort notAfter } := by
  simp only [parse, run, h.pending, List.getLast?_nil, h.source, h.expected, List.reverse_reverse]

end NullSafeEquality.Fixture
