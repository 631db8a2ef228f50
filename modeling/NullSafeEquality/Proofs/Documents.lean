import Mathlib.Data.Option.Basic
import NullSafeEquality.Proofs.Entities
import NullSafeEquality.Proofs.Nesting

/-!
Documents and how they are written. A document is a text with warnings around parts of it, which may
have warnings in them again. However its tags are written, to parse it gives back its text and one
expectation for each of its warnings.
-/

namespace NullSafeEquality.Fixture

/-- A text with warnings in it: a text without any, or what stands in front of the first warning, its
description, its content and what follows it. -/
inductive Document where
  | text (cs : List Char)
  | warning (front : List Char) (descr : Option String) (content rest : Document)

namespace Document

/-- The text without the warnings. -/
def source : Document → List Char
  | text cs => cs
  | warning front _ content rest => front ++ (source content ++ source rest)

/-- What is expected for the warnings of a document that follows some text, in the order of their
closing tags. -/
def expectations : List Char → Document → List ExpectedWarning
  | _, text _ => []
  | read, warning front descr content rest =>
      expectations (read ++ front) content ++
        { start := Text.byteLength (read ++ front)
          stop := Text.byteLength (read ++ front ++ content.source)
          line := Text.lineFeeds (read ++ front) + 1
          descr } :: expectations (read ++ front ++ content.source) rest

end Document

/-- The texts of an opening tag for a warning: any text of a tag without a description, or with one
that writes it with entities. -/
def Describes (descr : Option String) (opening : List Char) : Prop :=
  ∃ written, Spelled (.opening written) opening ∧
    Option.Rel (fun d cs => Escaped d.toList cs) descr written

/-- The texts of a document. -/
inductive Written : Document → List Char → Prop where
  | text {cs} : Unmarked cs → Written (.text cs) cs
  | warning {front descr opening content inside rest behind} : Unmarked front →
      Describes descr opening → Written content inside → Written rest behind →
      Written (.warning front descr content rest)
        (front ++ (opening ++ (inside ++ (closingTag ++ behind))))

theorem descr_of_written {descr : Option String} {written : Option (List Char)}
    (h : Option.Rel (fun d cs => Escaped d.toList cs) descr written) :
    (written.map fun cs => String.ofList (unescapeChars cs)) = descr := by
  cases h with
  | none => rfl
  | some escaped => rw [Option.map_some, unescapeChars_of_escaped escaped, String.ofList_toList]

/-- The text of a document is read as pieces whose tags pair up, with the warnings of the document. -/
theorem Written.nests {doc : Document} {cs : List Char} (h : Written doc cs) {before : List Piece}
    {read rest : List Char} (front : plain before = read) (bracket : AtBracket rest) :
    ∃ ps ws, pieces (cs ++ rest) = ps ++ pieces rest ∧ Nests before ps ws ∧
      plain ps = doc.source ∧ ws.map Warning.expectation = doc.expectations read := by
  induction h generalizing before read rest with
  | @text cs unmarked =>
      refine ⟨cs.map .char, [], pieces_unmarked unmarked bracket, ?_, plain_map_char cs, rfl⟩
      rw [← List.append_nil (cs.map Piece.char)]
      exact Nests.chars .nil
  | @warning text descr opening content inside others behind unmarked describes _ _ ihInside ihBehind =>
      obtain ⟨written, spelled, escaped⟩ := describes
      have atContent : plain (before ++ text.map .char ++ [.tag (.opening written) opening]) =
          read ++ text := by
        simp [front]
      obtain ⟨ps, ws, cutInside, nestsInside, source, expected⟩ :=
        ihInside atContent (atBracket_spelled .closing (behind ++ rest))
      have atRest : plain (before ++ text.map .char ++
          .tag (.opening written) opening :: (ps ++ [.tag .closing closingTag])) =
          read ++ text ++ content.source := by
        simp [front, source]
      obtain ⟨qs, vs, cutBehind, nestsBehind, source', expected'⟩ := ihBehind atRest bracket
      refine ⟨_, _, ?_, Nests.chars (.pair nestsInside nestsBehind), ?_, ?_⟩
      · simp only [List.append_assoc, List.cons_append]
        rw [pieces_unmarked unmarked (atBracket_spelled spelled _), pieces_spelled spelled,
          cutInside, pieces_spelled .closing, cutBehind]
      · simp [source, source', Document.source]
      · simp [Document.expectations, Warning.expectation, expected, expected', front, source,
          descr_of_written escaped]

/-- Parsing inverts writing: from any text of a document come the text without its warnings and, sorted
by their ranges, one expectation for each warning with the bytes of its content, the line where it
begins and its description. -/
theorem parse_written {doc : Document} {text : String} (h : Written doc text.toList) :
    ∃ f, parse text = .ok f ∧ f.source = String.ofList doc.source ∧
      SortedByRange (doc.expectations []) f.expected := by
  have noMore : AtBracket [] := fun _ head => nomatch head
  obtain ⟨ps, ws, cut, nests, source, expected⟩ := h.nests plain_nil noMore
  rw [List.append_nil, show pieces [] = [] from rfl, List.append_nil] at cut
  rw [← cut] at nests source
  refine ⟨_, parse_of_nests nests, ?_, ?_⟩
  · rw [source]
  · rw [expected]
    exact sortedByRange_mergeSort _

/-- A warning with a description inside another one, and two without text. -/
def fourWarnings : Document :=
  .warning "é\n".toList none
    (.warning "b ".toList (some "&lt; <\"") (.text "c".toList) (.text []))
    (.warning "\n".toList none (.text []) (.warning [] (some "") (.text []) (.text [])))

def fourWarningsText : String :=
  "é\n<warning >b <warning\tdescr=\"&amp;lt; <&quot;\"  >c</warning></warning>\n" ++
    "<warning></warning><warning descr=\"\"></warning>"

theorem fourWarnings_written : Written fourWarnings fourWarningsText.toList := by
  have escaped : Escaped "&lt; <\"".toList "&amp;lt; <&quot;".toList := escaped_escape _
  have tab : Blank ['\t'] := by decide
  have space : Blank [' '] := by decide
  have spaces : Blank [' ', ' '] := by decide
  have noBlank : Blank [] := by decide
  have outer : Describes none "<warning >".toList := ⟨_, .bare space, .none⟩
  have inner : Describes (some "&lt; <\"") "<warning\tdescr=\"&amp;lt; <&quot;\"  >".toList :=
    ⟨_, .described (List.cons_ne_nil _ _) tab escaped.unquoted spaces, .some escaped⟩
  have bare : Describes none "<warning>".toList := ⟨_, .bare noBlank, .none⟩
  have empty : Describes (some "") "<warning descr=\"\">".toList :=
    ⟨_, .described (List.cons_ne_nil _ _) space List.not_mem_nil noBlank, .some (escaped_escape [])⟩
  have front : Unmarked "é\n".toList := ⟨by decide +kernel, by decide +kernel⟩
  have above : Unmarked "b ".toList := ⟨by decide +kernel, by decide +kernel⟩
  have within : Unmarked "c".toList := ⟨by decide +kernel, by decide +kernel⟩
  have between : Unmarked "\n".toList := ⟨by decide +kernel, by decide +kernel⟩
  have noText : Unmarked [] := ⟨by decide +kernel, by decide +kernel⟩
  have written := Written.warning front outer
    (.warning above inner (.text within) (.text noText))
    (.warning between bare (.text noText) (.warning noText empty (.text noText) (.text noText)))
  refine Eq.mp (congrArg (Written fourWarnings) ?_) written
  decide +kernel

theorem fourWarnings_parsed :
    Written fourWarnings fourWarningsText.toList ∧
      ∃ f, parse fourWarningsText = .ok f ∧ f.source = "é\nb c\n" ∧
        SortedByRange
          [ { start := 5, stop := 6, line := 2, descr := some "&lt; <\"" },
            { start := 3, stop := 6, line := 2, descr := none },
            { start := 7, stop := 7, line := 3, descr := none },
            { start := 7, stop := 7, line := 3, descr := some "" } ] f.expected := by
  obtain ⟨f, parsed, source, sorted⟩ := parse_written fourWarnings_written
  have text : String.ofList fourWarnings.source = "é\nb c\n" := by decide +kernel
  have listed : fourWarnings.expectations [] =
      [ { start := 5, stop := 6, line := 2, descr := some "&lt; <\"" },
        { start := 3, stop := 6, line := 2, descr := none },
        { start := 7, stop := 7, line := 3, descr := none },
        { start := 7, stop := 7, line := 3, descr := some "" } ] := by decide +kernel
  rw [listed] at sorted
  exact ⟨fourWarnings_written, f, parsed, source.trans text, sorted⟩

end NullSafeEquality.Fixture
