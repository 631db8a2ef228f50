import NullSafeEquality.Fixture.Outcome
import NullSafeEquality.Proofs.Entities
import NullSafeEquality.Proofs.Markup
import NullSafeEquality.Proofs.Order

/-!
A source text with warnings around its own findings. Findings that follow one another cut the text
into parts, so to take the markup out gives the text back with one expectation for each finding, in
the order in which they are compared, and each expectation takes its own finding.
-/

namespace NullSafeEquality

/-- The findings stand in the text, one behind the other: each ends no earlier than it begins, both
ends lie between characters, and none begins before the one in front of it has ended. -/
structure Placed (cs : List Char) (ds : List Diagnostic) : Prop where
  forward : ∀ d ∈ ds, d.span.startByte ≤ d.span.endByte
  start : ∀ d ∈ ds, Text.Boundary cs d.span.startByte
  stop : ∀ d ∈ ds, Text.Boundary cs d.span.endByte
  inOrder : ds.Pairwise fun c d => c.span.Precedes d.span

theorem Placed.tail {cs : List Char} {d : Diagnostic} {ds : List Diagnostic}
    (h : Placed cs (d :: ds)) : Placed cs ds where
  forward e mem := h.forward e (List.mem_cons_of_mem d mem)
  start e mem := h.start e (List.mem_cons_of_mem d mem)
  stop e mem := h.stop e (List.mem_cons_of_mem d mem)
  inOrder := (List.pairwise_cons.mp h.inOrder).2

namespace Java

/-- A source text as an inspection with some parser sees it. -/
def parseWith (parser : Source → SyntaxNode) (text : String) : SourceUnit :=
  let src := Source.ofString text
  unitOf src (parser src)

/-- The findings of an inspection with some parser. -/
def inspectWith (parser : Source → SyntaxNode) (text : String) (config : InspectionConfig) :
    InspectionReport :=
  (parseWith parser text).inspect config

theorem inspectWith_concrete : inspectWith concrete = inspect := rfl

/-- In a text whose tree is laid out in the order of the source and of the grammar's labels the
findings stand one behind the other. -/
theorem placed_diagnostics {parser : Source → SyntaxNode} {text : String}
    (laid : SyntaxNode.Everywhere (SyntaxNode.LaidOut (Source.ofString text).byteAt)
      (parser (Source.ofString text)))
    (ordered : SyntaxNode.Everywhere FieldsInOrder (parser (Source.ofString text)))
    (config : InspectionConfig) :
    Placed text.toList (inspectWith parser text config).diagnostics := by
  have place (d : Diagnostic) (hd : d ∈ (inspectWith parser text config).diagnostics) :
      ∃ path n, (parser (Source.ofString text)).at? path = some n ∧
        d.span = n.span (Source.ofString text) := by
    obtain ⟨path, n, m, hn, hm, rfl⟩ := exists_match_of_mem_diagnostics hd
    have span := ((Expr.recognize?_eq_some_iff_form? config _ m).mp hm).2.2.2
    exact ⟨path, n, hn, span.trans (span_convert n)⟩
  refine ⟨fun d hd => ?_, fun d hd => ?_, fun d hd => ?_, pairwise_diagnostics laid ordered config⟩
  all_goals obtain ⟨path, n, hn, span⟩ := place d hd
  all_goals rw [span]
  · exact (laid.at? hn).here.forward
  · exact Source.boundary_byteAt text n.info.start
  · exact Source.boundary_byteAt text n.info.stop

end Java

namespace Fixture

/-- Inspect the text without markup with some parser and compare with what is expected. -/
def checkWith (parser : Source → SyntaxNode) (f : Fixture) (config : InspectionConfig) :
    FixtureOutcome :=
  f.compare (Java.inspectWith parser f.source config).diagnostics

theorem checkWith_concrete : checkWith Java.concrete = check := rfl

/-- Put a warning around each finding, described by the text beside it. The position counts the bytes
in front of the rest of the source. -/
def annotateFrom (position : Nat) : List (Diagnostic × List Char) → List Char → Option (List Char)
  | [], cs => some cs
  | (d, descr) :: marks, cs => do
      let (front, cs) ← Text.splitAtByte (d.span.startByte - position) cs
      let (part, cs) ← Text.splitAtByte (d.span.endByte - d.span.startByte) cs
      let rest ← annotateFrom d.span.endByte marks cs
      return front ++ warned descr part rest

/-- A source text with a warning around each finding. -/
def annotate (source : String) (marks : List (Diagnostic × List Char)) : Option String :=
  (annotateFrom 0 marks source.toList).map String.ofList

/-- What a fixture expects for a finding. -/
def expectation (cs : List Char) (d : Diagnostic) : ExpectedWarning :=
  { start := d.span.startByte
    stop := d.span.endByte
    line := (Text.splitAtByte d.span.startByte cs).elim 0 (fun (front, _) => Text.lineFeeds front) + 1
    descr := some d.message }

/-- The first finding in the rest of a text cuts it: into what stands in front of it, its own text and
what follows. -/
theorem exists_cut {read cs : List Char} {d : Diagnostic} {ds : List Diagnostic}
    (placed : Placed (read ++ cs) (d :: ds)) (behind : Text.byteLength read ≤ d.span.startByte) :
    ∃ front part rest, cs = front ++ (part ++ rest) ∧
      d.span.startByte = Text.byteLength (read ++ front) ∧
      d.span.endByte = Text.byteLength (read ++ front ++ part) := by
  obtain ⟨front, later, rfl, start⟩ :=
    Text.exists_split_behind (placed.start d List.mem_cons_self) behind
  have stopBoundary := placed.stop d List.mem_cons_self
  rw [← List.append_assoc] at stopBoundary
  obtain ⟨part, rest, rfl, stop⟩ :=
    Text.exists_split_behind stopBoundary (start ▸ placed.forward d List.mem_cons_self)
  exact ⟨front, part, rest, rfl, start, stop⟩

theorem annotateFrom_cons {read front part cs rest : List Char} {d : Diagnostic}
    {descr : List Char} {marks : List (Diagnostic × List Char)}
    (start : d.span.startByte = Text.byteLength (read ++ front))
    (stop : d.span.endByte = Text.byteLength (read ++ front ++ part))
    (next : annotateFrom (Text.byteLength (read ++ front ++ part)) marks cs = some rest) :
    annotateFrom (Text.byteLength read) ((d, descr) :: marks) (front ++ (part ++ cs)) =
      some (front ++ warned descr part rest) := by
  have gap : d.span.startByte - Text.byteLength read = Text.byteLength front := by
    rw [start, Text.byteLength_append, Nat.add_sub_cancel_left]
  have width : d.span.endByte - d.span.startByte = Text.byteLength part := by
    rw [start, stop, Text.byteLength_append _ part, Nat.add_sub_cancel_left]
  rw [← stop] at next
  simp only [annotateFrom, gap, width, Text.splitAtByte_byteLength, next, Option.bind_eq_bind,
    Option.bind_some, Option.pure_def]

theorem expectation_eq {read rest descr : List Char} {d : Diagnostic} {stop : Nat}
    (start : d.span.startByte = Text.byteLength read) (hStop : d.span.endByte = stop)
    (escaped : Escaped d.message.toList descr) :
    expectation (read ++ rest) d =
      OpenTag.closedAt ⟨Text.byteLength read, Text.lineFeeds read + 1, some descr⟩ stop := by
  rw [expectation, start, hStop, Text.splitAtByte_byteLength, OpenTag.closedAt, Option.map_some,
    unescapeChars_of_escaped escaped, String.ofList_toList]
  rfl

/-- The text with the warnings is read as the text, and gives the expectations in the order of the
findings. The induction is on the findings; what is read so far grows. -/
theorem exists_annotated {p : Progress} {read cs : List Char} {expected : List ExpectedWarning}
    {marks : List (Diagnostic × List Char)} (placed : Placed (read ++ cs) (marks.map Prod.fst))
    (behind : ∀ d ∈ marks.map Prod.fst, Text.byteLength read ≤ d.span.startByte)
    (escaped : ∀ m ∈ marks, Escaped m.1.message.toList m.2) (unmarked : Unmarked cs)
    (h : p.Reached read [] expected) :
    ∃ text q, annotateFrom (Text.byteLength read) marks cs = some text ∧
      p.run (pieces text) = .ok q ∧
      q.Reached (read ++ cs) []
        (expected ++ (marks.map Prod.fst).map (expectation (read ++ cs))) := by
  induction marks generalizing p read cs expected with
  | nil =>
      obtain ⟨q, run, reached⟩ := Progress.run_unmarked h unmarked
      exact ⟨cs, q, rfl, run, by rwa [List.map_nil, List.map_nil, List.append_nil]⟩
  | cons mark marks ih =>
      obtain ⟨d, descr⟩ := mark
      obtain ⟨front, part, rest, rfl, start, stop⟩ :=
        exists_cut placed (behind d List.mem_cons_self)
      have here := escaped (d, descr) List.mem_cons_self
      obtain ⟨next, passed, reached⟩ := Progress.run_warned h
        (unmarked.of_infix (List.prefix_append front _).isInfix)
        (unmarked.of_infix ⟨front, rest, by rw [List.append_assoc]⟩) here.unquoted
      have whole : read ++ (front ++ (part ++ rest)) = read ++ front ++ part ++ rest := by
        simp only [List.append_assoc]
      have later (e : Diagnostic) (he : e ∈ marks.map Prod.fst) :
          Text.byteLength (read ++ front ++ part) ≤ e.span.startByte :=
        stop ▸ (List.pairwise_cons.mp placed.inOrder).1 e he
      rw [whole] at placed ⊢
      obtain ⟨text, q, annotated, run, final⟩ := ih placed.tail later
        (fun m mem => escaped m (List.mem_cons_of_mem _ mem))
        (unmarked.of_infix ⟨front ++ part, [], by simp only [List.append_assoc, List.append_nil]⟩)
        reached
      refine ⟨front ++ warned descr part text, q, annotateFrom_cons start stop annotated,
        (passed text).trans run, ?_⟩
      rw [List.map_cons, List.map_cons, List.append_cons, ← whole, ← List.append_assoc read,
        expectation_eq start stop here, List.append_assoc read, whole]
      exact final

theorem compareAll_expectations (cs : List Char) (ds : List Diagnostic) :
    compareAll (ds.map (expectation cs)) ds = { matched := ds.length } := by
  induction ds with
  | nil => rfl
  | cons d ds ih =>
      have own : (expectation cs d).accepts d = true := by
        simp [ExpectedWarning.accepts, expectation]
      have found : (d :: ds).any (expectation cs d).accepts = true := by
        rw [List.any_cons, own, Bool.true_or]
      rw [List.map_cons, compareAll, if_pos found, List.eraseP_cons_of_pos own, ih]
      rfl

theorem notAfter_of_le {v w : ExpectedWarning} (hv : v.start ≤ v.stop) (hw : w.start ≤ w.stop)
    (apart : v.stop ≤ w.start) : notAfter v w = true := by
  simp only [notAfter, Bool.or_eq_true, Bool.and_eq_true, decide_eq_true_iff]
  omega

/-- The expectations come in the order in which a fixture holds them. -/
theorem mergeSort_expectations {cs : List Char} {ds : List Diagnostic} (placed : Placed cs ds) :
    (ds.map (expectation cs)).mergeSort notAfter = ds.map (expectation cs) := by
  refine List.mergeSort_of_pairwise (List.pairwise_map.mpr (placed.inOrder.imp_of_mem ?_))
  exact fun hc hd apart => notAfter_of_le (placed.forward _ hc) (placed.forward _ hd) apart

/-- A source text without markup whose findings stand one behind the other, with a warning around each
of them whose description writes the message with entities, is a fixture. It is the fixture of that
source and of one expectation for each finding, and an inspection of its source meets all of them and
finds nothing else. -/
theorem annotated_findings_pass (parser : Source → SyntaxNode) (source : String)
    (config : InspectionConfig) (marks : List (Diagnostic × List Char))
    (listed : marks.map Prod.fst = (Java.inspectWith parser source config).diagnostics)
    (escaped : ∀ m ∈ marks, Escaped m.1.message.toList m.2)
    (unmarked : Unmarked source.toList)
    (placed : Placed source.toList (Java.inspectWith parser source config).diagnostics) :
    ∃ text f, annotate source marks = some text ∧ parse text = .ok f ∧ f.source = source ∧
      f.expected = (Java.inspectWith parser source config).diagnostics.map
        (expectation source.toList) ∧
      f.checkWith parser config =
        { matched := (Java.inspectWith parser source config).diagnostics.length } ∧
      (f.checkWith parser config).passed = true := by
  rw [← listed] at placed ⊢
  have start : Placed ([] ++ source.toList) (marks.map Prod.fst) := placed
  obtain ⟨text, q, annotated, run, reached⟩ := exists_annotated start
    (fun d _ => Nat.zero_le d.span.startByte) escaped unmarked Progress.reached_start
  have parsed : parse (String.ofList text) =
      .ok { source, expected := (marks.map Prod.fst).map (expectation source.toList) } := by
    rw [parse_eq_ok (by rwa [String.toList_ofList]) reached, List.nil_append, List.nil_append,
      mergeSort_expectations placed, String.ofList_toList]
  have checked : checkWith parser
      { source, expected := (marks.map Prod.fst).map (expectation source.toList) } config =
        { matched := (marks.map Prod.fst).length } := by
    rw [checkWith, compare, ← listed, compareAll_expectations]
  refine ⟨String.ofList text, _, ?_, parsed, rfl, rfl, checked, ?_⟩
  · exact congrArg (Option.map String.ofList) annotated
  · rw [checked]
    rfl

/-- A test with a literal. -/
def literalTestSource : String := "a.equals(\"&\");"

def literalTest : SyntaxNode :=
  .node { kind := "program", start := 0, stop := 14 } [
    .node { kind := "expression_statement", start := 0, stop := 14 } [
      .node { kind := "method_invocation", start := 0, stop := 13 } [
        .node { kind := "identifier", label := some "object", start := 0, stop := 1 } [],
        .node { kind := ".", named := false, start := 1, stop := 2 } [],
        .node { kind := "identifier", label := some "name", start := 2, stop := 8 } [],
        .node { kind := "argument_list", label := some "arguments", start := 8, stop := 13 } [
          .node { kind := "(", named := false, start := 8, stop := 9 } [],
          .node { kind := "string_literal", start := 9, stop := 12 } [
            .node { kind := "\"", named := false, start := 9, stop := 10 } [],
            .node { kind := "string_fragment", start := 10, stop := 11 } [],
            .node { kind := "\"", named := false, start := 11, stop := 12 } []],
          .node { kind := ")", named := false, start := 12, stop := 13 } []]],
      .node { kind := ";", named := false, start := 13, stop := 14 } []]]

/-- Its finding, with entities for the quotes and the ampersand of the literal. -/
def literalMarks : List (Diagnostic × List Char) :=
  (Java.inspectWith (fun _ => literalTest) literalTestSource {}).diagnostics.map fun d =>
    (d, escape d.message.toList)

theorem literalTest_annotation_passes :
    Unmarked literalTestSource.toList ∧
    Placed literalTestSource.toList
      (Java.inspectWith (fun _ => literalTest) literalTestSource {}).diagnostics ∧
    ∃ text f, annotate literalTestSource literalMarks = some text ∧
      text = "<warning descr=\"'a.equals(&quot;&amp;&quot;)' replaceable by 'Objects.equals()' " ++
        "expression\">a.equals(\"&\")</warning>;" ∧
      parse text = .ok f ∧ f.checkWith (fun _ => literalTest) {} = { matched := 1 } := by
  have laid : SyntaxNode.Everywhere
      (SyntaxNode.LaidOut (Source.ofString literalTestSource).byteAt) literalTest := by
    decide +kernel
  have ordered : SyntaxNode.Everywhere Java.FieldsInOrder literalTest := by decide +kernel
  have placed : Placed literalTestSource.toList
      (Java.inspectWith (fun _ => literalTest) literalTestSource {}).diagnostics :=
    Java.placed_diagnostics laid ordered {}
  have unmarked : Unmarked literalTestSource.toList := ⟨by decide +kernel, by decide +kernel⟩
  have listed : literalMarks.map Prod.fst =
      (Java.inspectWith (fun _ => literalTest) literalTestSource {}).diagnostics := by
    rw [literalMarks, List.map_map]
    exact List.map_id _
  have escaped (m : Diagnostic × List Char) (hm : m ∈ literalMarks) :
      Escaped m.1.message.toList m.2 := by
    obtain ⟨d, -, rfl⟩ := List.mem_map.mp hm
    exact escaped_escape d.message.toList
  have marked : annotate literalTestSource literalMarks = some
      ("<warning descr=\"'a.equals(&quot;&amp;&quot;)' replaceable by 'Objects.equals()' " ++
        "expression\">a.equals(\"&\")</warning>;") := by decide +kernel
  have one : (Java.inspectWith (fun _ => literalTest) literalTestSource {}).diagnostics.length =
      1 := by decide +kernel
  obtain ⟨text, f, annotated, parsed, -, -, checked, -⟩ :=
    annotated_findings_pass (fun _ => literalTest) literalTestSource {} literalMarks listed escaped
      unmarked placed
  refine ⟨unmarked, placed, text, f, annotated, ?_, parsed, ?_⟩
  · exact Option.some_inj.mp (annotated.symm.trans marked)
  · rw [checked, one]

end Fixture
end NullSafeEquality
