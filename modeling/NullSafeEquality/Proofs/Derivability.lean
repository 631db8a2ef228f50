import NullSafeEquality.Proofs.Derivation

/-!
A check whether a grammar derives a tree. Run on a row of nodes, a rule leaves each rest that may
remain behind what it shows. The fuel bounds how deep rules and trees are followed; whatever is found
with any amount of it is derived.
-/

namespace NullSafeEquality
namespace Grammar

variable (g : Grammar) (src : Source)

def fits (label : Option String) (kind : String) (named : Bool) (n : SyntaxNode) : Bool :=
  n.info.label == label && n.kind == kind && n.info.named == named && !n.info.extra &&
    !n.info.missing

theorem fits_of_fits {label : Option String} {kind : String} {named : Bool} {n : SyntaxNode}
    (h : fits label kind named n = true) : Fits label kind named n := by
  simp only [fits, Bool.and_eq_true, beq_iff_eq, Bool.not_eq_true'] at h
  obtain ⟨⟨⟨⟨label, kind⟩, named⟩, placed⟩, present⟩ := h
  exact ⟨label, kind, named, placed, present⟩

/-- Is the node a token of a name, with a text that fits? -/
def isTokenOf (ref : String) (n : SyntaxNode) : Bool :=
  match g.definitions.lookup ref with
  | some (.token token) => accepts token.pattern (n.text src).toList
  | _ => false

theorem exists_token_of_isTokenOf {ref : String} {n : SyntaxNode}
    (h : g.isTokenOf src ref n = true) :
    ∃ token, g.definitions.lookup ref = some (.token token) ∧
      accepts token.pattern (n.text src).toList = true := by
  unfold isTokenOf at h
  split at h
  case h_1 token found => exact ⟨token, found, h⟩
  case h_2 => cases h

/-- Is each extra child of the node a token that may stand anywhere? -/
def extrasFit (n : SyntaxNode) : Bool :=
  n.children.all fun c => !c.info.extra ||
    (c.info.label.isNone && c.info.named && !c.info.missing && c.children.isEmpty &&
      g.extras.contains c.kind && g.isTokenOf src c.kind c)

theorem isExtra_of_extrasFit {n : SyntaxNode} (h : g.extrasFit src n = true) :
    ∀ c ∈ n.children, c.info.extra = true → IsExtra g src c := by
  intro c hc extra
  have fit := List.all_eq_true.mp h c hc
  simp only [extra, Bool.not_true, Bool.false_or, Bool.and_eq_true, Option.isNone_iff_eq_none,
    Bool.not_eq_true', List.isEmpty_iff, List.contains_iff_mem] at fit
  obtain ⟨⟨⟨⟨⟨label, named⟩, present⟩, leaf⟩, kind⟩, token⟩ := fit
  exact ⟨label, named, extra, present, leaf, kind, g.exists_token_of_isTokenOf src token⟩

/-- What a name leaves, where `inside` says what a body leaves under a label. -/
def restsOfRef (inside : Option String → Rule → List SyntaxNode → List (List SyntaxNode))
    (label name : Option String) (ref : String) (nodes : List SyntaxNode) :
    List (List SyntaxNode) :=
  match g.definitions.lookup ref, name.isSome || g.showsChars ref, nodes with
  | some (.token _), true, n :: rest =>
      if fits label (name.getD ref) true n && n.children.isEmpty && g.isTokenOf src ref n
      then [rest] else []
  | some (.token _), false, _ => [nodes]
  | some (.rule body), true, n :: rest =>
      if fits label (name.getD ref) true n && g.extrasFit src n &&
        (inside none body (parts n)).any List.isEmpty
      then [rest] else []
  | some (.rule body), false, _ => inside label body nodes
  | _, _, _ => []

def rests : Nat → Option String → Option String → Rule → List SyntaxNode → List (List SyntaxNode)
  | 0, _, _, _, _ => []
  | _ + 1, _, _, .blank, nodes => [nodes]
  | _ + 1, _, _, .text _, [] => []
  | _ + 1, label, name, .text token, n :: rest =>
      if fits label (name.getD token) name.isSome n && n.children.isEmpty && n.text src == token
      then [rest] else []
  | fuel + 1, label, name, .ref ref, nodes =>
      g.restsOfRef src (fun label body nodes => rests fuel label none body nodes) label name ref nodes
  | _ + 1, _, _, .seq [], nodes => [nodes]
  | fuel + 1, label, name, .seq (r :: others), nodes =>
      (rests fuel label name r nodes).flatMap (rests fuel label name (.seq others))
  | fuel + 1, label, name, .choice options, nodes =>
      options.flatMap fun r => rests fuel label name r nodes
  | fuel + 1, label, name, .repeat1 body, nodes =>
      (rests fuel label name body nodes).flatMap fun rest =>
        rest :: rests fuel label name (.repeat1 body) rest
  | fuel + 1, _, name, .field label body, nodes => rests fuel (some label) name body nodes
  | fuel + 1, label, _, .renamed kind body, nodes => rests fuel label (some kind) body nodes
  | fuel + 1, label, name, .prec _ _ body, nodes => rests fuel label name body nodes
  | fuel + 1, label, name, .weight _ body, nodes => rests fuel label name body nodes

/-- What a name leaves stands behind what the name shows, if what its body leaves stands behind what
the body shows. -/
theorem exists_shows_of_mem_restsOfRef
    {inside : Option String → Rule → List SyntaxNode → List (List SyntaxNode)}
    (sound : ∀ {label body nodes rest}, rest ∈ inside label body nodes →
      ∃ front, nodes = front ++ rest ∧ Shows g src label none body front)
    {label name : Option String} {ref : String} {nodes rest : List SyntaxNode}
    (h : rest ∈ g.restsOfRef src inside label name ref nodes) :
    ∃ front, nodes = front ++ rest ∧ Shows g src label name (.ref ref) front := by
  unfold restsOfRef at h
  split at h
  case h_1 token n others found shows =>
    rw [List.mem_ite_nil_right, List.mem_singleton] at h
    obtain ⟨fit, rfl⟩ := h
    simp only [Bool.and_eq_true, List.isEmpty_iff] at fit
    obtain ⟨⟨fit, leaf⟩, accepted⟩ := fit
    obtain ⟨token', found', accepted⟩ := g.exists_token_of_isTokenOf src accepted
    rw [← showsName_eq_showsChars] at shows
    exact ⟨[n], rfl, .token found' shows (fits_of_fits fit) leaf accepted⟩
  case h_2 token found hides =>
    rw [List.mem_singleton] at h
    rw [← showsName_eq_showsChars, Bool.or_eq_false_iff] at hides
    cases Option.isSome_eq_false_iff.mp hides.1 |> Option.isNone_iff_eq_none.mp
    exact ⟨[], h.symm, .hiddenToken found hides.2⟩
  case h_3 body n others found shows =>
    rw [List.mem_ite_nil_right, List.mem_singleton] at h
    obtain ⟨fit, rfl⟩ := h
    simp only [Bool.and_eq_true, List.any_eq_true, List.isEmpty_iff] at fit
    obtain ⟨⟨fit, extras⟩, _, mem, rfl⟩ := fit
    obtain ⟨front, whole, shown⟩ := sound mem
    rw [List.append_nil] at whole
    rw [← showsName_eq_showsChars] at shows
    exact ⟨[n], rfl, .construct found shows (fits_of_fits fit)
      (g.isExtra_of_extrasFit src extras) (whole ▸ shown)⟩
  case h_4 body found hides =>
    rw [← showsName_eq_showsChars, Bool.or_eq_false_iff] at hides
    cases Option.isSome_eq_false_iff.mp hides.1 |> Option.isNone_iff_eq_none.mp
    obtain ⟨front, whole, shown⟩ := sound h
    exact ⟨front, whole, .hidden found hides.2 shown⟩
  case h_5 => cases h

/-- What a rest stands behind is shown. -/
theorem exists_shows_of_mem_rests {fuel : Nat} {label name : Option String} {r : Rule}
    {nodes rest : List SyntaxNode} (h : rest ∈ g.rests src fuel label name r nodes) :
    ∃ front, nodes = front ++ rest ∧ Shows g src label name r front := by
  induction fuel generalizing label name r nodes rest with
  | zero => cases h
  | succ fuel ih =>
      cases r with
      | blank =>
          rw [rests, List.mem_singleton] at h
          exact ⟨[], h.symm, .blank⟩
      | text token =>
          cases nodes with
          | nil => cases h
          | cons n others =>
              rw [rests, List.mem_ite_nil_right, List.mem_singleton] at h
              obtain ⟨fit, rfl⟩ := h
              simp only [Bool.and_eq_true, List.isEmpty_iff, beq_iff_eq] at fit
              obtain ⟨⟨fit, leaf⟩, text⟩ := fit
              exact ⟨[n], rfl, .text (fits_of_fits fit) leaf text⟩
      | ref ref =>
          rw [rests] at h
          exact g.exists_shows_of_mem_restsOfRef src (fun taken => ih taken) h
      | seq parts =>
          cases parts with
          | nil =>
              rw [rests, List.mem_singleton] at h
              exact ⟨[], h.symm, .seqNil⟩
          | cons r others =>
              rw [rests, List.mem_flatMap] at h
              obtain ⟨middle, first, later⟩ := h
              obtain ⟨front, rfl, shown⟩ := ih first
              obtain ⟨behind, rfl, shownLater⟩ := ih later
              exact ⟨front ++ behind, (List.append_assoc ..).symm, .seqCons shown shownLater⟩
      | choice options =>
          rw [rests, List.mem_flatMap] at h
          obtain ⟨r, mem, taken⟩ := h
          obtain ⟨front, whole, shown⟩ := ih taken
          exact ⟨front, whole, .choice mem shown⟩
      | repeat1 body =>
          rw [rests, List.mem_flatMap] at h
          obtain ⟨middle, first, later⟩ := h
          obtain ⟨front, rfl, shown⟩ := ih first
          rcases List.mem_cons.mp later with rfl | later
          · exact ⟨front, rfl, .once shown⟩
          · obtain ⟨behind, rfl, shownLater⟩ := ih later
            exact ⟨front ++ behind, (List.append_assoc ..).symm, .again shown shownLater⟩
      | field own body =>
          obtain ⟨front, whole, shown⟩ := ih h
          exact ⟨front, whole, .field shown⟩
      | renamed kind body =>
          obtain ⟨front, whole, shown⟩ := ih h
          exact ⟨front, whole, .renamed shown⟩
      | prec level assoc body =>
          obtain ⟨front, whole, shown⟩ := ih h
          exact ⟨front, whole, .prec shown⟩
      | weight level body =>
          obtain ⟨front, whole, shown⟩ := ih h
          exact ⟨front, whole, .weight shown⟩

def isDerivedWithin (fuel : Nat) (tree : SyntaxNode) : Bool :=
  g.definitions.head?.any fun first =>
    (g.rests src fuel none none (.ref first.1) [tree]).any List.isEmpty

theorem derives_of_isDerivedWithin {fuel : Nat} {tree : SyntaxNode}
    (h : g.isDerivedWithin src fuel tree = true) : Derives g src tree := by
  rw [isDerivedWithin, Option.any_eq_true] at h
  obtain ⟨first, head, found⟩ := h
  simp only [List.any_eq_true, List.isEmpty_iff] at found
  obtain ⟨_, mem, rfl⟩ := found
  obtain ⟨front, whole, shown⟩ := g.exists_shows_of_mem_rests src mem
  rw [List.append_nil] at whole
  exact ⟨first.1, by rw [head, Option.map_some], whole ▸ shown⟩

end Grammar

namespace Java

def written (token : String) (start : Nat) : SyntaxNode :=
  .node { kind := token, named := false, start, stop := start + token.length } []

def word (kind : String) (label : Option String) (start stop : Nat) : SyntaxNode :=
  .node { kind, label, start, stop } []

/-- The tree around a statement behind `class T { void f() { `. -/
def inMethod (statement : SyntaxNode) : SyntaxNode :=
  let stop := statement.info.stop
  .node { kind := "program", start := 0, stop := stop + 4 } [
    .node { kind := "class_declaration", start := 0, stop := stop + 4 } [
      written "class" 0, word "identifier" "name" 6 7,
      .node { kind := "class_body", label := "body", start := 8, stop := stop + 4 } [
        written "\x7b" 8,
        .node { kind := "method_declaration", start := 10, stop := stop + 2 } [
          word "void_type" "type" 10 14, word "identifier" "name" 15 16,
          .node { kind := "formal_parameters", label := "parameters", start := 16, stop := 18 } [
            written "(" 16, written ")" 17],
          .node { kind := "block", label := "body", start := 19, stop := stop + 2 } [
            written "\x7b" 19, statement, written "\x7d" (stop + 1)]],
        written "\x7d" (stop + 3)]]]

end Java
end NullSafeEquality
