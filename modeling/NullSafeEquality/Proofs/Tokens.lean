import NullSafeEquality.Proofs.Growth

/-!
The tokens below a node. Blanks and comments are left out, and a string literal is one token whatever
is shown of its inside. Where nothing but blanks stands between the children of each node, a node
without comments has the tokens that its text has.
-/

namespace NullSafeEquality

namespace Text

/-- The characters of a text that are not blank. -/
def squeeze (s : String) : List Char := s.toList.filter fun c => !isBlank c

@[simp] theorem squeeze_append (s t : String) : squeeze (s ++ t) = squeeze s ++ squeeze t := by
  rw [squeeze, String.toList_append, List.filter_append, squeeze, squeeze]

theorem filter_collapseFrom (started pending : Bool) (cs : List Char) :
    (collapseFrom started pending cs).filter (fun c => !isBlank c) =
      cs.filter fun c => !isBlank c := by
  have blank : isBlank ' ' = true := by decide
  induction cs generalizing started pending with
  | nil => rfl
  | cons c rest ih =>
      rw [collapseFrom]
      split
      case isTrue skipped => rw [ih, List.filter_cons_of_neg (by simp [skipped])]
      case isFalse kept =>
        split
        · simp [blank, kept, ih]
        · simp [kept, ih]

@[simp] theorem squeeze_collapse (s : String) : squeeze (collapse s) = squeeze s := by
  rw [collapse, squeeze, String.toList_ofList, filter_collapseFrom, squeeze]

end Text

namespace Grammar

theorem foldl_rowResidues_nil (text : List Char) :
    text.foldl (fun rows c => rows.flatMap (Pattern.rowResidues c)) [] = [] := by
  induction text with
  | nil => rfl
  | cons c rest ih => exact ih

/-- A written token has one text. -/
theorem eq_of_accepts_text {cs text : List Char} (h : accepts (.text cs) text = true) :
    text = cs := by
  induction text generalizing cs with
  | nil =>
      cases cs with
      | nil => rfl
      | cons a rest => cases h
  | cons c text ih =>
      cases cs with
      | nil =>
          have stuck : accepts (.text []) (c :: text) = false := by
            simp [accepts, Pattern.rowResidues, Pattern.residues, Pattern.nullable,
              foldl_rowResidues_nil]
          cases stuck.symm.trans h
      | cons a rest =>
          have step : Pattern.rowResidues c [.text (a :: rest)] =
              if a = c then [if rest.isEmpty then [] else [.text rest]] else [] := by
            by_cases same : a = c
            · simp [Pattern.rowResidues, Pattern.residues, Pattern.nullable, same]
            · simp [Pattern.rowResidues, Pattern.residues, Pattern.nullable, same]
          rw [accepts, List.foldl_cons, List.flatMap_singleton, step] at h
          by_cases same : a = c
          · subst same
            cases rest with
            | nil =>
                cases text with
                | nil => rfl
                | cons d text =>
                    simp [Pattern.rowResidues, foldl_rowResidues_nil] at h
            | cons b rest =>
                rw [if_pos rfl] at h
                rw [ih h]
          · rw [if_neg same, foldl_rowResidues_nil] at h
            cases h

end Grammar

namespace Java

open Grammar SyntaxNode

/-- The kind of literals that are one token. -/
def stringKind : String := "string_literal"

mutual

/-- The tokens at and below a node, without blanks. -/
def tokens (src : Source) : SyntaxNode → List Char
  | .node info children =>
      if children.isEmpty || info.kind == stringKind then
        Text.squeeze (src.between info.start info.stop)
      else tokensOfRow src children

/-- The tokens of all nodes that are no comments. -/
def tokensOfRow (src : Source) : List SyntaxNode → List Char
  | [] => []
  | n :: rest => (if n.info.extra then [] else tokens src n) ++ tokensOfRow src rest

end

/-- Nothing but blanks stands between the children of a node, and no comment in front of them. A
text as a whole may begin with a comment. -/
structure Spaced (src : Source) (n : SyntaxNode) : Prop where
  gaps : n.children ≠ [] → n.kind ≠ stringKind →
    Text.squeeze (n.text src) = n.children.flatMap fun c => Text.squeeze (c.text src)
  front : n.kind ≠ "program" → ∀ c, n.children.head? = some c → c.info.extra = false

variable {src : Source} {n : SyntaxNode}

theorem tokensOfRow_eq (nodes : List SyntaxNode) :
    tokensOfRow src nodes = (nodes.filter fun c => !c.info.extra).flatMap (tokens src) := by
  induction nodes with
  | nil => rfl
  | cons n rest ih =>
      rw [tokensOfRow, ih]
      cases extra : n.info.extra with
      | true => simp [extra]
      | false => simp [extra]

theorem tokens_of_leaf (leaf : n.children = []) : tokens src n = Text.squeeze (n.text src) := by
  obtain ⟨info, children⟩ := n
  cases leaf
  rw [tokens, List.isEmpty_nil, Bool.true_or, if_pos rfl]
  rfl

theorem tokens_of_string (kind : n.kind = stringKind) :
    tokens src n = Text.squeeze (n.text src) := by
  obtain ⟨info, children⟩ := n
  rw [tokens, if_pos (by rw [show info.kind = stringKind from kind, beq_self_eq_true, Bool.or_true])]
  rfl

theorem tokens_of_parts (ne : n.children ≠ []) (kind : n.kind ≠ stringKind) :
    tokens src n = (parts n).flatMap (tokens src) := by
  obtain ⟨info, children⟩ := n
  have inner : (children.isEmpty || info.kind == stringKind) = false := by
    rw [Bool.or_eq_false_iff, List.isEmpty_eq_false_iff, beq_eq_false_iff_ne]
    exact ⟨ne, kind⟩
  rw [tokens, inner, if_neg Bool.false_ne_true, tokensOfRow_eq]
  rfl

/-- The node and all nodes below it are no comments. -/
def NoComment (n : SyntaxNode) : Prop := Everywhere (fun m => m.info.extra = false) n

theorem tokens_eq_squeeze_text (spaced : Everywhere (Spaced src) n) (plain : NoComment n) :
    tokens src n = Text.squeeze (n.text src) := by
  induction n using belowInduction with
  | node n ih =>
      by_cases leaf : n.children = []
      · exact tokens_of_leaf leaf
      by_cases kind : n.kind = stringKind
      · exact tokens_of_string kind
      have whole : parts n = n.children :=
        List.filter_eq_self.mpr fun c hc => by rw [(plain.child hc).here, Bool.not_false]
      rw [tokens_of_parts leaf kind, whole, spaced.here.gaps leaf kind, List.flatMap_def,
        List.flatMap_def]
      refine congrArg List.flatten (List.map_congr_left fun c hc => ?_)
      obtain ⟨i, hi⟩ := List.getElem?_of_mem hc
      exact ih [i] c (List.cons_ne_nil i []) (at?_cons_eq_some_iff.mpr ⟨c, hi, at?_nil c⟩)
        (spaced.child hc) (plain.child hc)

/-- A word that the grammar writes under its own name reads so. -/
theorem text_of_word (h : Grown src n) {word : String} (same : n.kind = word)
    (found : grammar.definitions.lookup word = some (.token { pattern := .ofString word }))
    (notRenamed : word ∉ renamedTokens) (notFragment : word ≠ fragmentKind) :
    n.text src = word := by
  subst same
  cases h with
  | written _ _ _ text => exact text
  | renamed _ _ kind => exact (notRenamed kind).elim
  | fragment _ kind _ => exact (notFragment kind).elim
  | construct _ found' _ _ => cases found.symm.trans found'
  | token _ _ found' accepted =>
      cases found.symm.trans found'
      exact String.toList_inj.mp (eq_of_accepts_text accepted)

end Java
end NullSafeEquality
