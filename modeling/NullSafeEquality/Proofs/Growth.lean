import NullSafeEquality.Java.Conversion
import NullSafeEquality.Proofs.Derivation
import NullSafeEquality.Proofs.SyntaxPaths

/-!
Trees that the grammar derives, node by node. Each node of such a tree is a token, or shows the body
of the rule of its kind; only a few tokens show under another kind than their own.
-/

namespace NullSafeEquality
namespace Java

open Grammar SyntaxNode

/-- Kinds under which tokens show that have another name. -/
def renamedTokens : List String := ["identifier", "type_identifier"]

/-- The kind under which rows of tokens show that do not show themselves. -/
def fragmentKind : String := "multiline_string_fragment"

/-- What a node of a concrete tree is. -/
inductive Grown (src : Source) (n : SyntaxNode) : Prop where
  | written : n.children = [] → n.info.named = false → isCompound n.kind = false →
      n.text src = n.kind → Grown src n
  | renamed : n.children = [] → n.info.named = true → n.kind ∈ renamedTokens → Grown src n
  | token {token} : n.children = [] → n.info.named = true →
      grammar.definitions.lookup n.kind = some (.token token) →
      accepts token.pattern (n.text src).toList = true → Grown src n
  | fragment : n.info.named = true → n.kind = fragmentKind →
      (∀ c ∈ n.children, c.info.extra = true → IsExtra grammar src c) → Grown src n
  | construct {body} : n.info.named = true → grammar.definitions.lookup n.kind = some (.rule body) →
      (∀ c ∈ n.children, c.info.extra = true → IsExtra grammar src c) →
      Shows grammar src none none body (parts n) → Grown src n

/-- May a construct or token have a new name? -/
def mayRename (ref kind : String) : Bool :=
  kind == fragmentKind ||
    match grammar.definitions.lookup ref with
    | some (.token _) => renamedTokens.contains kind
    | _ => false

mutual

/-- Do only tokens and rows of fragments get a new name in a rule, and no written token the kind of
a compound node? -/
def renamesTokens : Rule → Option String → Bool
  | .blank, _ => true
  | .text token, name => name.elim (!isCompound token) renamedTokens.contains
  | .ref ref, name => name.all (mayRename ref)
  | .seq rules, name | .choice rules, name => allRenameTokens rules name
  | .renamed kind body, _ => renamesTokens body (some kind)
  | .repeat1 body, name | .field _ body, name | .prec _ _ body, name | .weight _ body, name =>
      renamesTokens body name

def allRenameTokens : List Rule → Option String → Bool
  | [], _ => true
  | r :: rest, name => renamesTokens r name && allRenameTokens rest name

end

theorem allRenameTokens_eq_true_iff {name : Option String} {rules : List Rule} :
    allRenameTokens rules name = true ↔ ∀ r ∈ rules, renamesTokens r name = true := by
  induction rules with
  | nil => simp [allRenameTokens]
  | cons r rest ih => simp [allRenameTokens, ih]

set_option maxRecDepth 4000 in
theorem renamesTokens_definitions : (grammar.definitions.all fun entry =>
    match entry.2 with
    | .rule body => renamesTokens body none
    | .token _ => true) = true := by
  decide +kernel

theorem renamesTokens_of_lookup {ref : String} {body : Rule}
    (found : grammar.definitions.lookup ref = some (.rule body)) :
    renamesTokens body none = true := by
  obtain ⟨before, after, split, -⟩ := List.lookup_eq_some_iff.mp found
  have mem : (ref, Definition.rule body) ∈ grammar.definitions := by
    rw [split]
    exact List.mem_append_right before List.mem_cons_self
  exact List.all_eq_true.mp renamesTokens_definitions _ mem

variable {src : Source} {n : SyntaxNode}

theorem everywhere_of_leaf {P : SyntaxNode → Prop} (here : P n) (leaf : n.children = []) :
    Everywhere P n := by
  refine Everywhere.of_children here fun c hc => ?_
  rw [leaf] at hc
  cases hc

theorem mem_parts {c : SyntaxNode} (hc : c ∈ n.children) (h : c.info.extra = false) :
    c ∈ parts n :=
  List.mem_filter.mpr ⟨hc, by rw [h]; rfl⟩

theorem grown_of_isExtra (h : IsExtra grammar src n) : Everywhere (Grown src) n := by
  obtain ⟨token, found, accepted⟩ := h.token
  exact everywhere_of_leaf (.token h.leaf h.named found accepted) h.leaf

/-- Every node of a derived tree is grown. -/
theorem everywhere_grown {label name : Option String} {r : Rule} {nodes : List SyntaxNode}
    (h : Shows grammar src label name r nodes) (renames : renamesTokens r name = true) :
    ∀ n ∈ nodes, Everywhere (Grown src) n := by
  induction h with
  | blank | seqNil | hiddenToken _ _ => exact fun _ hn => nomatch hn
  | @text label name token n fits leaf text =>
      rw [List.forall_mem_singleton]
      refine everywhere_of_leaf ?_ leaf
      cases name with
      | none =>
          refine .written leaf fits.named ?_ (text.trans fits.kind.symm)
          rw [fits.kind]
          exact Bool.not_eq_true' _ |>.mp renames
      | some kind =>
          refine .renamed leaf fits.named ?_
          rw [fits.kind]
          exact List.contains_iff_mem.mp renames
  | @token label name ref token n found _ fits leaf accepted =>
      rw [List.forall_mem_singleton]
      refine everywhere_of_leaf ?_ leaf
      cases name with
      | none => exact .token leaf fits.named (fits.kind ▸ found) accepted
      | some kind =>
          rw [renamesTokens, Option.all_some, mayRename, found, Bool.or_eq_true] at renames
          rcases renames with fragment | listed
          · refine .fragment fits.named (fits.kind.trans (eq_of_beq fragment)) fun c hc => ?_
            rw [leaf] at hc
            cases hc
          · refine .renamed leaf fits.named ?_
            rw [fits.kind]
            exact List.contains_iff_mem.mp listed
  | @construct label name ref body n found _ fits extras shown ih =>
      rw [List.forall_mem_singleton]
      have below : ∀ c ∈ n.children, Everywhere (Grown src) c := by
        intro c hc
        cases extra : c.info.extra with
        | true => exact grown_of_isExtra (extras c hc extra)
        | false => exact ih (renamesTokens_of_lookup found) c (mem_parts hc extra)
      refine Everywhere.of_children ?_ below
      cases name with
      | none => exact .construct fits.named (fits.kind ▸ found) extras shown
      | some kind =>
          rw [renamesTokens, Option.all_some, mayRename, found, Bool.or_false] at renames
          exact .fragment fits.named (fits.kind.trans (eq_of_beq renames)) extras
  | hidden found _ _ ih => exact ih (renamesTokens_of_lookup found)
  | seqCons _ _ ihFirst ihOthers =>
      rw [renamesTokens, allRenameTokens, Bool.and_eq_true] at renames
      exact List.forall_mem_append.mpr ⟨ihFirst renames.1, ihOthers renames.2⟩
  | choice mem _ ih => exact ih (allRenameTokens_eq_true_iff.mp renames _ mem)
  | again _ _ ihFirst ihOthers => exact List.forall_mem_append.mpr ⟨ihFirst renames, ihOthers renames⟩
  | once _ ih | field _ ih | renamed _ ih | prec _ ih | weight _ ih => exact ih renames

theorem grown_of_derives {tree : SyntaxNode} (h : Derives grammar src tree) :
    Everywhere (Grown src) tree := by
  obtain ⟨ref, -, shown⟩ := h
  exact everywhere_grown shown rfl tree (List.mem_singleton.mpr rfl)

theorem extras_of_grown (h : Grown src n) :
    ∀ c ∈ n.children, c.info.extra = true → IsExtra grammar src c := by
  have nothing (leaf : n.children = []) :
      ∀ c ∈ n.children, c.info.extra = true → IsExtra grammar src c := by
    rw [leaf]
    exact fun _ hc => nomatch hc
  cases h with
  | written leaf _ _ _ => exact nothing leaf
  | renamed leaf _ _ => exact nothing leaf
  | token leaf _ _ _ => exact nothing leaf
  | fragment _ _ extras => exact extras
  | construct _ _ extras _ => exact extras

/-- A node with children shows the body of the rule of its kind, fragments aside. -/
theorem shown_of_grown {kind : String} (h : Grown src n) (ne : n.children ≠ [])
    (same : n.kind = kind) (notFragment : kind ≠ fragmentKind) {body : Rule}
    (found : grammar.definitions.lookup kind = some (.rule body)) :
    Shows grammar src none none body (parts n) := by
  subst same
  cases h with
  | written leaf _ _ _ => exact (ne leaf).elim
  | renamed leaf _ _ => exact (ne leaf).elim
  | token leaf _ _ _ => exact (ne leaf).elim
  | fragment _ fragment _ => exact (notFragment fragment).elim
  | construct _ found' _ shown =>
      cases found.symm.trans found'
      exact shown

/-- Has a kind a rule of its own? -/
def isRule (kind : String) : Bool :=
  match grammar.definitions.lookup kind with
  | some (.rule _) => true
  | _ => false

theorem leaf_of_kind (h : Grown src n) {kind : String} (same : n.kind = kind)
    (noRule : (isRule kind || kind == fragmentKind) = false) : n.children = [] := by
  subst same
  obtain ⟨noRule, notFragment⟩ := Bool.or_eq_false_iff.mp noRule
  cases h with
  | written leaf _ _ _ => exact leaf
  | renamed leaf _ _ => exact leaf
  | token leaf _ _ _ => exact leaf
  | fragment _ fragment _ => exact (beq_eq_false_iff_ne.mp notFragment fragment).elim
  | construct _ found _ _ =>
      rw [isRule, found] at noRule
      cases noRule

theorem leaf_of_literal (h : Grown src n) {kind : LiteralKind}
    (literal : literalKind? n.kind = some kind) (notString : n.kind ≠ "string_literal") :
    n.children = [] := by
  unfold literalKind? at literal
  split at literal
  case h_11 same => exact (notString same).elim
  case h_13 => cases literal
  all_goals exact leaf_of_kind h ‹_› (by decide)

/-- A node without a name is a token, and its kind is none of the compound ones. -/
theorem leaf_of_unnamed (h : Grown src n) (unnamed : n.info.named = false) :
    n.children = [] ∧ isCompound n.kind = false := by
  cases h with
  | written leaf _ single _ => exact ⟨leaf, single⟩
  | renamed _ named _ | token _ named _ _ | fragment named _ _ | construct named _ _ _ =>
      cases unnamed.symm.trans named

end Java
end NullSafeEquality
