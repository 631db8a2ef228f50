import NullSafeEquality.Grammar.Numbering
import NullSafeEquality.Parsing.SyntaxNode

/-!
Which concrete trees a grammar allows. A rule shows a row of nodes: a token its own node, a construct
with a name one node over what its body shows, and a construct that does not show whatever its body
shows. Labels and new names are handed down to the nodes that show. Tokens that may stand anywhere
are left out of the row that a body has to show.
-/

namespace NullSafeEquality
namespace Grammar

/-- The node stands in its construct with this label, as a node of this kind. -/
structure Fits (label : Option String) (kind : String) (named : Bool) (n : SyntaxNode) : Prop where
  label : n.info.label = label
  kind : n.kind = kind
  named : n.info.named = named
  placed : n.info.extra = false
  present : n.info.missing = false

/-- The node is a token that may stand anywhere. -/
structure IsExtra (g : Grammar) (src : Source) (n : SyntaxNode) : Prop where
  label : n.info.label = none
  named : n.info.named = true
  extra : n.info.extra = true
  present : n.info.missing = false
  leaf : n.children = []
  kind : n.kind ∈ g.extras
  token : ∃ token, g.definitions.lookup n.kind = some (.token token) ∧
    accepts token.pattern (n.text src).toList = true

/-- The children of a node that are not extra. -/
def parts (n : SyntaxNode) : List SyntaxNode := n.children.filter fun c => !c.info.extra

/-- A rule shows a row of nodes under a label and a new name, where these are given. -/
inductive Shows (g : Grammar) (src : Source) :
    Option String → Option String → Rule → List SyntaxNode → Prop where
  | blank {label name} : Shows g src label name .blank []
  | text {label name token n} : Fits label (name.getD token) name.isSome n → n.children = [] →
      n.text src = token → Shows g src label name (.text token) [n]
  | token {label name ref token n} : g.definitions.lookup ref = some (.token token) →
      (name.isSome || g.showsName ref) = true → Fits label (name.getD ref) true n →
      n.children = [] → accepts token.pattern (n.text src).toList = true →
      Shows g src label name (.ref ref) [n]
  | hiddenToken {label ref token} : g.definitions.lookup ref = some (.token token) →
      g.showsName ref = false → Shows g src label none (.ref ref) []
  | construct {label name ref body n} : g.definitions.lookup ref = some (.rule body) →
      (name.isSome || g.showsName ref) = true → Fits label (name.getD ref) true n →
      (∀ c ∈ n.children, c.info.extra = true → IsExtra g src c) →
      Shows g src none none body (parts n) → Shows g src label name (.ref ref) [n]
  | hidden {label ref body nodes} : g.definitions.lookup ref = some (.rule body) →
      g.showsName ref = false → Shows g src label none body nodes →
      Shows g src label none (.ref ref) nodes
  | seqNil {label name} : Shows g src label name (.seq []) []
  | seqCons {label name r rest first others} : Shows g src label name r first →
      Shows g src label name (.seq rest) others →
      Shows g src label name (.seq (r :: rest)) (first ++ others)
  | choice {label name r options nodes} : r ∈ options → Shows g src label name r nodes →
      Shows g src label name (.choice options) nodes
  | once {label name body nodes} : Shows g src label name body nodes →
      Shows g src label name (.repeat1 body) nodes
  | again {label name body first others} : Shows g src label name body first →
      Shows g src label name (.repeat1 body) others →
      Shows g src label name (.repeat1 body) (first ++ others)
  | field {label name own body nodes} : Shows g src (some own) name body nodes →
      Shows g src label name (.field own body) nodes
  | renamed {label name kind body nodes} : Shows g src label (some kind) body nodes →
      Shows g src label name (.renamed kind body) nodes
  | prec {label name level assoc body nodes} : Shows g src label name body nodes →
      Shows g src label name (.prec level assoc body) nodes
  | weight {label name level body nodes} : Shows g src label name body nodes →
      Shows g src label name (.weight level body) nodes

/-- A grammar's first definition shows the tree. -/
def Derives (g : Grammar) (src : Source) (tree : SyntaxNode) : Prop :=
  ∃ ref, g.definitions.head?.map Prod.fst = some ref ∧ Shows g src none none (.ref ref) [tree]

/-- Does a name show? The same as `showsName`, by the characters. -/
def showsChars (g : Grammar) (name : String) : Bool :=
  !(['_'].isPrefixOf name.toList) && !(['*'].isPrefixOf name.toList) && !g.families.contains name

theorem showsName_eq_showsChars (g : Grammar) (name : String) :
    g.showsName name = g.showsChars name := by
  have starts (c : Char) :
      name.startsWith (String.singleton c) = [c].isPrefixOf name.toList := by
    rw [Bool.eq_iff_iff, List.isPrefixOf_iff_prefix, String.startsWith_string_iff]
    simp
  rw [showsChars, ← starts '_', ← starts '*']
  rfl

section Inversion

variable {g : Grammar} {src : Source} {label name : Option String} {nodes : List SyntaxNode}

@[simp] theorem shows_blank_iff : Shows g src label name .blank nodes ↔ nodes = [] := by
  constructor
  · intro h
    cases h
    rfl
  · rintro rfl
    exact .blank

@[simp] theorem shows_text_iff {token : String} :
    Shows g src label name (.text token) nodes ↔ ∃ n, nodes = [n] ∧
      Fits label (name.getD token) name.isSome n ∧ n.children = [] ∧ n.text src = token := by
  constructor
  · intro h
    cases h with
    | text fits leaf text => exact ⟨_, rfl, fits, leaf, text⟩
  · rintro ⟨n, rfl, fits, leaf, text⟩
    exact .text fits leaf text

theorem shows_token_iff {ref : String} {token : TokenRule}
    (found : g.definitions.lookup ref = some (.token token)) (shows : g.showsChars ref = true) :
    Shows g src label name (.ref ref) nodes ↔ ∃ n, nodes = [n] ∧
      Fits label (name.getD ref) true n ∧ n.children = [] ∧
      accepts token.pattern (n.text src).toList = true := by
  rw [← showsName_eq_showsChars] at shows
  constructor
  · intro h
    cases h with
    | token found' _ fits leaf accepted =>
        cases found.symm.trans found'
        exact ⟨_, rfl, fits, leaf, accepted⟩
    | hiddenToken _ hides => cases shows.symm.trans hides
    | construct found' _ _ _ _ => cases found.symm.trans found'
    | hidden found' _ _ => cases found.symm.trans found'
  · rintro ⟨n, rfl, fits, leaf, accepted⟩
    exact .token found (by rw [shows, Bool.or_true]) fits leaf accepted

theorem shows_construct_iff {ref : String} {body : Rule}
    (found : g.definitions.lookup ref = some (.rule body)) (shows : g.showsChars ref = true) :
    Shows g src label name (.ref ref) nodes ↔ ∃ n, nodes = [n] ∧
      Fits label (name.getD ref) true n ∧
      (∀ c ∈ n.children, c.info.extra = true → IsExtra g src c) ∧
      Shows g src none none body (parts n) := by
  rw [← showsName_eq_showsChars] at shows
  constructor
  · intro h
    cases h with
    | token found' _ _ _ _ => cases found.symm.trans found'
    | hiddenToken found' _ => cases found.symm.trans found'
    | construct found' _ fits extras shown =>
        cases found.symm.trans found'
        exact ⟨_, rfl, fits, extras, shown⟩
    | hidden _ hides _ => cases shows.symm.trans hides
  · rintro ⟨n, rfl, fits, extras, shown⟩
    exact .construct found (by rw [shows, Bool.or_true]) fits extras shown

theorem shows_hidden_iff {ref : String} {body : Rule}
    (found : g.definitions.lookup ref = some (.rule body)) (hides : g.showsChars ref = false) :
    Shows g src label none (.ref ref) nodes ↔ Shows g src label none body nodes := by
  rw [← showsName_eq_showsChars] at hides
  constructor
  · intro h
    cases h with
    | token found' _ _ _ _ => cases found.symm.trans found'
    | hiddenToken found' _ => cases found.symm.trans found'
    | construct _ shows _ _ _ => cases hides.symm.trans shows
    | hidden found' _ shown =>
        cases found.symm.trans found'
        exact shown
  · exact .hidden found hides

@[simp] theorem shows_seq_nil_iff : Shows g src label name (.seq []) nodes ↔ nodes = [] := by
  constructor
  · intro h
    cases h
    rfl
  · rintro rfl
    exact .seqNil

@[simp] theorem shows_seq_cons_iff {r : Rule} {rest : List Rule} :
    Shows g src label name (.seq (r :: rest)) nodes ↔ ∃ first others, nodes = first ++ others ∧
      Shows g src label name r first ∧ Shows g src label name (.seq rest) others := by
  constructor
  · intro h
    cases h with
    | seqCons first others => exact ⟨_, _, rfl, first, others⟩
  · rintro ⟨first, others, rfl, hfirst, hothers⟩
    exact .seqCons hfirst hothers

@[simp] theorem shows_choice_iff {options : List Rule} :
    Shows g src label name (.choice options) nodes ↔
      ∃ r ∈ options, Shows g src label name r nodes := by
  constructor
  · intro h
    cases h with
    | choice mem shown => exact ⟨_, mem, shown⟩
  · rintro ⟨r, mem, shown⟩
    exact .choice mem shown

theorem shows_opt_iff {r : Rule} :
    Shows g src label name (.opt r) nodes ↔ Shows g src label name r nodes ∨ nodes = [] := by
  simp [Rule.opt]

@[simp] theorem shows_field_iff {own : String} {body : Rule} :
    Shows g src label name (.field own body) nodes ↔ Shows g src (some own) name body nodes := by
  constructor
  · intro h
    cases h with
    | field shown => exact shown
  · exact .field

@[simp] theorem shows_renamed_iff {kind : String} {body : Rule} :
    Shows g src label name (.renamed kind body) nodes ↔
      Shows g src label (some kind) body nodes := by
  constructor
  · intro h
    cases h with
    | renamed shown => exact shown
  · exact .renamed

@[simp] theorem shows_prec_iff {level : Int} {assoc : Option Associativity} {body : Rule} :
    Shows g src label name (.prec level assoc body) nodes ↔ Shows g src label name body nodes := by
  constructor
  · intro h
    cases h with
    | prec shown => exact shown
  · exact .prec

@[simp] theorem shows_weight_iff {level : Int} {body : Rule} :
    Shows g src label name (.weight level body) nodes ↔ Shows g src label name body nodes := by
  constructor
  · intro h
    cases h with
    | weight shown => exact shown
  · exact .weight

/-- What holds of no nodes, and of a row in front of which one more body is shown, holds of all that
a repetition shows. -/
theorem repeat_induction {motive : List SyntaxNode → Prop} {body : Rule}
    (once : ∀ nodes, Shows g src label name body nodes → motive nodes)
    (again : ∀ first others, Shows g src label name body first → motive others →
      motive (first ++ others))
    (h : Shows g src label name (.repeat1 body) nodes) : motive nodes := by
  generalize same : Rule.repeat1 body = r at h
  induction h with
  | once shown _ =>
      cases same
      exact once _ shown
  | again first _ _ ih =>
      cases same
      exact again _ _ first (ih once again rfl)
  | _ => cases same

end Inversion

/-- Does a name stand for a token? -/
def isToken (g : Grammar) (ref : String) : Bool :=
  match g.definitions.lookup ref with
  | some (.token _) => true
  | _ => false

/-- Does a rule always show one named node, and that a token if tokens are asked for? -/
def single (g : Grammar) (tokens : Bool) : Nat → Bool → Rule → Bool
  | 0, _, _ => false
  | _ + 1, renamed, .text _ => renamed
  | fuel + 1, renamed, .ref ref =>
      if renamed || g.showsChars ref then !tokens || g.isToken ref
      else
        match g.definitions.lookup ref with
        | some (.rule body) => single g tokens fuel false body
        | _ => false
  | fuel + 1, renamed, .choice options => options.all (single g tokens fuel renamed)
  | fuel + 1, _, .renamed kind body =>
      (!tokens || g.isToken kind) && single g tokens fuel true body
  | fuel + 1, renamed, .prec _ _ body => single g tokens fuel renamed body
  | fuel + 1, renamed, .weight _ body => single g tokens fuel renamed body
  | _ + 1, _, _ => false

/-- The node is a named part with a label. -/
def IsNamed (label : Option String) (n : SyntaxNode) : Prop := Fits label n.kind true n

/-- The node is a token with a name. -/
structure IsWord (g : Grammar) (label : Option String) (n : SyntaxNode) : Prop where
  named : IsNamed label n
  leaf : n.children = []
  kind : g.isToken n.kind = true

theorem exists_named_of_single {g : Grammar} {src : Source} {label name : Option String} {r : Rule}
    {nodes : List SyntaxNode} (h : Shows g src label name r nodes) {tokens : Bool} {fuel : Nat}
    (one : single g tokens fuel name.isSome r = true)
    (new : tokens = true → ∀ kind ∈ name, g.isToken kind = true) :
    ∃ n, nodes = [n] ∧ IsNamed label n ∧ (tokens = true → IsWord g label n) := by
  induction h generalizing fuel with
  | @text label name token n fits leaf _ =>
      cases fuel with
      | zero => cases one
      | succ fuel =>
          obtain ⟨kind, rfl⟩ := Option.isSome_iff_exists.mp one
          have named : IsNamed label n := { fits with kind := rfl }
          exact ⟨n, rfl, named, fun asked => ⟨named, leaf, fits.kind ▸ new asked kind rfl⟩⟩
  | @token label name ref _ n found _ fits leaf _ =>
      have named : IsNamed label n := { fits with kind := rfl }
      refine ⟨n, rfl, named, fun asked => ⟨named, leaf, ?_⟩⟩
      rw [fits.kind]
      cases name with
      | none => rw [Option.getD_none, isToken, found]
      | some kind => exact new asked kind rfl
  | @construct label name ref _ n found shows fits _ _ _ =>
      cases fuel with
      | zero => cases one
      | succ fuel =>
          rw [showsName_eq_showsChars] at shows
          refine ⟨n, rfl, { fits with kind := rfl }, fun asked => ?_⟩
          simp [single, shows, asked, isToken, found] at one
  | hiddenToken found hides =>
      cases fuel with
      | zero => cases one
      | succ fuel =>
          rw [showsName_eq_showsChars] at hides
          simp [single, found, hides] at one
  | hidden found hides _ ih =>
      cases fuel with
      | zero => cases one
      | succ fuel =>
          rw [showsName_eq_showsChars] at hides
          simp only [single, found, hides, Option.isSome_none, Bool.false_or, Bool.false_eq_true,
            if_false] at one
          exact ih one new
  | choice mem _ ih =>
      cases fuel with
      | zero => cases one
      | succ fuel =>
          rw [single, List.all_eq_true] at one
          exact ih (one _ mem) new
  | renamed _ ih =>
      cases fuel with
      | zero => cases one
      | succ fuel =>
          rw [single, Bool.and_eq_true] at one
          refine ih one.2 fun asked kind same => ?_
          cases same
          simpa [asked] using one.1
  | prec _ ih | weight _ ih =>
      cases fuel with
      | zero => cases one
      | succ fuel =>
          rw [single] at one
          exact ih one new
  | _ =>
      cases fuel with
      | zero => cases one
      | succ fuel => cases one

end Grammar
end NullSafeEquality
