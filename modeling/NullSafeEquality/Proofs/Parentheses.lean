import Mathlib.Data.List.Basic
import Mathlib.Data.List.Forall2
import NullSafeEquality.Proofs.Outermost
import NullSafeEquality.Proofs.Recognition

/-!
Parentheses and places decide nothing. The bare form of an expression has neither; every helper of
the matcher, the matcher itself and the walk give on the bare form the bare form of what they give on
the expression. Two expressions with one bare form are then compared through it, so no proof looks at
two expressions side by side.
-/

namespace NullSafeEquality
namespace Expr

mutual

/-- An expression without the parentheses at any depth and without places. -/
@[simp] def bare : Expr → Expr
  | literal kind text _ => literal kind text {}
  | name n _ => name n {}
  | self q _ => self q {}
  | super q _ => super q {}
  | field object f _ => field (bare object) f {}
  | index array i _ => index (bare array) (bare i) {}
  | call receiver typeArgs method args _ =>
      call (bareReceiver receiver) typeArgs method (bareAll args) {}
  | new className args _ => new className (bareAll args) {}
  | binary op left right _ => binary op (bare left) (bare right) {}
  | unary op operand _ => unary op (bare operand) {}
  | update op operand _ => update op (bare operand) {}
  | assign op target value _ => assign op (bare target) (bare value) {}
  | conditional c t e _ => conditional (bare c) (bare t) (bare e) {}
  | paren inner _ => bare inner
  | cast targetType operand _ => cast targetType (bare operand) {}
  | unknown kind text children _ => unknown kind text (bareAll children) {}

def bareReceiver : Option Expr → Option Expr
  | none => none
  | some receiver => some (bare receiver)

def bareAll : List Expr → List Expr
  | [] => []
  | e :: rest => bare e :: bareAll rest

end

theorem bareAll_eq_map (es : List Expr) : bareAll es = es.map bare := by
  induction es with
  | nil => rw [bareAll, List.map_nil]
  | cons e rest ih => rw [bareAll, ih, List.map_cons]

theorem children_bare {e : Expr} (h : e.isParen = false) :
    e.bare.children = e.children.map bare := by
  cases e with
  | paren inner span => cases h
  | call receiver _ _ args _ =>
      cases receiver <;> simp [bare, children, bareReceiver, bareAll_eq_map]
  | _ => simp [bare, children, bareAll_eq_map]

theorem isParen_bare (e : Expr) : e.bare.isParen = false := by
  induction e using childrenInduction with
  | node e ih =>
      cases e with
      | paren inner span => exact ih inner (List.mem_singleton.mpr rfl)
      | _ => rfl

@[simp] theorem bare_stripParens (e : Expr) : e.stripParens.bare = e.bare := by
  fun_induction stripParens e with
  | case1 inner span ih => rw [ih, bare]
  | case2 e _ => rfl

@[simp] theorem stripParens_bare (e : Expr) : e.bare.stripParens = e.bare :=
  stripParens_of_isParen_eq_false (isParen_bare e)

@[simp] theorem isNullLiteral_bare (e : Expr) : e.bare.isNullLiteral = e.isNullLiteral := by
  fun_induction isNullLiteral e with
  | case1 inner span ih => rw [bare, ih]
  | case2 text span => rfl
  | case3 e notParen notNull =>
      cases e with
      | paren inner span => exact (notParen inner span rfl).elim
      | literal kind text span =>
          cases kind with
          | null => exact (notNull text span rfl).elim
          | _ => rfl
      | _ => rfl

@[simp] theorem mayBeNull_bare {e : Expr} (h : e.isParen = false) :
    e.bare.mayBeNull = e.mayBeNull := by
  cases e with
  | paren inner span => cases h
  | _ => rfl

theorem span_bare (e : Expr) : e.bare.span = {} := by
  induction e using childrenInduction with
  | node e ih =>
      cases e with
      | paren inner span => exact ih inner (List.mem_singleton.mpr rfl)
      | _ => rfl

/-- The key never depended on parentheses or places. -/
@[simp] theorem key?_bare (e : Expr) : e.bare.key? = e.key? := by
  fun_induction key? e <;> simp_all only [bare, key?]

@[simp] theorem sameOperand_bare (a b : Expr) :
    a.bare.sameOperand b.bare = a.sameOperand b := by
  simp only [sameOperand, key?_bare]

@[simp] theorem containsUnknown_bare (e : Expr) :
    e.bare.containsUnknown = e.containsUnknown := by
  induction e using childrenInduction with
  | node e ih =>
      cases h : e.isParen with
      | true =>
          cases e with
          | paren inner span => exact ih inner (List.mem_singleton.mpr rfl)
          | _ => cases h
      | false =>
          have sameKind : e.bare.isUnknown = e.isUnknown := by
            cases e with
            | paren inner span => cases h
            | _ => rfl
          rw [containsUnknown_eq_or_any_children, containsUnknown_eq_or_any_children,
            children_bare h, sameKind, List.any_map, Bool.eq_iff_iff]
          simp only [Bool.or_eq_true, List.any_eq_true, Function.comp_apply]
          refine or_congr_right (exists_congr fun c => and_congr_right fun hc => ?_)
          rw [ih c hc]

end Expr

def EqualsCall.bare (c : EqualsCall) : EqualsCall :=
  { c with receiver := c.receiver.bare, argument := c.argument.bare }

def NullCheck.bare (c : NullCheck) : NullCheck := { c with operand := c.operand.bare }

def IdentityCheck.bare (c : IdentityCheck) : IdentityCheck :=
  { c with left := c.left.bare, right := c.right.bare }

def Operands.bare (o : Operands) : Operands := ⟨o.left.bare, o.right.bare⟩

def EqualsMatch.bare (m : EqualsMatch) : EqualsMatch :=
  { m with left := m.left.bare, right := m.right.bare, span := {} }

namespace Expr

theorem equalsCall?_bare (e : Expr) : e.bare.equalsCall? = e.equalsCall?.map EqualsCall.bare := by
  fun_induction equalsCall? e with
  | case1 inner span ih => rw [bare, ih]
  | case2 operand span ih =>
      rw [bare, equalsCall?, ih, Option.map_map, Option.map_map]
      rfl
  | case3 receiver typeArgs method argument span holds =>
      have may : receiver.bare.mayBeNull = true := by
        rw [← bare_stripParens, mayBeNull_bare (isParen_stripParens receiver)]
        exact holds.2
      simp [bare, bareReceiver, bareAll, equalsCall?, holds.1, may, EqualsCall.bare]
  | case4 receiver typeArgs method argument span fails =>
      have fails' : ¬ (method = "equals" ∧ receiver.bare.mayBeNull = true) := by
        rwa [← bare_stripParens, mayBeNull_bare (isParen_stripParens receiver)]
      simp only [bare, bareReceiver, bareAll, equalsCall?, stripParens_bare, if_neg fails',
        Option.map_none]
  | case5 e notParen notNot notCall =>
      cases e with
      | paren inner span => exact (notParen inner span rfl).elim
      | unary op operand span =>
          cases op with
          | not => exact (notNot operand span rfl).elim
          | _ => rfl
      | call receiver typeArgs method args span =>
          cases receiver with
          | none => rfl
          | some receiver =>
              cases args with
              | nil => rfl
              | cons argument rest =>
                  cases rest with
                  | nil => exact (notCall receiver typeArgs method argument span rfl).elim
                  | cons _ _ => rfl
      | _ => rfl

theorem nullCheck?_bare (e : Expr) : e.bare.nullCheck? = e.nullCheck?.map NullCheck.bare := by
  fun_induction nullCheck? e with
  | case1 inner span ih => rw [bare, ih]
  | case2 operand span ih =>
      rw [bare, nullCheck?, ih, Option.map_map, Option.map_map]
      rfl
  | case3 op l r span compares hr hl | case4 op l r span compares hr hl =>
      simp [bare, nullCheck?, compares, hr, hl, NullCheck.bare]
  | case5 op l r span compares notRight notLeft =>
      cases hl : l.isNullLiteral <;> cases hr : r.isNullLiteral <;> simp_all [bare, nullCheck?]
  | case6 op l r span other => simp [bare, nullCheck?, other]
  | case7 e notParen notNot notBinary =>
      cases e with
      | paren inner span => exact (notParen inner span rfl).elim
      | unary op operand span =>
          cases op with
          | not => exact (notNot operand span rfl).elim
          | _ => rfl
      | binary op l r span => exact (notBinary op l r span rfl).elim
      | _ => rfl

theorem identityCheck?_bare (e : Expr) :
    e.bare.identityCheck? = e.identityCheck?.map IdentityCheck.bare := by
  fun_induction identityCheck? e with
  | case1 inner span ih => rw [bare, ih]
  | case2 operand span ih =>
      rw [bare, identityCheck?, ih, Option.map_map, Option.map_map]
      rfl
  | case3 op l r span holds => simp_all [bare, identityCheck?, IdentityCheck.bare]
  | case4 op l r span fails => simp_all [bare, identityCheck?]
  | case5 e notParen notNot notBinary =>
      cases e with
      | paren inner span => exact (notParen inner span rfl).elim
      | unary op operand span =>
          cases op with
          | not => exact (notNot operand span rfl).elim
          | _ => rfl
      | binary op l r span => exact (notBinary op l r span rfl).elim
      | _ => rfl

theorem guardedCall?_bare (negated : Bool) (guard equality : Expr) :
    guardedCall? negated guard.bare equality.bare =
      (guardedCall? negated guard equality).map Operands.bare := by
  rw [guardedCall?, guardedCall?, nullCheck?_bare, equalsCall?_bare]
  cases guard.nullCheck? with
  | none => rfl
  | some check =>
      cases equality.equalsCall? with
      | none => rfl
      | some found =>
          simp [NullCheck.bare, EqualsCall.bare, Operands.bare, apply_ite]

theorem samePairOnly_bare (a b : Expr) (x : Option Operands) :
    ((x.map Operands.bare).bind fun o =>
      if a.bare.sameOperand o.left && b.bare.sameOperand o.right ||
          a.bare.sameOperand o.right && b.bare.sameOperand o.left then some o else none) =
    (x.bind fun o =>
      if a.sameOperand o.left && b.sameOperand o.right ||
          a.sameOperand o.right && b.sameOperand o.left then some o else none).map
      Operands.bare := by
  cases x with
  | none => rfl
  | some o =>
      simp only [Option.map_some, Option.bind_some, Operands.bare, sameOperand_bare,
        apply_ite (Option.map Operands.bare), Option.map_none]

theorem identityGuarded?_bare (isSame : Bool) (identity guarded : Expr) :
    identityGuarded? isSame identity.bare guarded.bare =
      (identityGuarded? isSame identity guarded).map Operands.bare := by
  rw [identityGuarded?, identityGuarded?, identityCheck?_bare, stripParens_bare,
    ← bare_stripParens guarded]
  have noParen := isParen_stripParens guarded
  generalize guarded.stripParens = inside at noParen
  cases identity.identityCheck? with
  | none => rfl
  | some check =>
      simp only [Option.map_some, Option.bind_eq_bind, Option.bind_some, IdentityCheck.bare,
        apply_ite (Option.map Operands.bare), Option.map_none]
      congr 1
      cases inside with
      | paren inner span => cases noParen
      | binary op l r span =>
          cases op <;> cases isSame <;>
            simp only [bare, guardedCall?_bare, samePairOnly_bare] <;> rfl
      | _ => simp only [bare, Option.bind_none, Option.map_none]

theorem ternary?_bare (condition t f : Expr) :
    ternary? condition.bare t.bare f.bare =
      (ternary? condition t f).map (Prod.map Operands.bare id) := by
  rw [ternary?, ternary?, nullCheck?_bare]
  cases condition.nullCheck? with
  | none => rfl
  | some check =>
      simp only [Option.map_some, Option.bind_eq_bind, Option.bind_some, NullCheck.bare,
        ← apply_ite bare, equalsCall?_bare, nullCheck?_bare]
      cases (if check.isNull then f else t).equalsCall? with
      | none => rfl
      | some found =>
          cases (if check.isNull then t else f).nullCheck? with
          | none => rfl
          | some right =>
              simp only [Option.map_some, Option.bind_some, EqualsCall.bare, NullCheck.bare,
                sameOperand_bare, apply_ite (Option.map (Prod.map Operands.bare id)),
                Option.map_none, Prod.map_apply, id, Operands.bare]

/-- The form of a bare expression; parentheses around the whole are removed before. -/
theorem form?_bare (config : InspectionConfig) {e : Expr} (h : e.isParen = false) :
    form? config e.bare = (form? config e).map (Prod.map Operands.bare id) := by
  cases e with
  | paren inner span => cases h
  | conditional c t f span =>
      simp only [bare, form?, ternary?_bare, Option.map_map]
      rfl
  | binary op l r span =>
      cases op with
      | and | or =>
          simp only [bare, form?, guardedCall?_bare, identityGuarded?_bare, Option.map_map,
            Option.orElse_eq_orElse, Option.orElse_eq_or, Option.map_or]
          rfl
      | _ => rfl
  | call receiver typeArgs method args span =>
      have same := equalsCall?_bare (call receiver typeArgs method args span)
      simp only [bare] at same
      simp only [bare, form?, same, Option.map_map, apply_ite (Option.map _), Option.map_none]
      rfl
  | _ => rfl

theorem recognize?_bare (config : InspectionConfig) (e : Expr) :
    recognize? config e.bare = (recognize? config e).map EqualsMatch.bare := by
  rw [recognize?, recognize?, stripParens_bare, ← bare_stripParens,
    form?_bare config (isParen_stripParens e)]
  cases form? config e.stripParens with
  | none => rfl
  | some found =>
      obtain ⟨o, p, s⟩ := found
      simp only [Option.map_some, Option.bind_eq_bind, Option.bind_some, Prod.map_apply, id,
        Operands.bare, containsUnknown_bare, apply_ite (Option.map EqualsMatch.bare),
        Option.map_none, EqualsMatch.bare, span_bare]

/-- The match that the walk reports on an expression itself. -/
def ownMatch? (config : InspectionConfig) (e : Expr) : Option EqualsMatch :=
  if e.isParen then none else recognize? config e

/-- What the walk reports on, each expression with its match, in the order of the walk. -/
def matchesIn (config : InspectionConfig) (e : Expr) : List (Expr × EqualsMatch) :=
  match ownMatch? config e with
  | some m => [(e, m)]
  | none => e.children.attach.flatMap fun c => matchesIn config c.1
termination_by sizeOf e
decreasing_by exact sizeOf_lt_of_mem_children c.2

section Walk

variable (config : InspectionConfig)

theorem matchesIn_of_some {e : Expr} {m : EqualsMatch} (h : ownMatch? config e = some m) :
    matchesIn config e = [(e, m)] := by
  rw [matchesIn, h]

theorem matchesIn_of_none {e : Expr} (h : ownMatch? config e = none) :
    matchesIn config e = e.children.flatMap (matchesIn config) := by
  rw [matchesIn, h]
  simp only [List.flatMap_subtype, List.unattach_attach]

theorem ownDiagnostic?_eq_map (e : Expr) :
    ownDiagnostic? config e = (ownMatch? config e).map (Diagnostic.ofMatch e) := by
  cases h : e.isParen with
  | false => rw [ownDiagnostic?_of_not_paren config h, ownMatch?, h, if_neg Bool.false_ne_true]
  | true =>
      cases e with
      | paren inner span => rfl
      | _ => cases h

theorem toList_reportAll {es : List Expr}
    (each : ∀ e ∈ es, ∀ sink, (report config e sink).toList =
      sink.toList ++ (matchesIn config e).map fun found => Diagnostic.ofMatch found.1 found.2)
    (sink : Array Diagnostic) :
    (reportAll config es sink).toList = sink.toList ++
      (es.flatMap (matchesIn config)).map fun found => Diagnostic.ofMatch found.1 found.2 := by
  induction es generalizing sink with
  | nil => simp [reportAll]
  | cons e rest ih =>
      rw [reportAll, ih (fun x hx => each x (List.mem_cons_of_mem e hx)),
        each e List.mem_cons_self, List.flatMap_cons, List.map_append, List.append_assoc]

/-- The walk adds the findings on its matches and nothing else. -/
theorem toList_report (e : Expr) (sink : Array Diagnostic) :
    (report config e sink).toList = sink.toList ++
      (matchesIn config e).map fun found => Diagnostic.ofMatch found.1 found.2 := by
  induction e using childrenInduction generalizing sink with
  | node e ih =>
      have own := ownDiagnostic?_eq_map config e
      cases h : ownMatch? config e with
      | some m =>
          rw [h] at own
          rw [report_of_some own, matchesIn_of_some config h]
          simp
      | none =>
          rw [h] at own
          rw [report_of_none own, matchesIn_of_none config h]
          exact toList_reportAll config ih sink

theorem recognize?_of_mem_matchesIn {e x : Expr} {m : EqualsMatch}
    (h : (x, m) ∈ matchesIn config e) : x.isParen = false ∧ recognize? config x = some m := by
  induction e using childrenInduction with
  | node e ih =>
      cases own : ownMatch? config e with
      | some found =>
          rw [matchesIn_of_some config own] at h
          cases List.mem_singleton.mp h
          obtain ⟨noParen, found⟩ := Option.ite_none_left_eq_some.mp own
          exact ⟨Bool.eq_false_iff.mpr noParen, found⟩
      | none =>
          rw [matchesIn_of_none config own] at h
          obtain ⟨c, hc, inside⟩ := List.mem_flatMap.mp h
          exact ih c hc inside

theorem ownMatch?_bare {e : Expr} (h : e.isParen = false) :
    ownMatch? config e.bare = (ownMatch? config e).map EqualsMatch.bare := by
  rw [ownMatch?, ownMatch?, isParen_bare, h, if_neg Bool.false_ne_true,
    if_neg Bool.false_ne_true, recognize?_bare]

theorem matchesIn_bare (e : Expr) :
    matchesIn config e.bare = (matchesIn config e).map (Prod.map bare EqualsMatch.bare) := by
  induction e using childrenInduction with
  | node e ih =>
      cases h : e.isParen with
      | true =>
          cases e with
          | paren inner span =>
              have outer : ownMatch? config (paren inner span) = none := rfl
              rw [bare, ih inner (List.mem_singleton.mpr rfl), matchesIn_of_none config outer,
                children, List.flatMap_singleton]
          | _ => cases h
      | false =>
          have own := ownMatch?_bare config h
          cases found : ownMatch? config e with
          | some m =>
              rw [found] at own
              rw [matchesIn_of_some config own, matchesIn_of_some config found]
              rfl
          | none =>
              rw [found] at own
              rw [matchesIn_of_none config own, matchesIn_of_none config found, children_bare h,
                List.flatMap_map, List.map_flatMap]
              exact List.flatMap_congr ih

end Walk

end Expr

/-- Matches that differ in parentheses and places only. -/
structure SameMatch (m n : EqualsMatch) : Prop where
  shape : m.shape = n.shape
  polarity : m.polarity = n.polarity
  left : m.left.bare = n.left.bare
  right : m.right.bare = n.right.bare

theorem sameMatch_of_bare_eq {m n : EqualsMatch} (h : m.bare = n.bare) : SameMatch m n where
  shape := (EqualsMatch.mk.inj h).2.2.2.1
  polarity := (EqualsMatch.mk.inj h).2.2.1
  left := congrArg EqualsMatch.left h
  right := congrArg EqualsMatch.right h

namespace Expr

/-- Expressions that are equal without parentheses and places are recognised alike, and the walk
reports as many findings on the one as on the other, for like matches in the same order. -/
theorem bare_eq_found_alike (config : InspectionConfig) {e e' : Expr} (same : e.bare = e'.bare) :
    Option.Rel SameMatch (recognize? config e) (recognize? config e') ∧
    ∃ found found' : List (Expr × EqualsMatch),
      (∀ sink, (report config e sink).toList =
        sink.toList ++ found.map fun f => Diagnostic.ofMatch f.1 f.2) ∧
      (∀ sink, (report config e' sink).toList =
        sink.toList ++ found'.map fun f => Diagnostic.ofMatch f.1 f.2) ∧
      List.Forall₂ (fun f f' => recognize? config f.1 = some f.2 ∧
        recognize? config f'.1 = some f'.2 ∧ f.1.bare = f'.1.bare ∧ SameMatch f.2 f'.2)
        found found' := by
  have recognized : (recognize? config e).map EqualsMatch.bare =
      (recognize? config e').map EqualsMatch.bare := by
    rw [← recognize?_bare, ← recognize?_bare, same]
  have walked : (matchesIn config e).map (Prod.map bare EqualsMatch.bare) =
      (matchesIn config e').map (Prod.map bare EqualsMatch.bare) := by
    rw [← matchesIn_bare, ← matchesIn_bare, same]
  refine ⟨?_, matchesIn config e, matchesIn config e', toList_report config e,
    toList_report config e', ?_⟩
  · cases here : recognize? config e with
    | none =>
        rw [here] at recognized
        rw [Option.map_eq_none_iff.mp recognized.symm]
        exact .none
    | some m =>
        rw [here] at recognized
        obtain ⟨n, there, alike⟩ := Option.map_eq_some_iff.mp recognized.symm
        rw [there]
        exact .some (sameMatch_of_bare_eq alike.symm)
  · have pairs := List.forall₂_map_right_iff.mp
      (List.forall₂_map_left_iff.mp (List.forall₂_eq_eq_eq ▸ walked))
    have left := (List.forall₂_and_left _ _).mpr
      ⟨fun f hf => (recognize?_of_mem_matchesIn config hf).2, pairs⟩
    have right := (List.forall₂_and_left _ _).mpr
      ⟨fun f hf => (recognize?_of_mem_matchesIn config hf).2, left.flip⟩
    refine right.flip.imp ?_
    rintro ⟨x, m⟩ ⟨y, n⟩ ⟨hy, hx, alike⟩
    obtain ⟨nodes, found⟩ := Prod.mk.inj alike
    exact ⟨hx, hy, nodes, sameMatch_of_bare_eq found⟩

/-- `a != null && a.equals(b)`, and the same test with parentheses in many places. -/
def plainTest : Expr :=
  binary .and (binary .ne (name "a" {}) (literal .null "null" {}) {})
    (call (some (name "a" {})) none "equals" [name "b" {}] {}) {}

def wrappedTest : Expr :=
  paren (binary .and
    (paren (binary .ne (paren (name "a" {}) {}) (paren (literal .null "null" {}) {}) {}) {})
    (call (some (paren (name "a" { startByte := 20, endByte := 21 }) {})) none "equals"
      [paren (paren (name "b" {}) {}) {}] {}) { startByte := 1, endByte := 33 }) {}

theorem plainTest_found_like_wrappedTest :
    plainTest.bare = wrappedTest.bare ∧ (recognize? {} plainTest).isSome = true ∧
      Option.Rel SameMatch (recognize? {} plainTest) (recognize? {} wrappedTest) := by
  have same : plainTest.bare = wrappedTest.bare := by
    simp [plainTest, wrappedTest, bare, bareReceiver, bareAll]
  exact ⟨same, rfl, (bare_eq_found_alike {} same).1⟩

end Expr
end NullSafeEquality
