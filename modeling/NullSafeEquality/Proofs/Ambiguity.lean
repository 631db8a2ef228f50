import Mathlib.Logic.Basic
import NullSafeEquality.Equality.Match
import NullSafeEquality.Proofs.Readback

/-!
Which operands have a text of their own. No blank is written between signs, so two equal signs in
front of an access look like an increment or decrement of it. Two operands have one text exactly if
they are the same, places aside, once each increment or decrement in front is taken for two signs.
-/

namespace NullSafeEquality
namespace Expr

theorem placelessAll_eq_map (es : List Expr) : placelessAll es = es.map placeless := by
  induction es with
  | nil => rw [placelessAll, List.map_nil]
  | cons e rest ih => rw [placelessAll, ih, List.map_cons]

theorem children_placeless (e : Expr) : e.placeless.children = e.children.map placeless := by
  cases e with
  | call receiver _ _ args _ =>
      cases receiver <;> simp [placelessReceiver, children, placelessAll_eq_map]
  | _ => simp [children, placelessAll_eq_map]

theorem renderMoreArgs_placeless {es : List Expr} (h : ∀ e ∈ es, e.placeless.render = e.render) :
    renderMoreArgs (es.map placeless) = renderMoreArgs es := by
  induction es with
  | nil => rfl
  | cons e rest ih =>
      obtain ⟨here, later⟩ := List.forall_mem_cons.mp h
      rw [List.map_cons, renderMoreArgs, renderMoreArgs, here, ih later]

theorem renderArgs_placeless {es : List Expr} (h : ∀ e ∈ es, e.placeless.render = e.render) :
    renderArgs (placelessAll es) = renderArgs es := by
  rw [placelessAll_eq_map]
  cases es with
  | nil => rfl
  | cons e rest =>
      obtain ⟨here, later⟩ := List.forall_mem_cons.mp h
      rw [List.map_cons, renderArgs, renderArgs, here, renderMoreArgs_placeless later]

/-- No place is written. -/
theorem render_placeless (e : Expr) : e.placeless.render = e.render := by
  induction e using childrenInduction with
  | node e ih =>
      cases e with
      | literal _ _ _ | name _ _ | unknown _ _ _ _ => rfl
      | self q _ | super q _ => cases q <;> rfl
      | field a _ _ | unary _ a _ | paren a _ | cast _ a _ =>
          have := ih a (by simp [children])
          simp only [placeless, render, this]
      | update op a _ =>
          have := ih a (by simp [children])
          cases op <;> simp only [placeless, render, this]
      | index a b _ | binary _ a b _ | assign _ a b _ =>
          have front := ih a (by simp [children])
          have back := ih b (by simp [children])
          simp only [placeless, render, front, back]
      | conditional c t f _ =>
          have condition := ih c (by simp [children])
          have first := ih t (by simp [children])
          have second := ih f (by simp [children])
          simp only [placeless, render, condition, first, second]
      | new _ args _ =>
          have arguments : renderArgs (placelessAll args) = renderArgs args :=
            renderArgs_placeless ih
          simp only [placeless, render, arguments]
      | call receiver _ _ args _ =>
          have arguments := renderArgs_placeless fun e he => ih e (List.mem_append_right _ he)
          cases receiver with
          | none => simp only [placeless, render, placelessReceiver, arguments]
          | some r =>
              have front := ih r (by simp [children])
              simp only [placeless, render, placelessReceiver, renderReceiver, arguments, front]

/-- Two signs are written as the increment or decrement they are put for. -/
theorem render_two_signs (a : Expr) (inner outer whole : Span) :
    (unary .plus (unary .plus a inner) outer).render = (update .preInc a whole).render ∧
      (unary .neg (unary .neg a inner) outer).render = (update .preDec a whole).render := by
  constructor <;>
    · rw [render, render, render, ← String.append_assoc]
      rfl

theorem render_spelledOut (e : Expr) : e.spelledOut.render = e.render := by
  fun_induction spelledOut e with
  | case1 object f s ih => rw [render, render, ih]
  | case2 array i s array_ih i_ih => rw [render, render, array_ih, i_ih]
  | case3 inner s ih => rw [render, render, ih]
  | case4 op operand s ih => rw [render, render, ih]
  | case5 operand s ih => rw [(render_two_signs _ s s s).1, render, render, ih]
  | case6 operand s ih => rw [(render_two_signs _ s s s).2, render, render, ih]
  | case7 operand s ih | case8 operand s ih => rw [render, render, ih]
  | case9 e => rfl

/-- Operands have one text exactly if they are the same with their signs spelled out. -/
theorem render_eq_iff_spelledOut {x e : Expr} (hx : x.Shaped) (he : e.Shaped) :
    x.render = e.render ↔ x.spelledOut.placeless = e.spelledOut.placeless := by
  constructor
  · intro same
    refine Option.some.inj ?_
    rw [← Readback.read?_render hx, ← Readback.read?_render he, same]
  · intro same
    rw [← render_spelledOut x, ← render_spelledOut e, ← render_placeless x.spelledOut,
      ← render_placeless e.spelledOut, same]

/-- Is this an increment or decrement in front of its operand, or two signs that look like one? -/
@[simp] def readsTwoWays : Expr → Bool
  | update .preInc _ _ | update .preDec _ _ => true
  | unary .plus (unary .plus operand _) _ | unary .neg (unary .neg operand _) _ =>
      !operand.isSigned
  | _ => false

/-- Does every node read in one way only? -/
def OneReading (e : Expr) : Prop :=
  ∀ n ∈ e.nodes, n.readsTwoWays = false

theorem oneReading_iff_children (e : Expr) :
    e.OneReading ↔ e.readsTwoWays = false ∧ ∀ c ∈ e.children, c.OneReading :=
  forall_mem_nodes_iff

theorem isSigned_placeless (e : Expr) : e.placeless.isSigned = e.isSigned := by
  cases e <;> rfl

theorem readsTwoWays_placeless (e : Expr) : e.placeless.readsTwoWays = e.readsTwoWays := by
  cases e with
  | unary op operand _ =>
      cases operand with
      | unary inner core _ => cases op <;> cases inner <;> simp only [placeless, readsTwoWays,
          isSigned_placeless]
      | _ => cases op <;> rfl
  | update op _ _ => cases op <;> rfl
  | _ => rfl

theorem oneReading_placeless (e : Expr) : e.placeless.OneReading ↔ e.OneReading := by
  induction e using childrenInduction with
  | node e ih =>
      rw [oneReading_iff_children, oneReading_iff_children e, readsTwoWays_placeless,
        children_placeless, List.forall_mem_map]
      exact and_congr_right fun _ => forall₂_congr ih

/-- Nothing is spelled out where every node reads in one way, -/
theorem spelledOut_of_oneReading {e : Expr} (h : e.OneReading) : e.spelledOut = e := by
  induction e using childrenInduction with
  | node e ih =>
      obtain ⟨here, below⟩ := (oneReading_iff_children e).mp h
      have child {c : Expr} (hc : c ∈ e.children) : c.spelledOut = c := ih c hc (below c hc)
      cases e with
      | field a _ _ | unary _ a _ | paren a _ =>
          rw [spelledOut, child (by simp [children])]
      | index a b _ =>
          rw [spelledOut, child (c := a) (by simp [children]), child (c := b) (by simp [children])]
      | update op a _ =>
          cases op with
          | preInc | preDec => cases here
          | postInc | postDec => rw [spelledOut, child (by simp [children])]
      | _ => rfl

theorem isSigned_spelledOut (e : Expr) : e.spelledOut.isSigned = e.isSigned := by
  cases e with
  | update op _ _ => cases op <;> rfl
  | _ => rfl

/-- and where that is so of what is spelled out, nothing was. -/
theorem spelledOut_eq_of_oneReading {e : Expr} (shaped : e.Shaped) (h : e.spelledOut.OneReading) :
    e.spelledOut = e := by
  induction e using childrenInduction with
  | node e ih =>
      obtain ⟨here, below⟩ := (oneReading_iff_children _).mp h
      cases e with
      | field a f s =>
          have inner := ih a (by simp [children]) shaped.1 (below _ (by simp [children]))
          rw [spelledOut, inner]
      | index a b s =>
          have front := ih a (by simp [children]) shaped.1 (below _ (by simp [children]))
          have back := ih b (by simp [children]) shaped.2.2 (below _ (by simp [children]))
          rw [spelledOut, front, back]
      | unary op a s | paren a s =>
          have inner := ih a (by simp [children]) shaped (below _ (by simp [children]))
          rw [spelledOut, inner]
      | update op a s =>
          cases op with
          | preInc | preDec =>
              -- Two equal signs would stand in front of an access.
              rw [spelledOut, readsTwoWays, isSigned_spelledOut, shaped.2] at here
              cases here
          | postInc | postDec =>
              have inner := ih a (by simp [children]) shaped.1 (below _ (by simp [children]))
              rw [spelledOut, inner]
      | _ => rfl

/-- What reads in two ways is an increment or decrement, or two signs. -/
theorem exists_other_of_readsTwoWays {e : Expr} (shaped : e.Shaped) (h : e.readsTwoWays = true) :
    ∃ x : Expr, x.Shaped ∧ x.isSigned = e.isSigned ∧ x.render = e.render ∧
      x.placeless ≠ e.placeless := by
  fun_cases readsTwoWays e with
  | case1 a s =>
      exact ⟨unary .plus (unary .plus a s) s, shaped.1, rfl, (render_two_signs a s s s).1, by simp⟩
  | case2 a s =>
      exact ⟨unary .neg (unary .neg a s) s, shaped.1, rfl, (render_two_signs a s s s).2, by simp⟩
  | case3 a inner s =>
      have bare : a.isSigned = false := by simpa using h
      exact ⟨update .preInc a s, ⟨shaped, bare⟩, rfl,
        (render_two_signs a inner s s).1.symm, by simp⟩
  | case4 a inner s =>
      have bare : a.isSigned = false := by simpa using h
      exact ⟨update .preDec a s, ⟨shaped, bare⟩, rfl,
        (render_two_signs a inner s s).2.symm, by simp⟩
  | case5 e _ _ _ _ => simp_all [readsTwoWays]

/-- An operand with a node that reads in two ways has its text in common with another. -/
theorem exists_other_reading {e : Expr} (shaped : e.Shaped) (h : ¬e.OneReading) :
    ∃ x : Expr, x.Shaped ∧ x.isSigned = e.isSigned ∧ x.render = e.render ∧
      x.placeless ≠ e.placeless := by
  induction e using childrenInduction with
  | node e ih =>
      rw [oneReading_iff_children, not_and_or] at h
      rcases h with here | below
      · exact exists_other_of_readsTwoWays shaped (eq_true_of_ne_false here)
      obtain ⟨c, hc, two⟩ : ∃ c ∈ e.children, ¬c.OneReading := by
        simpa only [not_forall, exists_prop] using below
      have other := fun shaped => ih c hc shaped two
      cases e with
      | literal _ _ _ | super _ _ | call _ _ _ _ _ | new _ _ _ | binary _ _ _ _
      | assign _ _ _ _ | conditional _ _ _ _ | cast _ _ _ | unknown _ _ _ _ =>
          exact shaped.elim
      | name _ _ | self _ _ => cases hc
      | field a f s =>
          cases List.mem_singleton.mp hc
          obtain ⟨x, hx, signed, same, differ⟩ := other shaped.1
          refine ⟨field x f s, ⟨hx, signed.trans shaped.2.1, shaped.2.2⟩, rfl, ?_, ?_⟩
          · rw [render, render, same]
          · exact fun equal => differ (field.inj equal).1
      | index a b s =>
          rcases (show c = a ∨ c = b by simpa [children] using hc) with rfl | rfl
          · obtain ⟨x, hx, signed, same, differ⟩ := other shaped.1
            refine ⟨index x b s, ⟨hx, signed.trans shaped.2.1, shaped.2.2⟩, rfl, ?_, ?_⟩
            · rw [render, render, same]
            · exact fun equal => differ (index.inj equal).1
          · obtain ⟨x, hx, -, same, differ⟩ := other shaped.2.2
            refine ⟨index a x s, ⟨shaped.1, shaped.2.1, hx⟩, rfl, ?_, ?_⟩
            · rw [render, render, same]
            · exact fun equal => differ (index.inj equal).2.1
      | paren a s =>
          cases List.mem_singleton.mp hc
          obtain ⟨x, hx, -, same, differ⟩ := other shaped
          refine ⟨paren x s, hx, rfl, ?_, ?_⟩
          · rw [render, render, same]
          · exact fun equal => differ (paren.inj equal).1
      | unary op a s =>
          cases List.mem_singleton.mp hc
          obtain ⟨x, hx, -, same, differ⟩ := other shaped
          refine ⟨unary op x s, hx, rfl, ?_, ?_⟩
          · rw [render, render, same]
          · exact fun equal => differ (unary.inj equal).2.1
      | update op a s =>
          cases List.mem_singleton.mp hc
          obtain ⟨x, hx, signed, same, differ⟩ := other shaped.1
          refine ⟨update op x s, ⟨hx, signed.trans shaped.2⟩, rfl, ?_, ?_⟩
          · cases op <;> rw [render, render, same]
          · exact fun equal => differ (update.inj equal).2.1

/-- Two operands have one text exactly if they are the same with their signs spelled out, places
aside. So an operand has a text of its own exactly if no node of it is an increment or decrement in
front, and none is two equal signs in front of an access. -/
theorem render_unambiguous_iff {e : Expr} (shaped : e.Shaped) :
    (∀ x : Expr, x.Shaped →
      (x.render = e.render ↔ x.spelledOut.placeless = e.spelledOut.placeless)) ∧
    ((∀ x : Expr, x.Shaped → x.render = e.render → x.placeless = e.placeless) ↔
      e.OneReading) := by
  refine ⟨fun x hx => render_eq_iff_spelledOut hx shaped, fun unique => ?_, fun one x hx same => ?_⟩
  · refine Classical.byContradiction fun two => ?_
    obtain ⟨x, hx, -, same, differ⟩ := exists_other_reading shaped two
    exact differ (unique x hx same)
  · have read := (render_eq_iff_spelledOut hx shaped).mp same
    rw [spelledOut_of_oneReading one] at read
    have spelled : x.spelledOut.OneReading := by
      rw [← oneReading_placeless, read, oneReading_placeless]
      exact one
    rwa [spelledOut_eq_of_oneReading hx spelled] at read

theorem isWord_letters : IsWord "a" ∧ IsWord "i" :=
  ⟨isWord_of_identifier rfl rfl nofun (by decide), isWord_of_identifier rfl rfl nofun (by decide)⟩

/-- Different signs, and an increment behind its operand, are read in one way: `a[-+i++]`. -/
theorem mixedSigns_unambiguous :
    let e := index (name "a" {})
      (unary .neg (unary .plus (update .postInc (name "i" {}) {}) {}) {}) {}
    e.render = "a[-+i++]" ∧ e.Shaped ∧
      ∀ x : Expr, x.Shaped → x.render = e.render → x.placeless = e.placeless := by
  intro e
  have shaped : e.Shaped := ⟨isWord_letters.1, rfl, isWord_letters.2, rfl⟩
  have one : e.OneReading := by
    simp [e, OneReading, nodes]
  exact ⟨by decide, shaped, (render_unambiguous_iff shaped).2.mpr one⟩

/-- The access `a[- -i]`. -/
def negatedTwice : Expr :=
  index (name "a" {}) (unary .neg (unary .neg (name "i" {}) {}) {}) {}

/-- The access `a[--i]`. -/
def decremented : Expr :=
  index (name "a" {}) (update .preDec (name "i" {}) {}) {}

/-- Two signs are suggested as a decrement. -/
theorem negatedTwice_reads_as_decremented :
    negatedTwice.Shaped ∧ decremented.Shaped ∧ negatedTwice.render = decremented.render ∧
      negatedTwice.placeless ≠ decremented.placeless ∧
      (∀ op operand span, update op operand span ∉ negatedTwice.nodes) ∧
      (recognize? {} (call (some negatedTwice) none "equals" [name "b" {}] {})).map
        EqualsMatch.replacement = some "Objects.equals(a[--i], b)" := by
  refine ⟨⟨isWord_letters.1, rfl, isWord_letters.2⟩, ⟨isWord_letters.1, rfl, isWord_letters.2, rfl⟩,
    by decide, ?_, ?_, by decide⟩
  · simp [negatedTwice, decremented]
  · simp [negatedTwice, nodes]

end Expr
end NullSafeEquality
