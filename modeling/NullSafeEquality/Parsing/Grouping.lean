import NullSafeEquality.Grammar.Confusion
import NullSafeEquality.Parsing.Survey

/-!
States that can be made one. States that differ only in what may follow their items are put into one
group, unless that would allow a terminal two different actions, or a token that could be taken for
another one. Groups are divided until all states of a group lead to the same groups.
-/

namespace NullSafeEquality.Parsing

/-- States in groups, each group in ascending order. -/
structure Grouping where
  groups : Array (List Nat)
  groupOf : Array Nat

namespace Grouping

/-- States with the same items are in one group. -/
def byItems (kernels : Array (Array Kernel)) : Grouping :=
  let number := fun (found : Std.HashMap (Array Nat) Nat × Array Nat) (kernel : Array Kernel) =>
    let items := kernel.map (·.item)
    match found.1[items]? with
    | some g => (found.1, found.2.push g)
    | none => (found.1.insert items found.1.size, found.2.push found.1.size)
  let (found, groupOf) := kernels.foldl number ({}, #[])
  let groups := (groupOf.zipIdx.foldr (fun (g, i) groups => (groups : Array (List Nat)).modify g (i :: ·))
    (Array.replicate found.size []))
  { groups, groupOf }

def sameGroup (g : Grouping) (a b : Nat) : Bool := g.groupOf.getD a 0 = g.groupOf.getD b 0

/-- Is there a number under which two lists in ascending order have entries that differ? -/
@[specialize]
def differOnCommon (differ : α → α → Bool) : List (Nat × α) → List (Nat × α) → Bool
  | [], _ => false
  | _, [] => false
  | (i, a) :: as, (j, b) :: bs =>
      if i < j then differOnCommon differ as ((j, b) :: bs)
      else if j < i then differOnCommon differ ((i, a) :: as) bs
      else differ a b || differOnCommon differ as bs
termination_by as bs => as.length + bs.length

/-- Do two actions ask for the same? -/
def sameAction (g : Grouping) : Action → Action → Bool
  | .shift a r, .shift b s => r == s && g.sameGroup a b
  | a, b => a == b

/-- Would two states as one allow a terminal two actions, or two tokens that may be confused? -/
def conflict (confusions : List (Nat × Nat)) (a b : Row) (g : Grouping) : Bool :=
  Tables.confused confusions a.terminals b.terminals ||
    differOnCommon (fun as bs => !as.isEqv bs g.sameAction) a.actions b.actions

/-- Do two states lead to different groups by some symbol? -/
def leadApart (a b : Row) (g : Grouping) : Bool :=
  let shiftsDiffer (as bs : Array Action) : Bool :=
    match as.back?, bs.back? with
    | some (.shift a _), some (.shift b _) => !g.sameGroup a b
    | _, _ => false
  differOnCommon shiftsDiffer a.actions b.actions ||
    differOnCommon (fun a b => !g.sameGroup a b) a.moves b.moves

/-- States that stay in a group, each of which differs from none of the others, and states that leave
it, first those that differ from the first one that stays. -/
@[specialize]
def divide (differ : Nat → Nat → Bool) : List Nat → List Nat × List Nat
  | [] => ([], [])
  | i :: rest =>
      let (stay, leave) := divide differ (rest.filter (!differ i ·))
      (i :: stay, rest.filter (differ i) ++ leave)
termination_by group => group.length
decreasing_by
  rw [List.length_unattach]
  exact Nat.lt_succ_of_le (Nat.le_trans (List.length_filter_le ..) (by simp))

/-- Divide the groups from a number on. States that leave a group become a new group, which is
divided in its turn. -/
@[specialize]
def splitFrom (rows : Array Row) (differ : Row → Row → Grouping → Bool) :
    Nat → Nat → Grouping → Grouping
  | 0, _, g => g
  | fuel + 1, i, g =>
      match g.groups[i]? with
      | none => g
      | some group =>
          let row (state : Nat) : Row := rows.getD state default
          let (stay, leave) := divide (fun a b => differ (row a) (row b) g) group
          if leave.isEmpty then splitFrom rows differ fuel (i + 1) g
          else
            let new := g.groups.size
            splitFrom rows differ fuel (i + 1)
              { groups := (g.groups.setIfInBounds i stay).push leave
                groupOf := leave.foldl (fun m state => m.setIfInBounds state new) g.groupOf }

@[specialize]
def split (rows : Array Row) (differ : Row → Row → Grouping → Bool) (g : Grouping) : Grouping :=
  splitFrom rows differ (rows.size + 1) 0 g

/-- Divide groups until all states of a group lead to the same groups. -/
def refine (rows : Array Row) : Nat → Grouping → Grouping
  | 0, g => g
  | fuel + 1, g =>
      let finer := g.split rows leadApart
      if finer.groups.size = g.groups.size then g else refine rows fuel finer

end Grouping

end NullSafeEquality.Parsing
