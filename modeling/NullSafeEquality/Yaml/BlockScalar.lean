import NullSafeEquality.Yaml.Tag

/-!
Scalars that are written as an indented block. A literal block keeps its line breaks. A folded one
joins neighbouring lines by a blank unless one of them begins with a blank. The header tells what
becomes of the line breaks at the end, and may give the indentation.
-/

namespace NullSafeEquality.Yaml

/-- What becomes of the line breaks at the end of a block. -/
inductive Chomping where
  /-- All go, the last line's own stays, all stay. -/
  | strip | clip | keep
deriving DecidableEq

def chomping? : List Char → Option Chomping
  | '+' :: _ => some .keep
  | '-' :: _ => some .strip
  | _ => none

/-- Read the digit that gives the indentation, or nothing. -/
def readIndentation (start : Place) (c : Cursor) : Except Fault (Option Nat × Cursor) :=
  match c.rest with
  | d :: _ =>
      if d = '0' then c.fail .zeroIndentation .blockScalar start
      else if d.isDigit then .ok (some (d.toNat - 48), c.skip 1)
      else .ok (none, c)
  | [] => .ok (none, c)

/-- Read what becomes of line breaks and the indentation, in either order. -/
def readBlockHeader (start : Place) (c : Cursor) :
    Except Fault (Chomping × Option Nat × Cursor) :=
  match chomping? c.rest with
  | some chomping => do
      let (indentation, c) ← readIndentation start (c.skip 1)
      .ok (chomping, indentation, c)
  | none => do
      match ← readIndentation start c with
      | (none, c) => .ok (.clip, none, c)
      | (indentation, c) =>
          match chomping? c.rest with
          | some chomping => .ok (chomping, indentation, c.skip 1)
          | none => .ok (.clip, indentation, c)

/-- The empty lines at the beginning of a text, the greatest column that blanks reach on them and on
the line behind, and the rest. With indentation zero any number of blanks is passed over. A tab
instead of such a blank is refused, by its place. -/
def blankLines (indent : Nat) : List Char → Place → Except Place (List Char × Nat × Cursor)
  | '\r' :: '\n' :: rest, p =>
      (blankLines indent rest (p.nextLine ['\r', '\n'])).map fun (breaks, width, c) =>
        ('\n' :: breaks, max width p.column, c)
  | x :: rest, p =>
      if isBreak x then
        (blankLines indent rest (p.nextLine [x])).map fun (breaks, width, c) =>
          (breakText x :: breaks, max width p.column, c)
      else if indent = 0 || p.column < indent then
        if x = ' ' then blankLines indent rest (p.advance [x])
        else if x = '\t' then .error p
        else .ok ([], p.column, ⟨x :: rest, p⟩)
      else .ok ([], p.column, ⟨x :: rest, p⟩)
  | [], p => .ok ([], p.column, ⟨[], p⟩)

structure Block where
  /-- Its characters in reverse. -/
  text : List Char := []
  /-- The break of the last line, and those of the empty lines behind it. -/
  lastBreak : List Char := []
  emptyLines : List Char
  /-- Does the last line begin with a blank? -/
  indented : Bool := false

/-- Read empty lines; a tab among them is a problem. -/
def readBlankLines (indent : Nat) (start : Place) (c : Cursor) :
    Except Fault (List Char × Nat × Cursor) :=
  match blankLines indent c.rest c.place with
  | .ok r => .ok r
  | .error place => .error (.malformed .tabIndentation place (some (.blockScalar, start)))

def blockLines (literal : Bool) (indent : Nat) (start : Place) :
    Nat → Block → Cursor → Except Fault (Block × Cursor)
  | 0, b, c => .ok (b, c)
  | fuel + 1, b, c =>
      if c.place.column ≠ indent || c.rest.isEmpty then .ok (b, c)
      else
        let indented := c.rest.head?.any isBlank
        let joins := !literal && b.lastBreak = ['\n'] && !b.indented && !indented
        let between :=
          if !joins then b.lastBreak else if b.emptyLines.isEmpty then [' '] else []
        let line := c.rest.takeWhile (!isBreak ·)
        let next := c.skip line.length
        do
          let (emptyLines, _, behind) ← readBlankLines indent start next.skipBreak
          let text := line.reverse ++ ((between ++ b.emptyLines).reverse ++ b.text)
          let lastBreak := (next.rest.head?.map breakText).toList
          blockLines literal indent start fuel { text, lastBreak, emptyLines, indented } behind

def Block.chomped (b : Block) : Chomping → List Char
  | .strip => b.text
  | .clip => b.lastBreak ++ b.text
  | .keep => (b.lastBreak ++ b.emptyLines).reverse ++ b.text

def readBlock (literal : Bool) (outer : Option Nat) (c : Cursor) :
    Except Fault (Token × Cursor) := do
  let start := c.place
  let (chomping, indentation, header) ← readBlockHeader start (c.skip 1)
  let body ← header.finishLine .blockScalar start
  let given := match indentation with
    | some n => outer.getD 0 + n
    | none => 0
  let (emptyLines, width, first) ← readBlankLines given start body
  let least := match outer with
    | some n => n + 1
    | none => 1
  let indent := if given = 0 then max width least else given
  let (b, next) ← blockLines literal indent start (c.rest.length + 1) { emptyLines } first
  let style := if literal then .literal else .folded
  .ok (⟨.scalar (b.chomped chomping).reverse style, start, next.place⟩, next)

end NullSafeEquality.Yaml
