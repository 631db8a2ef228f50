import NullSafeEquality.Yaml.Tag

/-!
Scalars that may go on over several lines: plain ones and quoted ones. Blanks around a line break
are dropped; a single line break stands for a blank, and of several all but the first are kept.
-/

namespace NullSafeEquality.Yaml

/-- Blanks and line breaks between two parts of a scalar. -/
structure Gap where
  /-- The blanks before the first line break. -/
  blanks : List Char := []
  breaks : List Char := []
  /-- The first tab behind a line break that stands left of the indentation. -/
  tab : Option Place := none

namespace Gap

def folded (g : Gap) : List Char :=
  match g.breaks with
  | [] => g.blanks
  | ['\n'] => [' ']
  | '\n' :: more => more
  | breaks => breaks

/-- The gap at the beginning of a text, where a line break may have been read already. -/
def read (indent : Nat) (broken : Bool) : List Char → Place → Gap × Cursor
  | '\r' :: '\n' :: rest, p =>
      let (g, c) := read indent true rest (p.nextLine ['\r', '\n'])
      ({ g with breaks := '\n' :: g.breaks }, c)
  | x :: rest, p =>
      if isBreak x then
        let (g, c) := read indent true rest (p.nextLine [x])
        ({ g with breaks := breakText x :: g.breaks }, c)
      else if isBlank x then
        let (g, c) := read indent broken rest (p.advance [x])
        if !broken then ({ g with blanks := x :: g.blanks }, c)
        else if x = '\t' && p.column < indent then ({ g with tab := some p }, c)
        else (g, c)
      else ({}, ⟨x :: rest, p⟩)
  | [], p => ({}, ⟨[], p⟩)

end Gap

/-! Plain scalars -/

def endsPlain (flow : Bool) : List Char → Bool
  | [] => true
  | c :: rest => isBlank c || isBreak c || (c = ':' && blankOrEnd rest) || (flow && isFlowIndicator c)

/-- Inside brackets, does the text begin with a colon that separates nothing? -/
def isStrayColon : List Char → Bool
  | ':' :: c :: _ => isFlowIndicator c || c = '?'
  | _ => false

/-- The part of a plain scalar at the beginning of a text, and whether a stray colon ends it. -/
def plainPart (flow : Bool) : List Char → List Char × Bool
  | [] => ([], false)
  | c :: rest =>
      if isBlank c || isBreak c then ([], false)
      else if flow && isStrayColon (c :: rest) then ([], true)
      else if endsPlain flow (c :: rest) then ([], false)
      else
        let (part, stray) := plainPart flow rest
        (c :: part, stray)

structure PlainScalar where
  /-- Its characters in reverse. -/
  text : List Char := []
  stop : Place
  /-- What was passed since its last character. -/
  gap : Gap := {}

def plainParts (flow : Bool) (indent : Nat) (start : Place) :
    Nat → PlainScalar → Cursor → Except Fault (PlainScalar × Cursor)
  | 0, s, c => .ok (s, c)
  | fuel + 1, s, c =>
      if (c.place.column = 0 && isDocumentIndicator c.rest) || c.at? '#' then .ok (s, c)
      else
        let (part, stray) := plainPart flow c.rest
        let next := c.skip part.length
        if stray then next.fail .plainColon .plainScalar start
        else
          let s := if part.isEmpty then s else
            { text := part.reverse ++ (s.gap.folded.reverse ++ s.text), stop := next.place }
          let (gap, behind) := Gap.read indent false next.rest next.place
          if behind.place.index = next.place.index then .ok (s, next)
          else
            match gap.tab with
            | some place =>
                .error (.malformed .plainTab place (some (.plainScalar, start)))
            | none =>
                let s := { s with gap }
                if !flow && behind.place.column < indent then .ok (s, behind)
                else plainParts flow indent start fuel s behind

/-- Read a plain scalar. The answer tells whether line breaks were passed behind it. -/
def readPlain (flow : Bool) (indent : Nat) (c : Cursor) : Except Fault (Token × Cursor × Bool) := do
  let (s, next) ← plainParts flow indent c.place (c.rest.length + 1) { stop := c.place } c
  .ok (⟨.scalar s.text.reverse .plain, c.place, s.stop⟩, next, !s.gap.breaks.isEmpty)

/-! Quoted scalars -/

/-- Part of a quoted scalar: its characters, how many characters write them, and whether it ends
at an escaped line break. -/
structure QuotedPart where
  text : List Char := []
  length : Nat := 0
  escapedBreak : Bool := false

namespace QuotedPart

def cons (c : Char) (n : Nat) (p : QuotedPart) : QuotedPart :=
  { p with text := c :: p.text, length := p.length + n }

end QuotedPart

/-- In single quotes only the quote is written twice. -/
def singlePart : List Char → QuotedPart
  | '\'' :: '\'' :: rest => (singlePart rest).cons '\'' 2
  | c :: rest =>
      if c = '\'' || isBlank c || isBreak c then {} else (singlePart rest).cons c 1
  | [] => {}

inductive Escape where
  /-- A character, written with so many characters. -/
  | char (c : Char) (length : Nat)
  | lineBreak
  /-- A problem behind so many characters, the backslash counted. -/
  | fault (problem : Problem) (offset : Nat)

def escapedChars : List (Char × Char) :=
  [('0', '\x00'), ('a', '\x07'), ('b', '\x08'), ('t', '\t'), ('\t', '\t'), ('n', '\n'),
   ('v', '\x0b'), ('f', '\x0c'), ('r', '\r'), ('e', '\x1b'), (' ', ' '), ('"', '"'), ('/', '/'),
   ('\\', '\\'), ('N', '\u0085'), ('_', '\u00a0'), ('L', '\u2028'), ('P', '\u2029')]

/-- Letters before a code point, and the number of its digits. -/
def codeLengths : List (Char × Nat) := [('x', 2), ('u', 4), ('U', 8)]

def codePoint (length : Nat) (rest : List Char) : Escape :=
  match (rest.take length).mapM hexValue? with
  | some digits =>
      let n := digits.foldl (fun n d => 16 * n + d) 0
      if digits.length < length then .fault .hexadecimal 2
      else if n.isValidChar then .char (Char.ofNat n) (length + 1)
      else .fault .codePoint 2
  | none => .fault .hexadecimal 2

def escapeOf : List Char → Escape
  | [] => .fault .escape 0
  | c :: rest =>
      if isBreak c then .lineBreak
      else match escapedChars.lookup c, codeLengths.lookup c with
        | some x, _ => .char x 1
        | none, some length => codePoint length rest
        | none, none => .fault .escape 0

/-- The part of a double-quoted scalar at the beginning of a text. So many characters belong to an
escape and are passed over, and so many were read before. -/
def doublePart : Nat → Nat → List Char → Except (Problem × Nat) QuotedPart
  | _, _, [] => .ok {}
  | skip + 1, read, _ :: rest => doublePart skip read rest
  | 0, read, c :: rest =>
      if c = '\\' then
        match escapeOf rest with
        | .char x n => (doublePart n (read + n + 1) rest).map (QuotedPart.cons x (n + 1))
        | .lineBreak => .ok { escapedBreak := true }
        | .fault problem offset => .error (problem, read + offset)
      else if c = '"' || isBlank c || isBreak c then .ok {}
      else (doublePart 0 (read + 1) rest).map (QuotedPart.cons c 1)

/-- Read the parts of a quoted scalar and its end. The text so far is held in reverse. -/
def quotedParts (single : Bool) (start : Place) :
    Nat → List Char → Cursor → Except Fault (List Char × Cursor)
  | 0, _, c => c.fail .endOfText .quotedScalar start
  | fuel + 1, text, c =>
      if c.place.column = 0 && isDocumentIndicator c.rest then
        c.fail .documentIndicator .quotedScalar start
      else if c.rest.isEmpty then c.fail .endOfText .quotedScalar start
      else
        match if single then .ok (singlePart c.rest) else doublePart 0 0 c.rest with
        | .error (problem, read) => (c.skip read).fail problem .quotedScalarEscape start
        | .ok part =>
            let next := c.skip part.length
            let next := if part.escapedBreak then (next.skip 1).skipBreak else next
            let text := part.text.reverse ++ text
            if next.at? (if single then '\'' else '"') then .ok (text, next.skip 1)
            else
              let (gap, behind) := Gap.read 0 part.escapedBreak next.rest next.place
              let between := if part.escapedBreak then gap.breaks else gap.folded
              quotedParts single start fuel (between.reverse ++ text) behind

def readQuoted (single : Bool) (c : Cursor) : Except Fault (Token × Cursor) := do
  let (text, next) ← quotedParts single c.place (c.rest.length + 2) [] (c.skip 1)
  let style := if single then .singleQuoted else .doubleQuoted
  .ok (⟨.scalar text.reverse style, c.place, next.place⟩, next)

end NullSafeEquality.Yaml
