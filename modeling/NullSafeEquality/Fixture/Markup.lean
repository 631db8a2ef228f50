import NullSafeEquality.Fixture.Entity
import NullSafeEquality.Text.Blank
import NullSafeEquality.Text.Bytes
import NullSafeEquality.Text.Lines

/-!
Markup of expected warnings inside a source text. An opening tag may describe the message that is
expected; anything that is not exactly a tag is text. Tags nest, and each pair gives one expectation
whose range is that of the text between them once all tags are taken out.
-/

namespace NullSafeEquality

structure ExpectedWarning where
  /-- Byte range in the text without markup. -/
  start : Nat
  stop : Nat
  /-- Line in the text without markup, counted from one. -/
  line : Nat
  /-- The message, if the markup gives one. -/
  descr : Option String
deriving DecidableEq

structure Fixture where
  source : String
  expected : List ExpectedWarning

namespace Fixture

inductive MarkupError where
  /-- A closing tag without an opening one, at a line of the text as it stands. -/
  | unmatched (line : Nat)
  /-- An opening tag without a closing one, at a line of the text without markup. -/
  | unclosed (line : Nat)
deriving DecidableEq

def MarkupError.message : MarkupError → String
  | .unmatched line => "unmatched </warning> at line " ++ toString line
  | .unclosed line => "unclosed <warning> at line " ++ toString line

inductive Tag where
  | opening (descr : Option (List Char))
  | closing
deriving DecidableEq

/-- The rest of a text behind a beginning. -/
def dropBeginning? : List Char → List Char → Option (List Char)
  | [], rest => some rest
  | p :: ps, c :: cs => if p = c then dropBeginning? ps cs else none
  | _ :: _, [] => none

/-- The end of an opening tag: blanks and an angle bracket. -/
def tagEnd? (cs : List Char) : Option (List Char) :=
  dropBeginning? ['>'] (cs.dropWhile Text.isBlank)

/-- The description in an opening tag: blanks, the key, and a text in quotes. -/
def description? (cs : List Char) : Option (List Char × List Char) :=
  match cs with
  | c :: _ =>
      if Text.isBlank c then do
        let rest ← dropBeginning? "descr=\"".toList (cs.dropWhile Text.isBlank)
        let text := rest.takeWhile (· ≠ '"')
        let rest ← dropBeginning? ['"'] (rest.dropWhile (· ≠ '"'))
        return (text, rest)
      else none
  | [] => none

def describedOpening? (cs : List Char) : Option (Tag × List Char) := do
  let (text, rest) ← description? cs
  let rest ← tagEnd? rest
  return (.opening (some text), rest)

/-- The tag at the beginning of a text, and the rest. -/
def tag? (cs : List Char) : Option (Tag × List Char) :=
  match dropBeginning? "<warning".toList cs with
  | some rest =>
      describedOpening? rest <|> (tagEnd? rest).map fun rest => (.opening none, rest)
  | none => (dropBeginning? "</warning>".toList cs).map fun rest => (.closing, rest)

inductive Piece where
  | char (c : Char)
  /-- A tag, with its own text. -/
  | tag (tag : Tag) (text : List Char)
deriving DecidableEq

/-- The pieces of a text. So many characters are passed over first. -/
def piecesFrom : Nat → List Char → List Piece
  | _, [] => []
  | skip + 1, _ :: cs => piecesFrom skip cs
  | 0, c :: cs =>
      match tag? (c :: cs) with
      | some (tag, rest) =>
          let length := (c :: cs).length - rest.length
          .tag tag ((c :: cs).take length) :: piecesFrom (length - 1) cs
      | none => .char c :: piecesFrom 0 cs

def pieces (cs : List Char) : List Piece := piecesFrom 0 cs

/-- An opening tag that is not closed yet: where it stands in the text without markup. -/
structure OpenTag where
  start : Nat
  line : Nat
  descr : Option (List Char)

/-- What is known of a text up to a piece. -/
structure Progress where
  /-- The text without markup, in reverse, its bytes and its line feeds. -/
  source : List Char := []
  bytes : Nat := 0
  lineFeeds : Nat := 0
  /-- Line feeds of the text as it stands. -/
  rawLineFeeds : Nat := 0
  /-- Open tags, the innermost first. -/
  pending : List OpenTag := []
  /-- Expectations, the latest first. -/
  expected : List ExpectedWarning := []

namespace Progress

def step (p : Progress) : Piece → Except MarkupError Progress
  | .char c =>
      let lineFeed := if c = '\n' then 1 else 0
      .ok { p with
        source := c :: p.source
        bytes := p.bytes + c.utf8Size
        lineFeeds := p.lineFeeds + lineFeed
        rawLineFeeds := p.rawLineFeeds + lineFeed }
  | .tag (.opening descr) text =>
      .ok { p with
        rawLineFeeds := p.rawLineFeeds + Text.lineFeeds text
        pending := ⟨p.bytes, p.lineFeeds + 1, descr⟩ :: p.pending }
  | .tag .closing text =>
      match p.pending with
      | [] => .error (.unmatched (p.rawLineFeeds + 1))
      | tag :: rest =>
          .ok { p with
            rawLineFeeds := p.rawLineFeeds + Text.lineFeeds text
            pending := rest
            expected :=
              { start := tag.start
                stop := p.bytes
                line := tag.line
                descr := tag.descr.map fun cs => String.ofList (unescapeChars cs) } :: p.expected }

def run (p : Progress) : List Piece → Except MarkupError Progress
  | [] => .ok p
  | piece :: rest =>
      match p.step piece with
      | .ok p => p.run rest
      | .error e => .error e

end Progress

/-- Order of expectations: by their beginning, then by their end. -/
def notAfter (a b : ExpectedWarning) : Bool :=
  a.start < b.start || (a.start = b.start && a.stop ≤ b.stop)

/-- Take the markup out of a text. -/
def parse (text : String) : Except MarkupError Fixture :=
  match Progress.run {} (pieces text.toList) with
  | .error e => .error e
  | .ok p =>
      match p.pending.getLast? with
      | some tag => .error (.unclosed tag.line)
      | none =>
          .ok { source := String.ofList p.source.reverse
                expected := p.expected.reverse.mergeSort notAfter }

end Fixture
end NullSafeEquality
