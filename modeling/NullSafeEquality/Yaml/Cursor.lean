import NullSafeEquality.Yaml.Fault

/-!
Classes of characters of a YAML text, and cursors: the characters that are left, with their place.
-/

namespace NullSafeEquality.Yaml

/-- Line feed, carriage return, next line, line and paragraph separator. -/
def isBreak (c : Char) : Bool :=
  c = '\n' || c = '\r' || c.toNat = 0x85 || c.toNat = 0x2028 || c.toNat = 0x2029

def isBlank (c : Char) : Bool := c = ' ' || c = '\t'

/-- A character of names of anchors, handles and directives. -/
def isWordChar (c : Char) : Bool := c.isAlphanum || c = '_' || c = '-'

def isFlowIndicator (c : Char) : Bool :=
  c = ',' || c = '[' || c = ']' || c = '\x7b' || c = '\x7d'

def isAllowed (c : Char) : Bool :=
  let n := c.toNat
  n = 9 || n = 10 || n = 13 || (0x20 ≤ n && n ≤ 0x7e) || n = 0x85 || (0xa0 ≤ n && n ≤ 0xd7ff) ||
  (0xe000 ≤ n && n ≤ 0xfffd) || 0x10000 ≤ n

def blankOrEnd : List Char → Bool
  | [] => true
  | c :: _ => isBlank c || isBreak c

def breakOrEnd : List Char → Bool
  | [] => true
  | c :: _ => isBreak c

/-- Is the beginning of a line the mark of a document's beginning or end? -/
def isDocumentIndicator : List Char → Bool
  | a :: b :: c :: rest => (a = '-' || a = '.') && b = a && c = a && blankOrEnd rest
  | _ => false

/-- What a line break stands for: a line feed, or the separator that it is. -/
def breakText (c : Char) : Char :=
  if c.toNat = 0x2028 || c.toNat = 0x2029 then c else '\n'

/-- Number of characters of the line break at the beginning. A return and a feed are one break. -/
def breakLength : List Char → Nat
  | '\r' :: '\n' :: _ => 2
  | c :: _ => if isBreak c then 1 else 0
  | [] => 0

structure Cursor where
  rest : List Char
  place : Place := {}
deriving Inhabited

namespace Cursor

/-- Pass over so many characters, none of them a line break. -/
def skip (c : Cursor) (n : Nat) : Cursor :=
  { rest := c.rest.drop n, place := c.place.advance (c.rest.take n) }

def skipWhile (p : Char → Bool) (c : Cursor) : Cursor :=
  c.skip (c.rest.takeWhile p).length

def skipBlanks (c : Cursor) : Cursor := c.skipWhile isBlank

def skipBreak (c : Cursor) : Cursor :=
  match breakLength c.rest with
  | 0 => c
  | n => { rest := c.rest.drop n, place := c.place.nextLine (c.rest.take n) }

def skipComment (c : Cursor) : Cursor :=
  if c.rest.head? = some '#' then c.skipWhile (!isBreak ·) else c

def at? (c : Cursor) (x : Char) : Bool := c.rest.head? = some x

def fail (c : Cursor) (problem : Problem) (activity : Activity) (start : Place) : Except Fault α :=
  .error (.malformed problem c.place (some (activity, start)))

/-- Pass over the rest of a line, which may hold blanks and a comment only, and its break. -/
def finishLine (c : Cursor) (activity : Activity) (start : Place) : Except Fault Cursor :=
  let c := c.skipBlanks.skipComment
  if breakOrEnd c.rest then .ok c.skipBreak else c.fail .lineEnd activity start

end Cursor
end NullSafeEquality.Yaml
