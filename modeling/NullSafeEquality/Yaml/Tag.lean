import NullSafeEquality.Yaml.Token

/-!
Reading of tags, anchors, aliases and directives. In a tag an octet may be written as a percent sign
and two hexadecimal digits; octets that are written so must form characters. Each function begins
at the character that announces its token.
-/

namespace NullSafeEquality.Yaml

def hexValue? (c : Char) : Option Nat :=
  if '0' ≤ c && c ≤ '9' then some (c.toNat - 48)
  else if 'a' ≤ c && c ≤ 'f' then some (c.toNat - 87)
  else if 'A' ≤ c && c ≤ 'F' then some (c.toNat - 55)
  else none

/-- A character of a tag. Inside angle brackets some more are allowed. -/
def isTagChar (verbatim : Bool) (c : Char) : Bool :=
  isWordChar c || ";/?:@&=+$.!~*'()".toList.contains c || (verbatim && ",[]".toList.contains c)

/-- Number of octets of a character that begins with an octet. -/
def octetCount? (octet : Nat) : Option Nat :=
  if octet < 0x80 then some 1
  else if 0xc0 ≤ octet && octet < 0xe0 then some 2
  else if 0xe0 ≤ octet && octet < 0xf0 then some 3
  else if 0xf0 ≤ octet && octet < 0xf8 then some 4
  else none

/-- The characters of a tag, and how many characters write them. So many octets are still missing
from a character, and so many characters were read before. Each octet gives one character. -/
def tagChars (verbatim : Bool) : Nat → Nat → List Char → Except (Problem × Nat) (List Char × Nat)
  | missing, read, '%' :: a :: b :: rest =>
      match hexValue? a, hexValue? b with
      | some x, some y =>
          let octet := 16 * x + y
          match missing with
          | 0 =>
              match octetCount? octet with
              | some count =>
                  (tagChars verbatim (count - 1) (read + 3) rest).map fun (cs, n) =>
                    (Char.ofNat octet :: cs, n)
              | none => .error (.leadingOctet, read)
          | missing + 1 =>
              if octet / 64 = 2 then
                (tagChars verbatim missing (read + 3) rest).map fun (cs, n) =>
                  (Char.ofNat octet :: cs, n)
              else .error (.trailingOctet, read)
      | _, _ => .error (.escapedOctet, read)
  | 0, read, c :: rest =>
      if c = '%' then .error (.escapedOctet, read)
      else if isTagChar verbatim c then
        (tagChars verbatim 0 (read + 1) rest).map fun (cs, n) => (c :: cs, n)
      else .ok ([], read)
  | 0, read, [] => .ok ([], read)
  | _ + 1, read, _ => .error (.escapedOctet, read)

/-- Read the characters of a tag. At least one is needed unless some are known already. What follows a
null character is read and dropped. -/
def readTagChars (c : Cursor) (verbatim : Bool) (head : List Char) (activity : Activity)
    (start : Place) : Except Fault (List Char × Cursor) :=
  match tagChars verbatim 0 0 c.rest with
  | .error (problem, read) => (c.skip read).fail problem activity start
  | .ok (cs, read) =>
      if cs.isEmpty && head.isEmpty then c.fail .uri activity start
      else .ok ((head.drop 1 ++ cs).takeWhile (·.toNat ≠ 0), c.skip read)

/-- An exclamation mark, letters, and a second mark if there is one. -/
def handleOf : List Char → List Char
  | c :: rest =>
      let word := rest.takeWhile isWordChar
      match rest.dropWhile isWordChar with
      | '!' :: _ => c :: word ++ ['!']
      | _ => c :: word
  | [] => []

def readWrittenTag (c : Cursor) : Except Fault (WrittenTag × Cursor) :=
  let start := c.place
  if c.rest[1]? = some '<' then do
    let (suffix, c) ← readTagChars (c.skip 2) true [] .tagParts start
    if c.at? '>' then .ok (⟨[], suffix⟩, c.skip 1) else c.fail .verbatimEnd .tag start
  else
    let handle := handleOf c.rest
    let c := c.skip handle.length
    if 2 ≤ handle.length && handle.getLast? = some '!' then do
      let (suffix, c) ← readTagChars c false [] .tagParts start
      .ok (⟨handle, suffix⟩, c)
    else do
      let (suffix, c) ← readTagChars c false handle .tagParts start
      .ok (if suffix.isEmpty then ⟨[], ['!']⟩ else ⟨['!'], suffix⟩, c)

/-- A blank, a line break or, inside brackets, a comma must follow a tag. -/
def readTag (flow : Bool) (c : Cursor) : Except Fault (Token × Cursor) := do
  let (written, next) ← readWrittenTag c
  if (flow && next.at? ',') || blankOrEnd next.rest then
    .ok (⟨.tag written, c.place, next.place⟩, next)
  else next.fail .blankOrBreakExpected .tag c.place

/-- May the text behind the name of an anchor go on so? -/
def endsName (rest : List Char) : Bool :=
  blankOrEnd rest || match rest with
    | c :: _ => "?:,]\x7d%@\x60".toList.contains c
    | [] => true

def readName (kind : List Char → TokenKind) (activity : Activity) (c : Cursor) :
    Except Fault (Token × Cursor) :=
  let name := (c.rest.drop 1).takeWhile isWordChar
  let next := c.skip (name.length + 1)
  if !name.isEmpty && endsName next.rest then .ok (⟨kind name, c.place, next.place⟩, next)
  else next.fail .anchorName activity c.place

/-- A number of a version, of at most nine digits. -/
def readVersionNumber (start : Place) (c : Cursor) : Except Fault (Nat × Cursor) :=
  let digits := c.rest.takeWhile Char.isDigit
  if 9 < digits.length then (c.skip 9).fail .versionLength .versionDirective start
  else if digits.isEmpty then c.fail .versionNumber .versionDirective start
  else .ok (digits.foldl (fun n d => 10 * n + (d.toNat - 48)) 0, c.skip digits.length)

def readVersion (start : Place) (c : Cursor) : Except Fault (TokenKind × Cursor) := do
  let (major, c) ← readVersionNumber start c.skipBlanks
  if c.at? '.' then
    let (minor, c) ← readVersionNumber start (c.skip 1)
    .ok (.versionDirective major minor, c)
  else c.fail .versionDot .versionDirective start

def readTagDirective (start : Place) (c : Cursor) : Except Fault (TokenKind × Cursor) := do
  let c := c.skipBlanks
  if !c.at? '!' then c.fail .handleStart .tagDirectiveHandle start
  else
    let handle := handleOf c.rest
    let c := c.skip handle.length
    if handle ≠ ['!'] && handle.getLast? ≠ some '!' then
      c.fail .handleStart .tagDirectivePart start
    else if !(c.rest.head?.any isBlank) then c.fail .blankExpected .tagDirective start
    else
      let (beginning, c) ← readTagChars c.skipBlanks true [] .tagDirectiveParts start
      if blankOrEnd c.rest then .ok (.tagDirective handle beginning, c)
      else c.fail .blankOrBreakExpected .tagDirective start

def readDirective (c : Cursor) : Except Fault (Token × Cursor) := do
  let start := c.place
  let name := (c.rest.drop 1).takeWhile isWordChar
  let next := c.skip (name.length + 1)
  if name.isEmpty then next.fail .directiveName .directive start
  else if !blankOrEnd next.rest then next.fail .directiveNameEnd .directive start
  else
    let (kind, stop) ←
      if name = "YAML".toList then readVersion start next
      else if name = "TAG".toList then readTagDirective start next
      else next.fail .unknownDirective .directive start
    let after ← stop.finishLine .directive start
    .ok (⟨kind, start, stop.place⟩, after)

end NullSafeEquality.Yaml
