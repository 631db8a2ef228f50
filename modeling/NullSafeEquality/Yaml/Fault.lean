/-!
What can be wrong with a YAML text, and the wording of it. A fault stands at a place; most name what
was being read, with the place where that began. The first place of a text is never written.
-/

namespace NullSafeEquality.Yaml

/-- A place in a text: bytes, line breaks, and characters since the last line break. -/
structure Place where
  index : Nat := 0
  line : Nat := 0
  column : Nat := 0
deriving DecidableEq, Inhabited

namespace Place

/-- Is this the first place of its text, or as good as the first? -/
def isFirst (p : Place) : Bool := p.line = 0 && p.column = 0

def advance (p : Place) (cs : List Char) : Place :=
  { p with index := cs.foldl (fun n c => n + c.utf8Size) p.index, column := p.column + cs.length }

def nextLine (p : Place) (cs : List Char) : Place := { p.advance cs with line := p.line + 1, column := 0 }

/-- Lines and columns are counted from one. -/
def text (p : Place) : String :=
  "line " ++ toString (p.line + 1) ++ " column " ++ toString (p.column + 1)

def mention (p : Place) : String := if p.isFirst then "" else " at " ++ p.text

end Place

inductive Problem where
  | tokenStart | blockEntryPlace | keyPlace | valuePlace | simpleKeyValue
  | directiveName | directiveNameEnd | unknownDirective | lineEnd
  | versionDot | versionNumber | versionLength
  | handleStart | blankExpected | blankOrBreakExpected | uri | verbatimEnd
  | escapedOctet | leadingOctet | trailingOctet
  | anchorName
  | zeroIndentation | tabIndentation
  | documentIndicator | endOfText | escape | hexadecimal | codePoint
  | plainColon | plainTab
  | documentStart | nodeContent | undefinedHandle | duplicateVersion | incompatibleVersion
  | duplicateHandle | blockEntry | blockKey | flowSequenceSeparator | flowMappingSeparator
deriving DecidableEq

def Problem.text : Problem → String
  | .tokenStart => "found character that cannot start any token"
  | .blockEntryPlace => "block sequence entries are not allowed in this context"
  | .keyPlace => "mapping keys are not allowed in this context"
  | .valuePlace => "mapping values are not allowed in this context"
  | .simpleKeyValue => "could not find expected ':'"
  | .directiveName => "could not find expected directive name"
  | .directiveNameEnd => "found unexpected non-alphabetical character"
  | .unknownDirective => "found unknown directive name"
  | .lineEnd => "did not find expected comment or line break"
  | .versionDot => "did not find expected digit or '.' character"
  | .versionNumber => "did not find expected version number"
  | .versionLength => "found extremely long version number"
  | .handleStart => "did not find expected '!'"
  | .blankExpected => "did not find expected whitespace"
  | .blankOrBreakExpected => "did not find expected whitespace or line break"
  | .uri => "did not find expected tag URI"
  | .verbatimEnd => "did not find the expected '>'"
  | .escapedOctet => "did not find URI escaped octet"
  | .leadingOctet => "found an incorrect leading UTF-8 octet"
  | .trailingOctet => "found an incorrect trailing UTF-8 octet"
  | .anchorName => "did not find expected alphabetic or numeric character"
  | .zeroIndentation => "found an indentation indicator equal to 0"
  | .tabIndentation => "found a tab character where an indentation space is expected"
  | .documentIndicator => "found unexpected document indicator"
  | .endOfText => "found unexpected end of stream"
  | .escape => "found unknown escape character"
  | .hexadecimal => "did not find expected hexadecimal number"
  | .codePoint => "found invalid Unicode character escape code"
  | .plainColon => "found unexpected ':'"
  | .plainTab => "found a tab character that violates indentation"
  | .documentStart => "did not find expected <document start>"
  | .nodeContent => "did not find expected node content"
  | .undefinedHandle => "found undefined tag handle"
  | .duplicateVersion => "found duplicate %YAML directive"
  | .incompatibleVersion => "found incompatible YAML document"
  | .duplicateHandle => "found duplicate %TAG directive"
  | .blockEntry => "did not find expected '-' indicator"
  | .blockKey => "did not find expected key"
  | .flowSequenceSeparator => "did not find expected ',' or ']'"
  | .flowMappingSeparator => "did not find expected ',' or '\x7d'"

inductive Activity where
  | nextToken | simpleKey | directive | versionDirective | tagDirective | tagDirectiveHandle
  | tagDirectivePart | tagDirectiveParts | tag | tagParts | anchor | aliasName | blockScalar
  | quotedScalar | quotedScalarEscape | plainScalar | blockNode | flowNode | node | blockSequence | blockMapping
  | flowSequence | flowMapping
deriving DecidableEq

def Activity.text : Activity → String
  | .nextToken => "while scanning for the next token"
  | .simpleKey => "while scanning a simple key"
  | .directive => "while scanning a directive"
  | .versionDirective => "while scanning a %YAML directive"
  | .tagDirective => "while scanning a %TAG directive"
  | .tagDirectiveHandle => "while scanning a tag directive"
  | .tagDirectivePart => "while parsing a tag directive"
  | .tagDirectiveParts => "while parsing a %TAG directive"
  | .tag => "while scanning a tag"
  | .tagParts => "while parsing a tag"
  | .anchor => "while scanning an anchor"
  | .aliasName => "while scanning an alias"
  | .blockScalar => "while scanning a block scalar"
  | .quotedScalar => "while scanning a quoted scalar"
  | .quotedScalarEscape => "while parsing a quoted scalar"
  | .plainScalar => "while scanning a plain scalar"
  | .blockNode => "while parsing a block node"
  | .flowNode => "while parsing a flow node"
  | .node => "while parsing a node"
  | .blockSequence => "while parsing a block collection"
  | .blockMapping => "while parsing a block mapping"
  | .flowSequence => "while parsing a flow sequence"
  | .flowMapping => "while parsing a flow mapping"

inductive Fault where
  /-- A character that no text may hold, behind so many bytes. -/
  | controlCharacter (bytes : Nat)
  /-- A problem at a place, and what was being read, with the place where it began. -/
  | malformed (problem : Problem) (place : Place) (during : Option (Activity × Place))
  /-- An alias whose anchor has not been seen. -/
  | unknownAnchor (place : Place)
deriving DecidableEq

namespace Fault

/-- The place where the activity began is left out if the problem stands there too. -/
def during (problemPlace : Place) : Option (Activity × Place) → String
  | none => ""
  | some (activity, place) =>
      let samePlace := place.line = problemPlace.line && place.column = problemPlace.column
      ", " ++ activity.text ++ if samePlace then "" else place.mention

def message : Fault → String
  | .controlCharacter bytes =>
      "control characters are not allowed" ++
        if bytes = 0 then "" else " at position " ++ toString bytes
  | .malformed problem place context => problem.text ++ place.mention ++ Fault.during place context
  | .unknownAnchor place => "unknown anchor" ++ place.mention

end Fault
end NullSafeEquality.Yaml
