import NullSafeEquality.Yaml.BlockScalar
import NullSafeEquality.Yaml.FlowScalar

/-!
Tokens of a YAML text, read one after another as they are asked for. Indentation outside brackets
gives tokens of its own. A key is known only by the colon behind it, so a token that may begin a key
is held back until the colon has come or can come no more; a key keeps to its line and to 1024
characters.
-/

namespace NullSafeEquality.Yaml

/-- A place where a key may begin whose colon is still to come. -/
structure PossibleKey where
  /-- Can nothing but a key stand here? -/
  required : Bool
  /-- Number of its first token. -/
  number : Nat
  place : Place

structure TokenSource where
  cursor : Cursor
  started : Bool := false
  /-- Tokens that are read and not taken. -/
  queue : List Token := []
  /-- How many tokens were taken. -/
  taken : Nat := 0
  /-- Columns of the open blocks, the innermost first. -/
  indents : List Nat := []
  /-- The possible key outside brackets and inside each open bracket, the innermost first. -/
  keys : List (Option PossibleKey) := [none]
  /-- May a key begin here? -/
  keyAllowed : Bool := true
  /-- Is the first token of the queue certain? -/
  certain : Bool := false

namespace TokenSource

def ofText (text : String) : TokenSource := { cursor := { rest := text.toList } }

def flow (s : TokenSource) : Bool := 1 < s.keys.length

def place (s : TokenSource) : Place := s.cursor.place

def push (s : TokenSource) (t : Token) : TokenSource := { s with queue := s.queue ++ [t] }

def fail (s : TokenSource) (problem : Problem) : Except Fault α :=
  .error (.malformed problem s.place none)

def missingColon (s : TokenSource) (key : PossibleKey) : Except Fault α :=
  s.cursor.fail .simpleKeyValue .simpleKey key.place

def isExpired (s : TokenSource) (key : PossibleKey) : Bool :=
  key.place.line < s.place.line || key.place.index + 1024 < s.place.index

def expireKeys (s : TokenSource) : Except Fault TokenSource :=
  match s.keys.find? fun key => key.any fun key => s.isExpired key && key.required with
  | some (some key) => s.missingColon key
  | _ => .ok { s with keys := s.keys.map fun key => key.filter (!s.isExpired ·) }

def dropKey (s : TokenSource) : Except Fault TokenSource :=
  match s.keys with
  | some key :: rest =>
      if key.required then s.missingColon key else .ok { s with keys := none :: rest }
  | _ => .ok s

def noteKey (s : TokenSource) : Except Fault TokenSource :=
  if s.keyAllowed then do
    let required := !s.flow && s.indents.head? = some s.place.column
    let key : PossibleKey :=
      { required, number := s.taken + s.queue.length, place := s.place }
    let s ← s.dropKey
    .ok { s with keys := some key :: s.keys.drop 1 }
  else .ok s

/-- Begin a block at a column if it lies right of the blocks that are open. Its token comes before
the token of that number, or last. -/
def openBlock (s : TokenSource) (column : Nat) (number : Option Nat) (kind : TokenKind)
    (place : Place) : TokenSource :=
  if s.flow || s.indents.head?.any (column ≤ ·) then s
  else
    let token : Token := ⟨kind, place, place⟩
    let queue := match number with
      | some n => s.queue.insertIdx (n - s.taken) token
      | none => s.queue ++ [token]
    { s with indents := column :: s.indents, queue }

/-- End the blocks that lie right of a column, or all. -/
def closeBlocks (s : TokenSource) (column : Option Nat) : TokenSource :=
  if s.flow then s
  else
    let isRight := fun indent => column.all (· < indent)
    let closed := (s.indents.takeWhile isRight).map fun _ => Token.mk .blockEnd s.place s.place
    { s with indents := s.indents.dropWhile isRight, queue := s.queue ++ closed }

/-- Pass over blanks, comments and line breaks. A tab is no blank where a key may begin. Outside
brackets a key may begin behind a line break. The answer tells whether one may begin. -/
def skipFrom (flow : Bool) : Bool → Bool → List Char → Place → Cursor × Bool
  | _, keyAllowed, [], p => (⟨[], p⟩, keyAllowed)
  | _, keyAllowed, '\r' :: '\n' :: rest, p =>
      skipFrom flow false (!flow || keyAllowed) rest (p.nextLine ['\r', '\n'])
  | comment, keyAllowed, x :: rest, p =>
      if isBreak x then skipFrom flow false (!flow || keyAllowed) rest (p.nextLine [x])
      else if comment || x = ' ' || x = '#' || (x = '\t' && (flow || !keyAllowed)) ||
          (x = '\ufeff' && p.column = 0) then
        skipFrom flow (comment || x = '#') keyAllowed rest (p.advance [x])
      else (⟨x :: rest, p⟩, keyAllowed)

def skipToToken (s : TokenSource) : TokenSource :=
  let (cursor, keyAllowed) := skipFrom s.flow false s.keyAllowed s.cursor.rest s.place
  { s with cursor, keyAllowed }

def mark (s : TokenSource) (kind : TokenKind) (length : Nat) : TokenSource :=
  let next := s.cursor.skip length
  { s.push ⟨kind, s.place, next.place⟩ with cursor := next }

/-- The end of the text counts as the beginning of a line. -/
def finish (s : TokenSource) : Except Fault TokenSource := do
  let p := s.place
  let p := if p.column = 0 then p else { p with line := p.line + 1, column := 0 }
  let s := { s with cursor := { s.cursor with place := p } }.closeBlocks none
  let s ← s.dropKey
  .ok ({ s with keyAllowed := false }.mark .streamEnd 0)

def directive (s : TokenSource) : Except Fault TokenSource := do
  let s ← (s.closeBlocks none).dropKey
  let (token, cursor) ← readDirective s.cursor
  .ok { s.push token with cursor, keyAllowed := false }

def documentIndicator (s : TokenSource) (kind : TokenKind) : Except Fault TokenSource := do
  let s ← (s.closeBlocks none).dropKey
  .ok ({ s with keyAllowed := false }.mark kind 3)

def openBracket (s : TokenSource) (kind : TokenKind) : Except Fault TokenSource := do
  let s ← s.noteKey
  .ok ({ s with keys := none :: s.keys, keyAllowed := true }.mark kind 1)

def closeBracket (s : TokenSource) (kind : TokenKind) : Except Fault TokenSource := do
  let s ← s.dropKey
  let keys := if s.flow then s.keys.drop 1 else s.keys
  .ok ({ s with keys, keyAllowed := false }.mark kind 1)

def flowEntry (s : TokenSource) : Except Fault TokenSource := do
  let s ← s.dropKey
  .ok ({ s with keyAllowed := true }.mark .flowEntry 1)

def blockEntry (s : TokenSource) : Except Fault TokenSource :=
  if !s.flow && !s.keyAllowed then s.fail .blockEntryPlace
  else do
    let s := s.openBlock s.place.column none .blockSequenceStart s.place
    let s ← s.dropKey
    .ok ({ s with keyAllowed := true }.mark .blockEntry 1)

def explicitKey (s : TokenSource) : Except Fault TokenSource :=
  if !s.flow && !s.keyAllowed then s.fail .keyPlace
  else do
    let s := s.openBlock s.place.column none .blockMappingStart s.place
    let s ← s.dropKey
    .ok ({ s with keyAllowed := !s.flow }.mark .key 1)

/-- A colon. If a key was possible it has begun there. -/
def value (s : TokenSource) : Except Fault TokenSource :=
  match s.keys with
  | some key :: rest =>
      let token : Token := ⟨.key, key.place, key.place⟩
      let s := { s with queue := s.queue.insertIdx (key.number - s.taken) token }
      let s := s.openBlock key.place.column (some key.number) .blockMappingStart key.place
      .ok ({ s with keys := none :: rest, keyAllowed := false }.mark .value 1)
  | _ =>
      if !s.flow && !s.keyAllowed then s.fail .valuePlace
      else
        let s := s.openBlock s.place.column none .blockMappingStart s.place
        .ok ({ s with keyAllowed := !s.flow }.mark .value 1)

/-- A token that may begin a key and is read by a function. -/
def content (s : TokenSource) (read : Cursor → Except Fault (Token × Cursor)) :
    Except Fault TokenSource := do
  let s ← s.noteKey
  let (token, cursor) ← read s.cursor
  .ok { s.push token with cursor, keyAllowed := false }

def blockScalar (s : TokenSource) (literal : Bool) : Except Fault TokenSource := do
  let s ← s.dropKey
  let (token, cursor) ← readBlock literal s.indents.head? s.cursor
  .ok { s.push token with cursor, keyAllowed := true }

/-- A plain scalar. Where line breaks were passed behind it, a key may begin. -/
def plainScalar (s : TokenSource) : Except Fault TokenSource := do
  let s ← s.noteKey
  let indent := match s.indents with
    | n :: _ => n + 1
    | [] => 0
  let (token, cursor, broken) ← readPlain s.flow indent s.cursor
  .ok { s.push token with cursor, keyAllowed := broken }

def beginsPlain (flow : Bool) (x : Char) (rest : List Char) : Bool :=
  if x = '-' then true
  else if x = '?' || x = ':' then !flow && !blankOrEnd rest
  else !isBlank x && !",[]\x7b\x7d#&*!|>'\"%@\x60".toList.contains x

/-- Read the next token, with the tokens that indentation gives before it. -/
def fetch (s : TokenSource) : Except Fault TokenSource :=
  if !s.started then .ok ({ s with started := true }.mark .streamStart 0)
  else do
    let s ← s.skipToToken.expireKeys
    let s := s.closeBlocks (some s.place.column)
    match s.cursor.rest with
    | [] => s.finish
    | x :: rest =>
        if s.place.column = 0 && x = '%' then s.directive
        else if s.place.column = 0 && isDocumentIndicator (x :: rest) then
          s.documentIndicator (if x = '-' then .documentStart else .documentEnd)
        else if x = '[' then s.openBracket .flowSequenceStart
        else if x = '\x7b' then s.openBracket .flowMappingStart
        else if x = ']' then s.closeBracket .flowSequenceEnd
        else if x = '\x7d' then s.closeBracket .flowMappingEnd
        else if x = ',' then s.flowEntry
        else if x = '-' && blankOrEnd rest then s.blockEntry
        else if x = '?' && (s.flow || blankOrEnd rest) then s.explicitKey
        else if x = ':' && (s.flow || blankOrEnd rest) then s.value
        else if x = '*' then s.content (readName .aliasName .aliasName)
        else if x = '&' then s.content (readName .anchor .anchor)
        else if x = '!' then s.content (readTag s.flow)
        else if (x = '|' || x = '>') && !s.flow then s.blockScalar (x = '|')
        else if x = '\'' || x = '"' then s.content (readQuoted (x = '\''))
        else if beginsPlain s.flow x rest then s.plainScalar
        else s.cursor.fail .tokenStart .nextToken s.place

def needsMore (s : TokenSource) : Bool :=
  s.queue.isEmpty || s.keys.any fun key => key.any (·.number = s.taken)

def settle : Nat → TokenSource → Except Fault TokenSource
  | 0, s => .ok s
  | fuel + 1, s => do
      let s ← if s.queue.isEmpty then pure s else s.expireKeys
      if s.needsMore then settle fuel (← s.fetch) else .ok { s with certain := true }

def peek (s : TokenSource) : Except Fault (Token × TokenSource) := do
  let s ← if s.certain then pure s else settle (s.cursor.rest.length + 3) s
  match s.queue with
  | token :: _ => .ok (token, s)
  | [] => .ok (⟨.streamEnd, s.place, s.place⟩, s)

def take (s : TokenSource) : TokenSource :=
  { s with queue := s.queue.drop 1, taken := s.taken + 1, certain := false }

end TokenSource
end NullSafeEquality.Yaml
