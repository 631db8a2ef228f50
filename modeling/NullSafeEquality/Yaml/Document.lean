import NullSafeEquality.Yaml.Event

/-!
The first document of a YAML text. A document may begin with directives and a mark; what stands
behind it is read only so far that we know whether there is more.
-/

namespace NullSafeEquality.Yaml

structure Document where
  events : Array (Event × Place)
  /-- Where the nodes of anchors begin, by their numbers. -/
  targets : List (Nat × Nat)
  /-- Why the text could not be read to the end of the document. -/
  fault : Option Fault
  /-- Does anything stand behind the document? -/
  hasMore : Bool

namespace Reading

/-- What handles stand for unless a directive says otherwise. -/
def defaultHandles : List (List Char × List Char) :=
  [(['!'], ['!']), (['!', '!'], "tag:yaml.org,2002:".toList)]

/-- Read directives. At most one tells the version, and none tells of a handle again. -/
def directives (fuel : Nat) (versionSeen : Bool) (handles : List (List Char × List Char)) :
    Reading Unit := do
  let t ← peek
  match fuel, t.kind with
  | 0, _ => pure ()
  | fuel + 1, .versionDirective major minor => do
      if versionSeen then fail .duplicateVersion t.start none
      else if major ≠ 1 || (minor ≠ 1 && minor ≠ 2) then fail .incompatibleVersion t.start none
      else do
        take
        directives fuel true handles
  | fuel + 1, .tagDirective handle beginning => do
      if (handles.lookup handle).isSome then fail .duplicateHandle t.start none
      else do
        take
        directives fuel versionSeen ((handle, beginning) :: handles)
  | _ + 1, _ => modify fun r => { r with handles := handles ++ defaultHandles }

/-- The end of a document, where a mark may stand. -/
def documentEnd : Reading Unit := do
  if (← peek).kind = .documentEnd then take

def atEnd : Nat → Reading Bool
  | 0 => pure true
  | fuel + 1 => do
      match (← peek).kind with
      | .documentEnd => do
          take
          atEnd fuel
      | .streamEnd => pure true
      | _ => pure false

/-- Is a document's node left out? -/
def endsDocument : TokenKind → Bool
  | .versionDirective .. | .tagDirective .. | .documentStart | .documentEnd | .streamEnd => true
  | _ => false

def document (fuel : Nat) : Reading Unit := do
  discard peek
  take
  let t ← peek
  match t.kind with
  | .streamEnd => pure ()
  | .versionDirective .. | .tagDirective .. | .documentStart => do
      directives fuel false []
      let mark ← peek
      if mark.kind ≠ .documentStart then fail .documentStart mark.start none
      else do
        take
        let content ← peek
        if endsDocument content.kind then emptyScalar content.start else node fuel true false
        documentEnd
  | _ => do
      modify fun r => { r with handles := defaultHandles }
      node fuel true false
      documentEnd

end Reading

namespace Document

/-- Steps that suffice for a text: a character gives few tokens, and a token takes few steps. -/
def fuelFor (text : String) : Nat := 8 * (text.length + 4)

/-- The byte position of the first character that no text may hold. -/
def controlCharacter? : Nat → List Char → Option Nat
  | _, [] => none
  | bytes, c :: rest =>
      if isAllowed c then controlCharacter? (bytes + c.utf8Size) rest else some bytes

def ofText (text : String) : Document :=
  match controlCharacter? 0 text.toList with
  | some bytes =>
      { events := #[], targets := [], fault := some (.controlCharacter bytes), hasMore := false }
  | none =>
      match (Reading.document (fuelFor text)).run { tokens := .ofText text } with
      | .error fault r =>
          { events := r.events, targets := r.targets, fault := some fault, hasMore := false }
      | .ok _ r =>
          let hasMore := match (Reading.atEnd (fuelFor text)).run r with
            | .ok isLast _ => !isLast
            | .error _ _ => true
          { events := r.events, targets := r.targets, fault := none, hasMore }

end Document
end NullSafeEquality.Yaml
