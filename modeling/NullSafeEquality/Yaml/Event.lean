import NullSafeEquality.Yaml.TokenSource

/-!
Events of a YAML document: its nodes in the order in which they are written, collections by their
beginning and their end. Reading stops at the first fault, and the events before it are kept.
-/

namespace NullSafeEquality.Yaml

inductive Event where
  /-- The node of the anchor with a number. -/
  | aliasOf (anchor : Nat)
  | scalar (text : List Char) (tag : Option (List Char)) (style : ScalarStyle)
  | sequenceStart | sequenceEnd
  | mappingStart | mappingEnd
deriving DecidableEq, Inhabited

/-- What is known of a text up to a token. -/
structure Recorder where
  tokens : TokenSource
  /-- What the handles of tags stand for. -/
  handles : List (List Char × List Char) := []
  /-- Names of anchors with their numbers. The number of an anchor is that of the names before it. -/
  anchors : List (List Char × Nat) := []
  /-- Where the nodes of anchors begin, by their numbers, the latest first. -/
  targets : List (Nat × Nat) := []
  events : Array (Event × Place) := #[]

abbrev Reading := EStateM Fault Recorder

namespace Reading

def peek : Reading Token := do
  let r ← get
  match r.tokens.peek with
  | .ok (token, tokens) => do
      set { r with tokens }
      pure token
  | .error fault => throw fault

def take : Reading Unit := modify fun r => { r with tokens := r.tokens.take }

def emit (event : Event) (place : Place) : Reading Unit :=
  modify fun r => { r with events := r.events.push (event, place) }

def fail (problem : Problem) (place : Place) (during : Option (Activity × Place)) : Reading α :=
  throw (.malformed problem place during)

/-- A node that is not written. -/
def emptyScalar (place : Place) : Reading Unit := emit (.scalar [] none .plain) place

/-- Give the next event to an anchor. -/
def nameNode (name : List Char) : Reading Unit := modify fun r =>
  let number := r.anchors.length
  { r with
    anchors := (name, number) :: r.anchors.filter (·.1 ≠ name)
    targets := (number, r.events.size) :: r.targets }

def aliasNode (name : List Char) (place : Place) : Reading Unit := do
  match (← get).anchors.lookup name with
  | some number => emit (.aliasOf number) place
  | none => throw (.unknownAnchor place)

/-- What stands before a node, and the places of its tag. -/
structure Properties where
  anchor : Option (List Char) := none
  tag : Option (WrittenTag × Place) := none

/-- Read an anchor and a tag in either order. -/
def properties : Reading Properties := do
  let t ← peek
  match t.kind with
  | .anchor name => do
      take
      let t' ← peek
      match t'.kind with
      | .tag written => do
          take
          pure { anchor := some name, tag := some (written, t'.start) }
      | _ => pure { anchor := some name }
  | .tag written => do
      take
      let t' ← peek
      match t'.kind with
      | .anchor name => do
          take
          pure { anchor := some name, tag := some (written, t.start) }
      | _ => pure { tag := some (written, t.start) }
  | _ => pure {}

def resolveTag (written : WrittenTag) (place start : Place) : Reading (List Char) := do
  if written.handle.isEmpty then pure written.suffix
  else match (← get).handles.lookup written.handle with
    | some beginning => pure (beginning ++ written.suffix)
    | none => fail .undefinedHandle place (some (.node, start))

/-- Tokens behind which a node of a block mapping is not written. -/
def endsBlockPart : TokenKind → Bool
  | .key | .value | .blockEnd => true
  | _ => false

/-- A node may be left out behind an anchor or a tag. -/
def emptyNode (block : Bool) (anchor tag : Option (List Char)) (start place : Place) :
    Reading Unit :=
  if anchor.isSome || tag.isSome then emit (.scalar [] tag .plain) start
  else fail .nodeContent place (some (if block then .blockNode else .flowNode, start))

mutual

/-- A node. Only outside brackets may it be a block, and only in a mapping a sequence without
indentation of its own. -/
def node (fuel : Nat) (block indentless : Bool) : Reading Unit := do
  let first ← peek
  match fuel, first.kind with
  | 0, _ => pure ()
  | _ + 1, .aliasName name => do
      take
      aliasNode name first.start
  | fuel + 1, _ => do
      let start := first.start
      let p ← properties
      let t ← peek
      let tag ← p.tag.mapM fun (written, place) => resolveTag written place start
      match p.anchor with
      | some name => nameNode name
      | none => pure ()
      match t.kind with
      | .blockEntry =>
          if indentless then do
            emit .sequenceStart start
            indentlessSequence fuel
          else emptyNode block p.anchor tag start t.start
      | .scalar text style => do
          take
          emit (.scalar text (tag.filter (· ≠ ['!'])) style) start
      | .flowSequenceStart => do
          emit .sequenceStart start
          take
          flowSequence fuel true t.start
      | .flowMappingStart => do
          emit .mappingStart start
          take
          flowMapping fuel true t.start
      | .blockSequenceStart =>
          if block then do
            emit .sequenceStart start
            take
            blockSequence fuel t.start
          else emptyNode block p.anchor tag start t.start
      | .blockMappingStart =>
          if block then do
            emit .mappingStart start
            take
            blockMapping fuel t.start
          else emptyNode block p.anchor tag start t.start
      | _ => emptyNode block p.anchor tag start t.start

def blockSequence (fuel : Nat) (start : Place) : Reading Unit := do
  let t ← peek
  match fuel, t.kind with
  | 0, _ => pure ()
  | fuel + 1, .blockEntry => do
      take
      match (← peek).kind with
      | .blockEntry | .blockEnd => emptyScalar t.stop
      | _ => node fuel true false
      blockSequence fuel start
  | _ + 1, .blockEnd => do
      emit .sequenceEnd t.start
      take
  | _ + 1, _ => fail .blockEntry t.start (some (.blockSequence, start))

/-- The entries of a sequence that has no indentation of its own. -/
def indentlessSequence (fuel : Nat) : Reading Unit := do
  let t ← peek
  match fuel, t.kind with
  | 0, _ => pure ()
  | fuel + 1, .blockEntry => do
      take
      match (← peek).kind with
      | .blockEntry | .key | .value | .blockEnd => emptyScalar t.stop
      | _ => node fuel true false
      indentlessSequence fuel
  | _ + 1, _ => emit .sequenceEnd t.start

def blockMapping (fuel : Nat) (start : Place) : Reading Unit := do
  let t ← peek
  match fuel, t.kind with
  | 0, _ => pure ()
  | fuel + 1, .key => do
      take
      if endsBlockPart (← peek).kind then emptyScalar t.stop else node fuel true true
      let v ← peek
      if v.kind = .value then do
        take
        if endsBlockPart (← peek).kind then emptyScalar v.stop else node fuel true true
      else emptyScalar v.start
      blockMapping fuel start
  | _ + 1, .blockEnd => do
      emit .mappingEnd t.start
      take
  | _ + 1, _ => fail .blockKey t.start (some (.blockMapping, start))

/-- The value of a pair inside brackets that end with a token. -/
def flowValue (fuel : Nat) (closing : TokenKind) : Reading Unit := do
  let v ← peek
  match fuel, v.kind with
  | 0, _ => pure ()
  | fuel + 1, .value => do
      take
      let w ← peek
      if w.kind = .flowEntry || w.kind = closing then emptyScalar w.start
      else node fuel false false
  | _ + 1, _ => emptyScalar v.start

/-- A pair that stands as an entry of a sequence. Where the key is left out, the token in its place
is passed over. -/
def flowPair (fuel : Nat) : Reading Unit := do
  let k ← peek
  match fuel, k.kind with
  | 0, _ => pure ()
  | fuel + 1, kind => do
      if kind = .value || kind = .flowEntry || kind = .flowSequenceEnd then do
        take
        emptyScalar k.stop
      else node fuel false false
      flowValue fuel .flowSequenceEnd
      emit .mappingEnd (← peek).start

def flowSequence (fuel : Nat) (first : Bool) (start : Place) : Reading Unit := do
  let t ← peek
  match fuel with
  | 0 => pure ()
  | fuel + 1 => do
      let t ←
        if first || t.kind = .flowSequenceEnd then pure t
        else if t.kind = .flowEntry then do
          take
          peek
        else fail .flowSequenceSeparator t.start (some (.flowSequence, start))
      match t.kind with
      | .flowSequenceEnd => do
          emit .sequenceEnd t.start
          take
      | .key => do
          emit .mappingStart t.start
          take
          flowPair fuel
          flowSequence fuel false start
      | _ => do
          node fuel false false
          flowSequence fuel false start

/-- The entries of a mapping in brackets that began at a place. A key without a question mark and
without a colon has no value. -/
def flowMapping (fuel : Nat) (first : Bool) (start : Place) : Reading Unit := do
  let t ← peek
  match fuel with
  | 0 => pure ()
  | fuel + 1 => do
      let t ←
        if first || t.kind = .flowMappingEnd then pure t
        else if t.kind = .flowEntry then do
          take
          peek
        else fail .flowMappingSeparator t.start (some (.flowMapping, start))
      match t.kind with
      | .flowMappingEnd => do
          emit .mappingEnd t.start
          take
      | .key => do
          take
          let k ← peek
          if k.kind = .value || k.kind = .flowEntry || k.kind = .flowMappingEnd then
            emptyScalar k.start
          else node fuel false false
          flowValue fuel .flowMappingEnd
          flowMapping fuel false start
      | _ => do
          node fuel false false
          emptyScalar (← peek).start
          flowMapping fuel false start

end

end Reading
end NullSafeEquality.Yaml
