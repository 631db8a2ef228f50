import NullSafeEquality.Config
import NullSafeEquality.Text.Blank
import NullSafeEquality.Yaml.Document
import NullSafeEquality.Yaml.Resolution

/-!
Options of an inspection read from YAML. The document is a mapping; keys that name no option are
passed over with their values. The first thing that is wrong with the options is reported before
anything that is wrong with the text behind it. A text without a document gives the defaults.
-/

namespace NullSafeEquality

open Yaml (Event Fault Meaning Place TagKind)

/-- What was found in the place of something else. -/
inductive Unfit where
  | sequence | mapping
  | scalar (meaning : Meaning)
  /-- A scalar that is not what its tag says. -/
  | mistagged (text : String) (kind : TagKind)

/-- What a place in the document is for. -/
inductive ConfigPart where
  | options | optionName
  | ignoreNullCheck
  /-- The value of an option whose name is an alias. -/
  | aliasedOption

/-- Why a text holds no options. -/
inductive ConfigError where
  | malformed (fault : Fault)
  | unfit (part : ConfigPart) (found : Unfit) (place : Place)
  | duplicate (place : Place)
  | severalDocuments

namespace ConfigPart

def path : ConfigPart → String
  | .options | .optionName => ""
  | .ignoreNullCheck => "ignore_null_check: "
  | .aliasedOption => "?: "

def expectation : ConfigPart → String
  | .options => "struct InspectionConfig"
  | .optionName => "field identifier"
  | .ignoreNullCheck | .aliasedOption => "a boolean"

end ConfigPart

namespace ConfigError

/-- What was found and what was expected. A tag names what it asks for itself. -/
def mismatch (part : ConfigPart) : Unfit → String
  | .sequence => "invalid type: sequence, expected " ++ part.expectation
  | .mapping => "invalid type: map, expected " ++ part.expectation
  | .scalar meaning => "invalid type: " ++ meaning.text ++ ", expected " ++ part.expectation
  | .mistagged text kind =>
      "invalid value: string " ++ Text.quoted text ++ ", expected " ++ kind.expectation

def message : ConfigError → String
  | .malformed fault => fault.message
  | .unfit part found place => part.path ++ mismatch part found ++ place.mention
  | .duplicate place => "duplicate field `ignore_null_check`" ++ place.mention
  | .severalDocuments =>
      "deserializing from YAML containing more than one document is not supported"

end ConfigError

namespace InspectionConfig

/-- The events of a document from one on. -/
abbrev Events := List (Event × Place)

def unfitEvent : Event → Unfit
  | .scalar text tag style =>
      match Yaml.meaning text tag style with
      | .ok meaning => .scalar meaning
      | .error kind => .mistagged (String.ofList text) kind
  | .mappingStart => .mapping
  | _ => .sequence

/-- An event with its place, or those of the node that it is an alias of. -/
def follow (d : Yaml.Document) (event : Event × Place) : Event × Place :=
  match event with
  | (.aliasOf number, _) => ((d.targets.lookup number).bind (d.events[·]?)).getD event
  | event => event

/-- The events behind a node, of which so many collections are open. -/
def skipNode : Nat → Events → Option Events
  | _, [] => none
  | depth, (event, _) :: rest =>
      match event, depth with
      | .sequenceStart, depth | .mappingStart, depth => skipNode (depth + 1) rest
      | .sequenceEnd, depth + 1 | .mappingEnd, depth + 1 =>
          if depth = 0 then some rest else skipNode depth rest
      | _, 0 => some rest
      | _, depth => skipNode depth rest

/-- The end of the events is where the text could not be read any further. -/
def brokenOff (d : Yaml.Document) : ConfigError :=
  match d.fault with
  | some fault => .malformed fault
  | none => .severalDocuments

def optionName (event : Event × Place) : Except ConfigError String :=
  match event with
  | (.scalar text _ _, _) => .ok (String.ofList text)
  | (event, place) => .error (.unfit .optionName (unfitEvent event) place)

def truthValue (part : ConfigPart) (event : Event × Place) : Except ConfigError Bool :=
  match event with
  | (.scalar text tag style, place) =>
      match Yaml.scalarBool? text tag style with
      | some b => .ok b
      | none => .error (.unfit part (unfitEvent (.scalar text tag style)) place)
  | (event, place) => .error (.unfit part (unfitEvent event) place)

/-- Read options up to the end of their mapping, which began at a place. -/
def readOptions (d : Yaml.Document) (start : Place) :
    Nat → Option Bool → Events → Except ConfigError (Option Bool)
  | _, _, [] => .error (brokenOff d)
  | _, known, (.mappingEnd, _) :: _ => .ok known
  | 0, known, _ => .ok known
  | fuel + 1, known, key :: rest => do
      let name ← optionName (follow d key)
      if name = "ignore_null_check" then
        if known.isSome then .error (.duplicate start)
        else match rest with
          | [] => .error (brokenOff d)
          | value :: rest => do
              let part := match key with
                | (.aliasOf _, _) => .aliasedOption
                | _ => .ignoreNullCheck
              let b ← truthValue part (follow d value)
              readOptions d start fuel (some b) rest
      else match skipNode 0 rest with
        | none => .error (brokenOff d)
        | some rest => readOptions d start fuel known rest

/-- The options of a document. A plain scalar without text stands for no options. -/
def ofDocument (d : Yaml.Document) : Except ConfigError InspectionConfig :=
  match d.events.toList with
  | [] => match d.fault with
      | some fault => .error (.malformed fault)
      | none => .ok {}
  | (.mappingStart, start) :: rest => do
      let known ← readOptions d start rest.length none rest
      .ok { ignoreNullCheck := known.getD true }
  | (.scalar [] _ .plain, _) :: _ => .ok {}
  | (event, place) :: _ => .error (.unfit .options (unfitEvent event) place)

def ofYaml (text : String) : Except ConfigError InspectionConfig :=
  if Text.isAllBlank text then .ok {}
  else
    let d := Yaml.Document.ofText text
    match ofDocument d, d.fault with
    | .error e, _ => .error e
    | .ok _, some fault => .error (.malformed fault)
    | .ok config, none => if d.hasMore then .error .severalDocuments else .ok config

end InspectionConfig
end NullSafeEquality
