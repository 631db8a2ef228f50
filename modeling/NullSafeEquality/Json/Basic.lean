/-!
JSON values and the reading of plain records from them. A plain record is written as an object, whose
unknown members are ignored, or as an array of all its fields in order. The record of a constructor
of expressions is not plain: it has the first form only.
-/

namespace NullSafeEquality

/-- A JSON value. Whole numbers from zero up are values; any other number is kept as its text. The
members of an object have distinct names and keep their order. -/
inductive Json where
  | null
  | bool (value : Bool)
  | natural (value : Nat)
  | number (text : String)
  | string (value : String)
  | array (items : List Json)
  | object (members : List (String × Json))
deriving Inhabited

namespace Json

def member? (key : String) : Json → Option Json
  | object members => members.lookup key
  | _ => none

/-- The fields of a record, in the order of the given names. Fields may be absent from an object;
an array holds them all. -/
def record? (names : List String) : Json → Option (List (Option Json))
  | object members => some (names.map fun name => members.lookup name)
  | array items => if items.length = names.length then some (items.map some) else none
  | _ => none

def bool? : Json → Option Bool
  | bool b => some b
  | _ => none

/-- A whole number of at most 64 bits. -/
def word? : Json → Option Nat
  | natural n => if n < UInt64.size then some n else none
  | _ => none

def string? : Json → Option String
  | string s => some s
  | _ => none

def list? (item? : Json → Option α) : Json → Option (List α)
  | array items => items.mapM item?
  | _ => none

/-- A field that may be absent or null. -/
def optional? (value? : Json → Option α) : Option Json → Option (Option α)
  | none | some null => some none
  | some j => (value? j).map some

/-- A member of a finite type, written as its label, or as an object with that label and null. -/
def choice? (all : List α) (label : α → String) : Json → Option α
  | string s => all.find? (label · == s)
  | object [(s, null)] => all.find? (label · == s)
  | _ => none

def ofOption (f : α → Json) : Option α → Json
  | none => null
  | some a => f a

end Json
end NullSafeEquality
