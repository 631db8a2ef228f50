import NullSafeEquality.Decimal.Shortest
import NullSafeEquality.Text.Quoted
import NullSafeEquality.Yaml.Event

/-!
What a scalar means. A plain one may be empty, a truth value, a number or a text, and a tag may ask
for one of these. Numbers keep what a message shows of them.
-/

namespace NullSafeEquality.Yaml

inductive Meaning where
  | unit
  | bool (value : Bool)
  | integer (value : Int)
  /-- A number with a fraction or an exponent, by its text. -/
  | decimal (text : String)
  | string (text : String)
deriving DecidableEq

inductive TagKind where
  | bool | integer | decimal | null
deriving DecidableEq

def TagKind.expectation : TagKind → String
  | .bool => "a boolean"
  | .integer => "an integer"
  | .decimal => "a float"
  | .null => "null"

def TagKind.ofTag? (tag : List Char) : Option TagKind :=
  [("tag:yaml.org,2002:bool".toList, TagKind.bool), ("tag:yaml.org,2002:int".toList, .integer),
   ("tag:yaml.org,2002:float".toList, .decimal), ("tag:yaml.org,2002:null".toList, .null)].lookup tag

def bool? (cs : List Char) : Option Bool :=
  if ["true".toList, "True".toList, "TRUE".toList].contains cs then some true
  else if ["false".toList, "False".toList, "FALSE".toList].contains cs then some false
  else none

def isNull (cs : List Char) : Bool :=
  ["null".toList, "Null".toList, "NULL".toList, ['~']].contains cs

/-- The rest behind a beginning. -/
def behind? (beginning cs : List Char) : Option (List Char) :=
  if beginning.isPrefixOf cs then some (cs.drop beginning.length) else none

/-- The number that digits of a base write, if there is one at least and nothing else. -/
def digits? (base : Nat) (cs : List Char) : Option Nat :=
  if cs.isEmpty then none
  else cs.foldlM (fun n c =>
    match hexValue? c with
    | some d => if d < base then some (base * n + d) else none
    | none => none) 0

def isSign (c : Char) : Bool := c = '+' || c = '-'

/-- Digits that begin with a zero, with or without a sign, are a text. -/
def isPadded (cs : List Char) : Bool :=
  let ds := match cs with
    | c :: rest => if isSign c then rest else cs
    | [] => []
  1 < ds.length && ds.head? = some '0' && ds.all Char.isDigit

def bases : List (List Char × Nat) := [("0x".toList, 16), ("0o".toList, 8), ("0b".toList, 2)]

def based? (cs : List Char) : Option Nat :=
  bases.firstM fun (mark, base) => (behind? mark cs).bind (digits? base)

def unsigned? (cs : List Char) : Option Nat :=
  let ds := (behind? ['+'] cs).getD cs
  based? ds <|> if isPadded cs then none else digits? 10 ds

def negative? (cs : List Char) : Option Nat := do
  let ds ← behind? ['-'] cs
  based? ds <|> if isPadded cs then none else digits? 10 ds

/-- A whole number of at most 128 bits. -/
def integer? (cs : List Char) : Option Int :=
  match unsigned? cs, negative? cs with
  | some n, _ => if n < Nat.pow 2 128 then some n else none
  | none, some n => if n ≤ Nat.pow 2 127 then some (-(n : Int)) else none
  | none, none => none

/-- Whole numbers of more than 64 bits are shown with their width. -/
def integerText (n : Int) : String :=
  let text := "integer `" ++ toString n ++ "`"
  if UInt64.size ≤ n then text ++ " as u128"
  else if n < Int64.minValue.toInt then text ++ " as i128"
  else text

def exponent? (cs : List Char) : Option Int :=
  match cs with
  | '-' :: ds => (digits? 10 ds).map fun n => -(n : Int)
  | '+' :: ds => (digits? 10 ds).map Int.ofNat
  | ds => (digits? 10 ds).map Int.ofNat

/-- Digits with or without a point, and with or without an exponent: the digits together, and the
power of ten of the last one. -/
def scientific? (cs : List Char) : Option (Nat × Int) := do
  let whole := cs.takeWhile Char.isDigit
  let rest := cs.dropWhile Char.isDigit
  let (fraction, rest) := match rest with
    | '.' :: more => (more.takeWhile Char.isDigit, more.dropWhile Char.isDigit)
    | rest => ([], rest)
  let digits ← digits? 10 (whole ++ fraction)
  let exponent ← match rest with
    | [] => some 0
    | c :: more => if c = 'e' || c = 'E' then exponent? more else none
  return (digits, exponent - fraction.length)

def finiteText? (cs : List Char) : Option String := do
  let (sign, body) := match cs with
    | '-' :: rest => ("-", rest)
    | '+' :: rest => ("", rest)
    | rest => ("", rest)
  let (digits, exponent) ← scientific? body
  let d ← Decimal.Double.ofDecimal? digits exponent
  return sign ++ d.text

/-- The text of a number, which may be infinite or none at all. -/
def decimalText? (cs : List Char) : Option String :=
  let unsigned := (behind? ['+'] cs).getD cs
  if [".inf".toList, ".Inf".toList, ".INF".toList].contains unsigned then some "inf"
  else if ["-.inf".toList, "-.Inf".toList, "-.INF".toList].contains cs then some "-inf"
  else if [".nan".toList, ".NaN".toList, ".NAN".toList].contains cs then some "NaN"
  else finiteText? cs

def plainMeaning (cs : List Char) : Meaning :=
  if cs.isEmpty || isNull cs then .unit
  else match bool? cs, integer? cs with
    | some b, _ => .bool b
    | none, some n => .integer n
    | none, none =>
        match if isPadded cs then none else decimalText? cs with
        | some text => .decimal text
        | none => .string (String.ofList cs)

/-- What a scalar means whose tag asks for something, if it can be that. -/
def taggedMeaning? (cs : List Char) : TagKind → Option Meaning
  | .bool => (bool? cs).map .bool
  | .integer => (integer? cs).map .integer
  | .decimal => (decimalText? cs).map .decimal
  | .null => if isNull cs then some .unit else none

/-- What a scalar means, or what its tag asks for and it is not. A tag of one's own changes
nothing. -/
def meaning (cs : List Char) (tag : Option (List Char)) (style : ScalarStyle) :
    Except TagKind Meaning :=
  match tag with
  | some tag =>
      match TagKind.ofTag? tag with
      | some kind =>
          match taggedMeaning? cs kind with
          | some m => .ok m
          | none => .error kind
      | none =>
          if tag.head? = some '!' && style = .plain then .ok (plainMeaning cs)
          else .ok (.string (String.ofList cs))
  | none => .ok (if style = .plain then plainMeaning cs else .string (String.ofList cs))

/-- How a message names what was found. -/
def Meaning.text : Meaning → String
  | .unit => "unit value"
  | .bool b => "boolean `" ++ (if b then "true" else "false") ++ "`"
  | .integer n => integerText n
  | .decimal text => "floating point `" ++ text ++ "`"
  | .string s => "string " ++ Text.quoted s

/-- The truth value that a scalar is. A tag does not hinder a plain one. -/
def scalarBool? (cs : List Char) (tag : Option (List Char)) (style : ScalarStyle) : Option Bool :=
  if style = .plain || (style = .literal && tag.bind TagKind.ofTag? = some .bool) then bool? cs
  else none

end NullSafeEquality.Yaml
