import NullSafeEquality.Grammar.Rule
import NullSafeEquality.Text.IdentifierChars

/-!
Tokens of Java: literals, identifiers and comments.
-/

namespace NullSafeEquality.Java

open Pattern

def oneOf (ranges : List (Char × Char)) : Pattern := set (.ofRanges ranges)

def oneChar (cs : String) : Pattern := set (.ofList cs.toList)

def noneOf (cs : String) : Pattern := set (.except cs.toList)

def decimalDigits : Pattern := plus (oneOf [('0', '9')])

def hexDigits : Pattern := plus (oneOf [('A', 'F'), ('a', 'f'), ('0', '9')])

/-- Digits with underscores between them. -/
def grouped (digits : Pattern) : Pattern := sepBy1 digits (ofString "_")

/-- A decimal number without leading zeros. -/
def digits : Pattern :=
  any [ofString "0",
    all [oneOf [('1', '9')],
      opt (seq (opt (ofString "_")) (sepBy1 decimalDigits (plus (ofString "_"))))]]

def either (a b : String) : Pattern := alt (ofString a) (ofString b)

def longSuffix : Pattern := opt (oneChar "lL")

def floatSuffix : Pattern := oneChar "fFdD"

def exponent : Pattern := all [oneChar "eE", opt (oneChar "-+"), grouped decimalDigits]

def decimalInteger : Pattern := all [digits, longSuffix]

def hexInteger : Pattern := all [either "0x" "0X", grouped hexDigits, longSuffix]

def octalInteger : Pattern :=
  all [any [ofString "0o", ofString "0O", ofString "0"], grouped (plus (oneOf [('0', '7')])),
    longSuffix]

def binaryInteger : Pattern :=
  all [either "0b" "0B", grouped (plus (oneOf [('0', '1')])), longSuffix]

def decimalFloat : Pattern :=
  any [
    all [grouped decimalDigits, ofString ".", opt (grouped decimalDigits), opt exponent,
      opt floatSuffix],
    all [ofString ".", grouped decimalDigits, opt exponent, opt floatSuffix],
    all [digits, exponent, opt floatSuffix],
    all [digits, opt exponent, floatSuffix]]

def hexFloat : Pattern :=
  all [either "0x" "0X",
    any [all [grouped hexDigits, opt (ofString ".")],
      all [opt (grouped hexDigits), ofString ".", grouped hexDigits]],
    opt (all [oneChar "pP", opt (oneChar "-+"), digits, opt floatSuffix])]

def characterLiteral : Pattern :=
  all [ofString "'",
    plus (any [noneOf "\\'\n", all [ofString "\\", noneOf "\n"], ofString "\\\n"]),
    ofString "'"]

/-- Text of a string up to a quote or an escape. -/
def stringFragment : Pattern := plus (noneOf "\"\\")

/-- Text of a text block from a quote on that does not end the block. -/
def quotedFragment : Pattern :=
  seq (ofString "\"") (star (any [noneOf "\"\\", ofString "\\\""]))

def escapeSequence : Pattern :=
  all [ofString "\\",
    any [noneOf "xu01234567",
      all [oneOf [('0', '7')], opt (oneOf [('0', '7')]), opt (oneOf [('0', '7')])],
      all [ofString "x", oneOf hexRanges, oneOf hexRanges],
      all [ofString "u", oneOf hexRanges, oneOf hexRanges, oneOf hexRanges, oneOf hexRanges],
      all [ofString "u\x7b", hexDigits, ofString "\x7d"]]]
where
  hexRanges : List (Char × Char) := [('0', '9'), ('a', 'f'), ('A', 'F')]

/-- A backslash before a character that needs none. -/
def looseEscape : Pattern := seq (ofString "\\") (noneOf "bfnrts'\"\\")

def identifier : Pattern :=
  seq (test Text.isIdentifierStart) (star (test Text.isIdentifierPart))

def lineComment : Pattern := seq (ofString "//") (star (noneOf "\n"))

def blockComment : Pattern :=
  all [ofString "/*", star (noneOf "*"), plus (ofString "*"),
    star (all [noneOf "/*", star (noneOf "*"), plus (ofString "*")]), ofString "/"]

/-- The tokens that are found in expressions, before all others. -/
def literalTokens : List (String × Definition) :=
  [("decimal_integer_literal", .token { pattern := decimalInteger }),
   ("hex_integer_literal", .token { pattern := hexInteger }),
   ("octal_integer_literal", .token { pattern := octalInteger }),
   ("binary_integer_literal", .token { pattern := binaryInteger }),
   ("decimal_floating_point_literal", .token { pattern := decimalFloat }),
   ("hex_floating_point_literal", .token { pattern := hexFloat }),
   ("true", .token { pattern := ofString "true" }),
   ("false", .token { pattern := ofString "false" }),
   ("character_literal", .token { pattern := characterLiteral })]

/-- Tokens whose text is a fixed word and that show in trees under a name. -/
def wordTokens : List (String × Definition) :=
  [("this", .token { pattern := ofString "this" }),
   ("super", .token { pattern := ofString "super" }),
   ("identifier", .token { pattern := identifier })]

def commentTokens : List (String × Definition) :=
  [("line_comment", .token { pattern := lineComment }),
   ("block_comment", .token { pattern := blockComment })]

def blanks : CharSet := { ranges := [(9, 13), (32, 32)] }

end NullSafeEquality.Java
