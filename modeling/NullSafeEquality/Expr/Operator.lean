/-!
Operators of expressions. Each family is a finite type with the token that writes it; reading a
token looks the operator up in the list of all members, so reading and writing cannot drift apart.
-/

namespace NullSafeEquality

inductive LiteralKind where
  | null | bool | int | float | char | string
deriving DecidableEq

inductive BinaryOp where
  | add | sub | mul | div | mod
  | eq | ne | lt | le | gt | ge
  | and | or
  | bitAnd | bitOr | bitXor | shl | shr | ushr
deriving DecidableEq

/-- Sign and negation operators, written before their operand. -/
inductive UnaryOp where
  | neg | plus | not | bitNot
deriving DecidableEq

/-- Increments and decrements, before or after their operand. -/
inductive UpdateOp where
  | preInc | preDec | postInc | postDec
deriving DecidableEq

namespace LiteralKind

def all : List LiteralKind := [.null, .bool, .int, .float, .char, .string]

def label : LiteralKind → String
  | .null => "Null"
  | .bool => "Bool"
  | .int => "Int"
  | .float => "Float"
  | .char => "Char"
  | .string => "String"

end LiteralKind

namespace BinaryOp

def all : List BinaryOp :=
  [.add, .sub, .mul, .div, .mod, .eq, .ne, .lt, .le, .gt, .ge, .and, .or,
   .bitAnd, .bitOr, .bitXor, .shl, .shr, .ushr]

def token : BinaryOp → String
  | .add => "+"
  | .sub => "-"
  | .mul => "*"
  | .div => "/"
  | .mod => "%"
  | .eq => "=="
  | .ne => "!="
  | .lt => "<"
  | .le => "<="
  | .gt => ">"
  | .ge => ">="
  | .and => "&&"
  | .or => "||"
  | .bitAnd => "&"
  | .bitOr => "|"
  | .bitXor => "^"
  | .shl => "<<"
  | .shr => ">>"
  | .ushr => ">>>"

def label : BinaryOp → String
  | .add => "Add"
  | .sub => "Sub"
  | .mul => "Mul"
  | .div => "Div"
  | .mod => "Mod"
  | .eq => "Eq"
  | .ne => "Ne"
  | .lt => "Lt"
  | .le => "Le"
  | .gt => "Gt"
  | .ge => "Ge"
  | .and => "And"
  | .or => "Or"
  | .bitAnd => "BitAnd"
  | .bitOr => "BitOr"
  | .bitXor => "BitXor"
  | .shl => "Shl"
  | .shr => "Shr"
  | .ushr => "UShr"

def ofToken? (text : String) : Option BinaryOp := all.find? (·.token == text)

end BinaryOp

namespace UnaryOp

def all : List UnaryOp := [.neg, .plus, .not, .bitNot]

def token : UnaryOp → String
  | .neg => "-"
  | .plus => "+"
  | .not => "!"
  | .bitNot => "~"

def label : UnaryOp → String
  | .neg => "Neg"
  | .plus => "Plus"
  | .not => "Not"
  | .bitNot => "BitNot"

def ofToken? (text : String) : Option UnaryOp := all.find? (·.token == text)

end UnaryOp

namespace UpdateOp

def all : List UpdateOp := [.preInc, .preDec, .postInc, .postDec]

def label : UpdateOp → String
  | .preInc => "PreInc"
  | .preDec => "PreDec"
  | .postInc => "PostInc"
  | .postDec => "PostDec"

end UpdateOp
end NullSafeEquality
