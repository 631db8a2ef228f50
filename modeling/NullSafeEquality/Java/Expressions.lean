import NullSafeEquality.Java.Lexical

/-!
Rules of Java expressions. Binary operators, casts, assignments and conditionals are settled by
precedence; a name alone may be an expression or a type, and both readings are followed until the
text decides.
-/

namespace NullSafeEquality.Java

open Rule

def sym (name : String) : Rule := ref name

def tok (token : String) : Rule := Rule.text token

/-- How tightly constructs hold their parts. -/
inductive Level where
  | assignment | declaration | elementValue | conditional | or | and | bitOr | bitXor | bitAnd
  | equality | generic | relation | shift | addition | multiplication | cast | unary | classLiteral

def Level.toInt : Level → Int
  | .assignment => 1
  | .declaration => 2
  | .elementValue => 2
  | .conditional => 3
  | .or => 4
  | .and => 5
  | .bitOr => 6
  | .bitXor => 7
  | .bitAnd => 8
  | .equality => 9
  | .generic => 10
  | .relation => 10
  | .shift => 11
  | .addition => 12
  | .multiplication => 13
  | .cast => 14
  | .unary => 15
  | .classLiteral => 17

def plain (level : Level) (r : Rule) : Rule := prec level.toInt none r

def leftAssoc (level : Level) (r : Rule) : Rule := prec level.toInt (some .left) r

def rightAssoc (level : Level) (r : Rule) : Rule := prec level.toInt (some .right) r

/-- A construct that ends as late as it can, without a precedence of its own. -/
def greedy (r : Rule) : Rule := prec 0 (some .right) r

/-- A name: an identifier, or a word that is reserved in some places only. -/
def simpleName : Rule := choice [sym "identifier", sym "_reserved_identifier"]

def qualifiedName : Rule :=
  choice [sym "identifier", sym "_reserved_identifier", sym "scoped_identifier"]

def annotations : Rule := many (sym "_annotation")

/-- A type name under its own kind. -/
def typeName : Rule := renamed "type_identifier" (sym "identifier")

/-- A type that is no array. -/
def simpleType : Rule :=
  choice [
    sym "void_type", sym "integral_type", sym "floating_point_type", sym "boolean_type",
    typeName, sym "scoped_type_identifier", sym "generic_type"]

def variableInitializer : Rule := choice [sym "expression", sym "array_initializer"]

def binaryOperators : List (String × Level) :=
  [(">", .relation), ("<", .relation), (">=", .relation), ("<=", .relation),
   ("==", .equality), ("!=", .equality), ("&&", .and), ("||", .or),
   ("+", .addition), ("-", .addition), ("*", .multiplication), ("/", .multiplication),
   ("&", .bitAnd), ("|", .bitOr), ("^", .bitXor), ("%", .multiplication),
   ("<<", .shift), (">>", .shift), (">>>", .shift)]

def assignmentOperators : List String :=
  ["=", "+=", "-=", "*=", "/=", "&=", "|=", "^=", "%=", "<<=", ">>=", ">>>="]

def literalRules : List (String × Definition) :=
  [("_literal", .rule (choice [
      sym "decimal_integer_literal", sym "hex_integer_literal", sym "octal_integer_literal",
      sym "binary_integer_literal", sym "decimal_floating_point_literal",
      sym "hex_floating_point_literal", sym "true", sym "false", sym "character_literal",
      sym "string_literal", sym "null_literal"]))] ++
  literalTokens ++
  [("string_literal", .rule (choice [sym "_string_literal", sym "_multiline_string_literal"])),
   ("_string_literal", .rule (seq [
      tok "\"",
      many (choice [sym "string_fragment", sym "escape_sequence", sym "string_interpolation"]),
      tok "\""])),
   ("_multiline_string_literal", .rule (seq [
      tok "\"\"\"",
      many (choice [
        renamed "multiline_string_fragment" (sym "_multiline_string_fragment"),
        sym "_escape_sequence",
        sym "string_interpolation"]),
      tok "\"\"\""])),
   ("string_fragment", .token { pattern := stringFragment, immediate := true, rank := 1 }),
   ("_plain_fragment", .token { pattern := stringFragment }),
   ("_quoted_fragment", .token { pattern := quotedFragment }),
   ("_multiline_string_fragment", .rule (choice [sym "_plain_fragment", sym "_quoted_fragment"])),
   ("string_interpolation", .rule (seq [tok "\\\x7b", sym "expression", tok "\x7d"])),
   ("_loose_escape", .token { pattern := looseEscape, immediate := true }),
   ("_escape_sequence", .rule (choice [
      prec 2 none (sym "_loose_escape"), prec 1 none (sym "escape_sequence")])),
   ("escape_sequence", .token { pattern := escapeSequence, immediate := true }),
   ("null_literal", .token { pattern := .ofString "null" })]

def expressionRules : List (String × Definition) :=
  [("expression", .rule (choice [
      sym "assignment_expression", sym "binary_expression", sym "instanceof_expression",
      sym "lambda_expression", sym "ternary_expression", sym "update_expression",
      sym "primary_expression", sym "unary_expression", sym "cast_expression",
      sym "switch_expression"])),
   ("cast_expression", .rule (plain .cast (choice [
      seq [tok "(", field "type" (sym "_type"), tok ")", field "value" (sym "expression")],
      seq [tok "(", sepBy1 "&" (field "type" (sym "_type")), tok ")",
        field "value" (choice [sym "primary_expression", sym "lambda_expression"])]]))),
   ("assignment_expression", .rule (rightAssoc .assignment (seq [
      field "left" (choice [sym "identifier", sym "_reserved_identifier", sym "field_access",
        sym "array_access"]),
      field "operator" (choice (assignmentOperators.map tok)),
      field "right" (sym "expression")]))),
   ("binary_expression", .rule (choice (binaryOperators.map fun (operator, level) =>
      leftAssoc level (seq [
        field "left" (sym "expression"),
        field "operator" (tok operator),
        field "right" (sym "expression")])))),
   ("instanceof_expression", .rule (plain .relation (seq [
      field "left" (sym "expression"),
      tok "instanceof",
      opt (tok "final"),
      choice [
        seq [field "right" (sym "_type"), opt (field "name" simpleName)],
        field "pattern" (sym "record_pattern")]]))),
   ("lambda_expression", .rule (seq [
      field "parameters" (choice [sym "identifier", sym "formal_parameters",
        sym "inferred_parameters", sym "_reserved_identifier"]),
      tok "->",
      field "body" (choice [sym "expression", sym "block"])])),
   ("inferred_parameters", .rule (seq [tok "(", sepBy1 "," simpleName, tok ")"])),
   ("ternary_expression", .rule (rightAssoc .conditional (seq [
      field "condition" (sym "expression"), tok "?",
      field "consequence" (sym "expression"), tok ":",
      field "alternative" (sym "expression")]))),
   ("unary_expression", .rule (choice (["+", "-", "!", "~"].map fun operator =>
      leftAssoc .unary (seq [
        field "operator" (tok operator), field "operand" (sym "expression")])))),
   ("update_expression", .rule (leftAssoc .unary (choice [
      seq [sym "expression", tok "++"],
      seq [sym "expression", tok "--"],
      seq [tok "++", sym "expression"],
      seq [tok "--", sym "expression"]]))),
   ("primary_expression", .rule (choice [
      sym "_literal", sym "class_literal", sym "this", sym "identifier",
      sym "_reserved_identifier", sym "parenthesized_expression",
      sym "object_creation_expression", sym "field_access", sym "array_access",
      sym "method_invocation", sym "method_reference", sym "array_creation_expression",
      sym "template_expression"])),
   ("array_creation_expression", .rule (greedy (seq [
      tok "new", annotations, field "type" (simpleType),
      choice [
        seq [repeat1 (field "dimensions" (sym "dimensions_expr")),
          opt (field "dimensions" (sym "dimensions"))],
        seq [field "dimensions" (sym "dimensions"),
          field "value" (sym "array_initializer")]]]))),
   ("dimensions_expr", .rule (seq [annotations, tok "[", sym "expression", tok "]"])),
   ("parenthesized_expression", .rule (seq [tok "(", sym "expression", tok ")"])),
   ("class_literal", .rule (weight Level.classLiteral.toInt
      (seq [sym "_unannotated_type", tok ".", tok "class"]))),
   ("object_creation_expression", .rule (choice [
      sym "_unqualified_object_creation_expression",
      seq [sym "primary_expression", tok ".", sym "_unqualified_object_creation_expression"]])),
   ("_unqualified_object_creation_expression", .rule (greedy (seq [
      tok "new",
      choice [
        seq [annotations, field "type_arguments" (sym "type_arguments"), annotations],
        annotations],
      field "type" (simpleType),
      field "arguments" (sym "argument_list"),
      opt (sym "class_body")]))),
   ("field_access", .rule (seq [
      field "object" (choice [sym "primary_expression", sym "super"]),
      opt (seq [tok ".", sym "super"]),
      tok ".",
      field "field" (choice [sym "identifier", sym "_reserved_identifier", sym "this"])])),
   ("template_expression", .rule (seq [
      field "template_processor" (sym "primary_expression"), tok ".",
      field "template_argument" (sym "string_literal")])),
   ("array_access", .rule (seq [
      field "array" (sym "primary_expression"),
      tok "[", field "index" (sym "expression"), tok "]"])),
   ("method_invocation", .rule (seq [
      choice [
        field "name" simpleName,
        seq [
          field "object" (choice [sym "primary_expression", sym "super"]),
          tok ".",
          opt (seq [sym "super", tok "."]),
          field "type_arguments" (opt (sym "type_arguments")),
          field "name" simpleName]],
      field "arguments" (sym "argument_list")])),
   ("argument_list", .rule (seq [tok "(", commaSep (sym "expression"), tok ")"])),
   ("method_reference", .rule (seq [
      choice [sym "_type", sym "primary_expression", sym "super"],
      tok "::",
      opt (sym "type_arguments"),
      choice [tok "new", sym "identifier"]])),
   ("type_arguments", .rule (seq [
      tok "<", commaSep (choice [sym "_type", sym "wildcard"]), tok ">"])),
   ("wildcard", .rule (seq [annotations, tok "?", opt (sym "_wildcard_bounds")])),
   ("_wildcard_bounds", .rule (choice [
      seq [tok "extends", sym "_type"], seq [sym "super", sym "_type"]])),
   ("dimensions", .rule (greedy (repeat1 (seq [annotations, tok "[", tok "]"])))),
   ("switch_expression", .rule (seq [
      tok "switch",
      field "condition" (sym "parenthesized_expression"),
      field "body" (sym "switch_block")])),
   ("switch_block", .rule (seq [
      tok "\x7b",
      choice [many (sym "switch_block_statement_group"), many (sym "switch_rule")],
      tok "\x7d"])),
   ("switch_block_statement_group", .rule (prec 0 (some .left) (seq [
      repeat1 (seq [sym "switch_label", tok ":"]), many (sym "statement")]))),
   ("switch_rule", .rule (seq [
      sym "switch_label", tok "->",
      choice [sym "expression_statement", sym "throw_statement", sym "block"]])),
   ("switch_label", .rule (choice [
      seq [tok "case",
        choice [sym "pattern", sepBy1 "," (sym "expression")],
        opt (sym "guard")],
      tok "default"])),
   ("pattern", .rule (choice [sym "type_pattern", sym "record_pattern"])),
   ("type_pattern", .rule (seq [sym "_unannotated_type", simpleName])),
   ("record_pattern", .rule (seq [
      choice [sym "identifier", sym "_reserved_identifier", sym "generic_type"],
      sym "record_pattern_body"])),
   ("record_pattern_body", .rule (seq [
      tok "(", commaSep (choice [sym "record_pattern_component", sym "record_pattern"]),
      tok ")"])),
   ("record_pattern_component", .rule (choice [
      sym "underscore_pattern", seq [sym "_unannotated_type", simpleName]])),
   ("underscore_pattern", .token { pattern := .ofString "_" }),
   ("guard", .rule (seq [tok "when", sym "expression"]))]

end NullSafeEquality.Java
