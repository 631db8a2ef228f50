import NullSafeEquality.Java.Expressions

/-!
Rules of Java statements.
-/

namespace NullSafeEquality.Java

open Rule

def statementRules : List (String × Definition) :=
  [("statement", .rule (choice [
      sym "declaration", sym "expression_statement", sym "labeled_statement", sym "if_statement",
      sym "while_statement", sym "for_statement", sym "enhanced_for_statement", sym "block",
      tok ";", sym "assert_statement", sym "do_statement", sym "break_statement",
      sym "continue_statement", sym "return_statement", sym "yield_statement",
      sym "switch_expression", sym "synchronized_statement", sym "local_variable_declaration",
      sym "throw_statement", sym "try_statement", sym "try_with_resources_statement"])),
   ("block", .rule (seq [tok "\x7b", many (sym "statement"), tok "\x7d"])),
   ("expression_statement", .rule (seq [sym "expression", tok ";"])),
   ("labeled_statement", .rule (seq [sym "identifier", tok ":", sym "statement"])),
   ("assert_statement", .rule (choice [
      seq [tok "assert", sym "expression", tok ";"],
      seq [tok "assert", sym "expression", tok ":", sym "expression", tok ";"]])),
   ("do_statement", .rule (seq [
      tok "do", field "body" (sym "statement"),
      tok "while", field "condition" (sym "parenthesized_expression"), tok ";"])),
   ("break_statement", .rule (seq [tok "break", opt (sym "identifier"), tok ";"])),
   ("continue_statement", .rule (seq [tok "continue", opt (sym "identifier"), tok ";"])),
   ("return_statement", .rule (seq [tok "return", opt (sym "expression"), tok ";"])),
   ("yield_statement", .rule (seq [tok "yield", sym "expression", tok ";"])),
   ("synchronized_statement", .rule (seq [
      tok "synchronized", sym "parenthesized_expression", field "body" (sym "block")])),
   ("throw_statement", .rule (seq [tok "throw", sym "expression", tok ";"])),
   ("try_statement", .rule (seq [
      tok "try", field "body" (sym "block"),
      choice [
        repeat1 (sym "catch_clause"),
        seq [many (sym "catch_clause"), sym "finally_clause"]]])),
   ("catch_clause", .rule (seq [
      tok "catch", tok "(", sym "catch_formal_parameter", tok ")",
      field "body" (sym "block")])),
   ("catch_formal_parameter", .rule (seq [
      opt (sym "modifiers"), sym "catch_type", sym "_variable_declarator_id"])),
   ("catch_type", .rule (sepBy1 "|" (sym "_unannotated_type"))),
   ("finally_clause", .rule (seq [tok "finally", sym "block"])),
   ("try_with_resources_statement", .rule (seq [
      tok "try", field "resources" (sym "resource_specification"), field "body" (sym "block"),
      many (sym "catch_clause"), opt (sym "finally_clause")])),
   ("resource_specification", .rule (seq [
      tok "(", sepBy1 ";" (sym "resource"), opt (tok ";"), tok ")"])),
   ("resource", .rule (choice [
      seq [opt (sym "modifiers"), field "type" (sym "_unannotated_type"),
        sym "_variable_declarator_id", tok "=", field "value" (sym "expression")],
      sym "identifier",
      sym "field_access"])),
   ("if_statement", .rule (greedy (seq [
      tok "if", field "condition" (sym "parenthesized_expression"),
      field "consequence" (sym "statement"),
      opt (seq [tok "else", field "alternative" (sym "statement")])]))),
   ("while_statement", .rule (seq [
      tok "while", field "condition" (sym "parenthesized_expression"),
      field "body" (sym "statement")])),
   ("for_statement", .rule (seq [
      tok "for", tok "(",
      choice [
        field "init" (sym "local_variable_declaration"),
        seq [commaSep (field "init" (sym "expression")), tok ";"]],
      field "condition" (opt (sym "expression")), tok ";",
      commaSep (field "update" (sym "expression")), tok ")",
      field "body" (sym "statement")])),
   ("enhanced_for_statement", .rule (seq [
      tok "for", tok "(", opt (sym "modifiers"), field "type" (sym "_unannotated_type"),
      sym "_variable_declarator_id", tok ":", field "value" (sym "expression"), tok ")",
      field "body" (sym "statement")]))]

def annotationRules : List (String × Definition) :=
  [("_annotation", .rule (choice [sym "marker_annotation", sym "annotation"])),
   ("marker_annotation", .rule (seq [tok "@", field "name" qualifiedName])),
   ("annotation", .rule (seq [
      tok "@", field "name" qualifiedName,
      field "arguments" (sym "annotation_argument_list")])),
   ("annotation_argument_list", .rule (seq [
      tok "(",
      choice [sym "_element_value", commaSep (sym "element_value_pair")],
      tok ")"])),
   ("element_value_pair", .rule (seq [
      field "key" simpleName, tok "=", field "value" (sym "_element_value")])),
   ("_element_value", .rule (plain .elementValue (choice [
      sym "expression", sym "element_value_array_initializer", sym "_annotation"]))),
   ("element_value_array_initializer", .rule (seq [
      tok "\x7b", commaSep (sym "_element_value"), opt (tok ","), tok "\x7d"]))]

end NullSafeEquality.Java
