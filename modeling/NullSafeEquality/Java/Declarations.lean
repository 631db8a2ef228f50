import NullSafeEquality.Java.Statements

/-!
Rules of Java declarations and types.
-/

namespace NullSafeEquality.Java

open Rule

def classMember : Rule :=
  choice [
    sym "field_declaration", sym "record_declaration", sym "method_declaration",
    sym "compact_constructor_declaration", sym "class_declaration", sym "interface_declaration",
    sym "annotation_type_declaration", sym "enum_declaration", sym "block",
    sym "static_initializer", sym "constructor_declaration", tok ";"]

def moduleRules : List (String × Definition) :=
  [("declaration", .rule (plain .declaration (choice [
      sym "module_declaration", sym "package_declaration", sym "import_declaration",
      sym "class_declaration", sym "record_declaration", sym "interface_declaration",
      sym "annotation_type_declaration", sym "enum_declaration"]))),
   ("module_declaration", .rule (seq [
      annotations, opt (tok "open"), tok "module", field "name" qualifiedName,
      field "body" (sym "module_body")])),
   ("module_body", .rule (seq [tok "\x7b", many (sym "module_directive"), tok "\x7d"])),
   ("module_directive", .rule (choice [
      sym "requires_module_directive", sym "exports_module_directive",
      sym "opens_module_directive", sym "uses_module_directive",
      sym "provides_module_directive"])),
   ("requires_module_directive", .rule (seq [
      tok "requires", many (field "modifiers" (sym "requires_modifier")),
      field "module" qualifiedName, tok ";"])),
   ("requires_modifier", .rule (choice [tok "transitive", tok "static"])),
   ("exports_module_directive", .rule (seq [
      tok "exports", field "package" qualifiedName, opt targetModules, tok ";"])),
   ("opens_module_directive", .rule (seq [
      tok "opens", field "package" qualifiedName, opt targetModules, tok ";"])),
   ("uses_module_directive", .rule (seq [tok "uses", field "type" qualifiedName, tok ";"])),
   ("provides_module_directive", .rule (seq [
      tok "provides", field "provided" qualifiedName, tok "with", qualifiedName,
      many (seq [tok ",", field "provider" qualifiedName]), tok ";"])),
   ("package_declaration", .rule (seq [annotations, tok "package", qualifiedName, tok ";"])),
   ("import_declaration", .rule (seq [
      tok "import", opt (tok "static"), qualifiedName,
      opt (seq [tok ".", sym "asterisk"]), tok ";"])),
   ("asterisk", .rule (tok "*"))]
where
  targetModules : Rule := seq [
    tok "to", field "modules" qualifiedName,
    many (seq [tok ",", field "modules" qualifiedName])]

def classRules : List (String × Definition) :=
  [("enum_declaration", .rule (seq [
      opt (sym "modifiers"), tok "enum", field "name" (sym "identifier"),
      field "interfaces" (opt (sym "super_interfaces")), field "body" (sym "enum_body")])),
   ("enum_body", .rule (seq [
      tok "\x7b", commaSep (sym "enum_constant"), opt (tok ","),
      opt (sym "enum_body_declarations"), tok "\x7d"])),
   ("enum_body_declarations", .rule (seq [tok ";", many classMember])),
   ("enum_constant", .rule (seq [
      opt (sym "modifiers"), field "name" (sym "identifier"),
      field "arguments" (opt (sym "argument_list")), field "body" (opt (sym "class_body"))])),
   ("class_declaration", .rule (seq [
      opt (sym "modifiers"), tok "class", field "name" (sym "identifier"),
      opt (field "type_parameters" (sym "type_parameters")),
      opt (field "superclass" (sym "superclass")),
      opt (field "interfaces" (sym "super_interfaces")),
      opt (field "permits" (sym "permits")),
      field "body" (sym "class_body")])),
   ("modifiers", .rule (repeat1 (choice (sym "_annotation" :: (
      ["public", "protected", "private", "abstract", "static", "final", "strictfp", "default",
       "synchronized", "native", "transient", "volatile", "sealed", "non-sealed"].map tok))))),
   ("type_parameters", .rule (seq [tok "<", sepBy1 "," (sym "type_parameter"), tok ">"])),
   ("type_parameter", .rule (seq [annotations, typeName, opt (sym "type_bound")])),
   ("type_bound", .rule (seq [
      tok "extends", sym "_type", many (seq [tok "&", sym "_type"])])),
   ("superclass", .rule (seq [tok "extends", sym "_type"])),
   ("super_interfaces", .rule (seq [tok "implements", sym "type_list"])),
   ("type_list", .rule (seq [sym "_type", many (seq [tok ",", sym "_type"])])),
   ("permits", .rule (seq [tok "permits", sym "type_list"])),
   ("class_body", .rule (seq [tok "\x7b", many classMember, tok "\x7d"])),
   ("static_initializer", .rule (seq [tok "static", sym "block"])),
   ("constructor_declaration", .rule (seq [
      opt (sym "modifiers"), sym "_constructor_declarator", opt (sym "throws"),
      field "body" (sym "constructor_body")])),
   ("_constructor_declarator", .rule (seq [
      field "type_parameters" (opt (sym "type_parameters")),
      field "name" (sym "identifier"),
      field "parameters" (sym "formal_parameters")])),
   ("constructor_body", .rule (seq [
      tok "\x7b", opt (sym "explicit_constructor_invocation"), many (sym "statement"),
      tok "\x7d"])),
   ("explicit_constructor_invocation", .rule (seq [
      choice [
        seq [field "type_arguments" (opt (sym "type_arguments")),
          field "constructor" (choice [sym "this", sym "super"])],
        seq [field "object" (sym "primary_expression"), tok ".",
          field "type_arguments" (opt (sym "type_arguments")),
          field "constructor" (sym "super")]],
      field "arguments" (sym "argument_list"),
      tok ";"])),
   ("scoped_identifier", .rule (seq [
      field "scope" qualifiedName, tok ".", field "name" simpleName])),
   ("field_declaration", .rule (seq [
      opt (sym "modifiers"), field "type" (sym "_unannotated_type"),
      sym "_variable_declarator_list", tok ";"])),
   ("record_declaration", .rule (seq [
      opt (sym "modifiers"), tok "record", field "name" (sym "identifier"),
      opt (field "type_parameters" (sym "type_parameters")),
      field "parameters" (sym "formal_parameters"),
      opt (field "interfaces" (sym "super_interfaces")),
      field "body" (sym "class_body")])),
   ("annotation_type_declaration", .rule (seq [
      opt (sym "modifiers"), tok "@interface", field "name" (sym "identifier"),
      field "body" (sym "annotation_type_body")])),
   ("annotation_type_body", .rule (seq [
      tok "\x7b",
      many (choice [
        sym "annotation_type_element_declaration", sym "constant_declaration",
        sym "class_declaration", sym "interface_declaration", sym "enum_declaration",
        sym "annotation_type_declaration", tok ";"]),
      tok "\x7d"])),
   ("annotation_type_element_declaration", .rule (seq [
      opt (sym "modifiers"), field "type" (sym "_unannotated_type"), field "name" simpleName,
      tok "(", tok ")", field "dimensions" (opt (sym "dimensions")),
      opt (sym "_default_value"), tok ";"])),
   ("_default_value", .rule (seq [tok "default", field "value" (sym "_element_value")])),
   ("interface_declaration", .rule (seq [
      opt (sym "modifiers"), tok "interface", field "name" (sym "identifier"),
      field "type_parameters" (opt (sym "type_parameters")),
      opt (sym "extends_interfaces"),
      opt (field "permits" (sym "permits")),
      field "body" (sym "interface_body")])),
   ("extends_interfaces", .rule (seq [tok "extends", sym "type_list"])),
   ("interface_body", .rule (seq [
      tok "\x7b",
      many (choice [
        sym "constant_declaration", sym "enum_declaration", sym "method_declaration",
        sym "class_declaration", sym "interface_declaration", sym "record_declaration",
        sym "annotation_type_declaration", tok ";"]),
      tok "\x7d"])),
   ("constant_declaration", .rule (seq [
      opt (sym "modifiers"), field "type" (sym "_unannotated_type"),
      sym "_variable_declarator_list", tok ";"])),
   ("_variable_declarator_list", .rule
      (sepBy1 "," (field "declarator" (sym "variable_declarator")))),
   ("variable_declarator", .rule (seq [
      sym "_variable_declarator_id",
      opt (seq [tok "=", field "value" variableInitializer])])),
   ("_variable_declarator_id", .rule (seq [
      field "name" (choice [sym "identifier", sym "_reserved_identifier",
        sym "underscore_pattern"]),
      field "dimensions" (opt (sym "dimensions"))])),
   ("array_initializer", .rule (seq [
      tok "\x7b", commaSep variableInitializer, opt (tok ","), tok "\x7d"]))]

def typeRules : List (String × Definition) :=
  [("_type", .rule (choice [sym "_unannotated_type", sym "annotated_type"])),
   ("_unannotated_type", .rule (choice [simpleType, sym "array_type"])),
   ("annotated_type", .rule (seq [repeat1 (sym "_annotation"), sym "_unannotated_type"])),
   ("scoped_type_identifier", .rule (seq [
      choice [typeName, sym "scoped_type_identifier", sym "generic_type"],
      tok ".", annotations, typeName])),
   ("generic_type", .rule (weight Level.generic.toInt (seq [
      choice [typeName, sym "scoped_type_identifier"], sym "type_arguments"]))),
   ("array_type", .rule (seq [
      field "element" (sym "_unannotated_type"), field "dimensions" (sym "dimensions")])),
   ("integral_type", .rule (choice (["byte", "short", "int", "long", "char"].map tok))),
   ("floating_point_type", .rule (choice [tok "float", tok "double"])),
   ("boolean_type", .token { pattern := .ofString "boolean" }),
   ("void_type", .token { pattern := .ofString "void" })]

def methodRules : List (String × Definition) :=
  [("_method_header", .rule (seq [
      opt (seq [field "type_parameters" (sym "type_parameters"), annotations]),
      field "type" (sym "_unannotated_type"), sym "_method_declarator", opt (sym "throws")])),
   ("_method_declarator", .rule (seq [
      field "name" simpleName, field "parameters" (sym "formal_parameters"),
      field "dimensions" (opt (sym "dimensions"))])),
   ("formal_parameters", .rule (seq [
      tok "(",
      choice [
        sym "receiver_parameter",
        seq [opt (seq [sym "receiver_parameter", tok ","]),
          commaSep (choice [sym "formal_parameter", sym "spread_parameter"])]],
      tok ")"])),
   ("formal_parameter", .rule (seq [
      opt (sym "modifiers"), field "type" (sym "_unannotated_type"),
      sym "_variable_declarator_id"])),
   ("receiver_parameter", .rule (seq [
      annotations, sym "_unannotated_type", many (seq [sym "identifier", tok "."]),
      sym "this"])),
   ("spread_parameter", .rule (seq [
      opt (sym "modifiers"), sym "_unannotated_type", tok "...", annotations,
      sym "variable_declarator"])),
   ("throws", .rule (seq [tok "throws", sepBy1 "," (sym "_type")])),
   ("local_variable_declaration", .rule (seq [
      opt (sym "modifiers"), field "type" (sym "_unannotated_type"),
      sym "_variable_declarator_list", tok ";"])),
   ("method_declaration", .rule (seq [
      opt (sym "modifiers"), sym "_method_header",
      choice [field "body" (sym "block"), tok ";"]])),
   ("compact_constructor_declaration", .rule (seq [
      opt (sym "modifiers"), field "name" (sym "identifier"), field "body" (sym "block")])),
   ("_reserved_identifier", .rule (choice [
      prec (-3) none (renamed "identifier"
        (choice (["open", "module", "record", "with", "sealed"].map tok))),
      renamed "identifier" (tok "yield")]))]

end NullSafeEquality.Java
