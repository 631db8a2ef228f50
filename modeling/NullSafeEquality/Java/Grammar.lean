import NullSafeEquality.Java.Declarations
import NullSafeEquality.Parsing.Automaton

/-!
The grammar of Java source texts. A text is a row of statements and methods, so that fragments of
programs are texts too.
-/

namespace NullSafeEquality.Java

open Rule

def grammar : Grammar :=
  { definitions :=
      [("program", .rule (many (sym "_toplevel_statement"))),
       ("_toplevel_statement", .rule (choice [sym "statement", sym "method_declaration"]))] ++
      literalRules ++ expressionRules ++ statementRules ++ annotationRules ++ moduleRules ++
      classRules ++ typeRules ++ methodRules ++ wordTokens ++ commentTokens
    families :=
      ["expression", "declaration", "statement", "primary_expression", "_literal", "_type",
       "_unannotated_type", "module_directive"]
    word := "identifier"
    extras := ["line_comment", "block_comment"]
    enclosed := ["string_fragment", "_plain_fragment", "_quoted_fragment"]
    blanks := blanks }

def automaton : Parsing.Automaton := .ofTables grammar.tables

end NullSafeEquality.Java
