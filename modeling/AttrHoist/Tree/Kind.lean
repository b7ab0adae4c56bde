/-!
Kinds of syntax nodes. The grammar is open, so a kind is a name; this module lists the names that
the analyses know, one by one and in the groups in which they are asked for.
-/

namespace AttrHoist

/-- The grammar's name for a form of syntax. Anonymous tokens have their own text as kind. -/
abbrev Kind := String

namespace Kind

def program : Kind := "program"
def comment : Kind := "comment"
def identifier : Kind := "identifier"
def shorthandProperty : Kind := "shorthand_property_identifier"
def shorthandPattern : Kind := "shorthand_property_identifier_pattern"

def string : Kind := "string"
def number : Kind := "number"
def templateString : Kind := "template_string"
def templateSubstitution : Kind := "template_substitution"
def object : Kind := "object"
def pair : Kind := "pair"
def computedName : Kind := "computed_property_name"
def binary : Kind := "binary_expression"
def ternary : Kind := "ternary_expression"
def arrow : Kind := "arrow_function"

def lexicalDeclaration : Kind := "lexical_declaration"
def declarator : Kind := "variable_declarator"
def exportStatement : Kind := "export_statement"
def importStatement : Kind := "import_statement"
def importClause : Kind := "import_clause"
def namespaceImport : Kind := "namespace_import"
def namedImports : Kind := "named_imports"
def importSpecifier : Kind := "import_specifier"
def catchClause : Kind := "catch_clause"
def forIn : Kind := "for_in_statement"

def pairPattern : Kind := "pair_pattern"

def markupAttribute : Kind := "jsx_attribute"
def markupContainer : Kind := "jsx_expression"
def namespaceName : Kind := "jsx_namespace_name"

def constKeyword : Kind := "const"

/-- Literals, which are constant as they stand. -/
def literals : List Kind := [string, number]

/-- Tags that invoke a component and may carry attributes. -/
def invocations : List Kind := ["jsx_opening_element", "jsx_self_closing_element"]

/-- Tags that hold the name of an element. -/
def tags : List Kind := ["jsx_opening_element", "jsx_closing_element", "jsx_self_closing_element"]

/-- Functions in expression position; their own name is visible only inside them. -/
def functionExpressions : List Kind :=
  [arrow, "function_expression", "function", "generator_function"]

/-- Every form that introduces a function body. -/
def functions : List Kind :=
  functionExpressions ++ ["function_declaration", "generator_function_declaration", "method_definition"]

/-- Forms that declare their own name in the surrounding scope. -/
def namedDeclarations : List Kind :=
  ["function_declaration", "generator_function_declaration", "class_declaration",
   "abstract_class_declaration", "class"]

/-- Forms other than functions whose declarations are not visible outside them. -/
def blocks : List Kind :=
  ["statement_block", "for_statement", forIn, catchClause, "switch_body", "class_body"]

/-- Patterns with a default value. -/
def defaultPatterns : List Kind := ["assignment_pattern", "object_assignment_pattern"]

/-- Parameters that wrap a pattern with its type and default. -/
def parameterWrappers : List Kind := ["required_parameter", "optional_parameter"]

/-- Patterns that bind whatever their members bind. -/
def compositePatterns : List Kind :=
  ["object_pattern", "array_pattern", "rest_pattern", "formal_parameters"]

/-- What an arrow function takes from the function around it. -/
def receivers : List Kind := ["this", "super", "meta_property"]

end Kind

end AttrHoist
