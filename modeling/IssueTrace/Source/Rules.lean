import IssueTrace.Grammar.Rule

/-!
# The grammar of Python sources

One grammar for all versions of the language: it takes the statements of version 2 and of version 3
side by side, and leaves it to the dialects to refuse what is foreign to them. It checks structure
only, not context: a `return` may stand anywhere.

The binding levels order the operators, from `lambda`, the loosest, to the call, the tightest.
-/

namespace IssueTrace.Source

open Grammar Grammar.Rule

namespace Level

def lambda : Int := -2
def typedParameter : Int := -1
def conditional : Int := -1
def parenthesizedExpression : Int := 1
def parenthesizedListSplat : Int := 1
def disjunction : Int := 10
def conjunction : Int := 11
def negation : Int := 12
def compare : Int := 13
def bitwiseOr : Int := 14
def bitwiseAnd : Int := 15
def xor : Int := 16
def shift : Int := 17
def plus : Int := 18
def times : Int := 19
def unary : Int := 20
def power : Int := 21
def call : Int := 22

end Level

namespace Rules

/-- The body of a compound statement: simple statements on the same line, an indented block, or
nothing. -/
def suite (fieldName : String) : Rule :=
  .field fieldName (.sym "_suite")

/-- A name, or a word that is a keyword elsewhere. -/
def anyName : Rule := .choice (.sym "identifier") (.sym "keyword_identifier")

/-- What may be unpacked after a star. -/
def splatTarget : Rule :=
  oneOf [.sym "identifier", .sym "keyword_identifier", .sym "subscript", .sym "attribute"]

def trueValue : Rule := .named "true" (.lit "True")

def falseValue : Rule := .named "false" (.lit "False")

def noneValue : Rule := .named "none" (.lit "None")

def ellipsis : Rule := .named "ellipsis" (.lit "...")

/-- A comma-separated list that may be empty. -/
def optionalList (r : Rule) : Rule := optional (commaList r)

/-- Two or more elements, or one with a comma after it. -/
def tupleTail (r : Rule) : Rule :=
  .seq r (.choice (.lit ",") (.seq (many1 (.seq (.lit ",") r)) (optional (.lit ","))))

def binary (group : Int → Rule → Rule) (operator : String) (level : Int) : Rule :=
  group level (all
    [.sym "primary_expression", .lit operator, .sym "primary_expression"])

/-- The statements that fit on a line. -/
def simpleStatements : List (String × Rule) := [
  ("module", many (.sym "_statement")),
  ("_statement", .choice (.sym "_simple_statements") (.sym "_compound_statement")),
  ("_simple_statements",
    all [sepBy1 ";" (.sym "_simple_statement"), optional (.lit ";"), .sym "_newline"]),
  ("_simple_statement", oneOf
    [.sym "future_import_statement", .sym "import_statement", .sym "import_from_statement",
      .sym "print_statement", .sym "assert_statement", .sym "expression_statement",
      .sym "return_statement", .sym "delete_statement", .sym "raise_statement",
      .sym "pass_statement", .sym "break_statement", .sym "continue_statement",
      .sym "global_statement", .sym "nonlocal_statement", .sym "exec_statement",
      .sym "type_alias_statement"]),
  ("import_statement", .seq (.lit "import") (.sym "_import_list")),
  ("import_prefix", many1 (.lit ".")),
  ("relative_import", .seq (.sym "import_prefix") (optional (.sym "dotted_name"))),
  ("future_import_statement", all
    [.lit "from", .lit "__future__", .lit "import",
      .choice (.sym "_import_list") (bracketed "(" (.sym "_import_list") ")")]),
  ("import_from_statement", all
    [.lit "from", .field "module_name" (.choice (.sym "relative_import") (.sym "dotted_name")),
      .lit "import",
      oneOf [.sym "wildcard_import", .sym "_import_list",
        bracketed "(" (.sym "_import_list") ")"]]),
  ("_import_list",
    commaList (.field "name" (.choice (.sym "dotted_name") (.sym "aliased_import")))),
  ("aliased_import", all
    [.field "name" (.sym "dotted_name"), .lit "as", .field "alias" (.sym "identifier")]),
  ("wildcard_import", .lit "*"),
  ("print_statement", .choice
    (binding 1 (all
      [.lit "print", .sym "chevron",
        many (.seq (.lit ",") (.field "argument" (.sym "expression"))), optional (.lit ",")]))
    (binding (-3) (.weigh (-1)
      (.seq (.lit "print") (commaList (.field "argument" (.sym "expression"))))))),
  ("chevron", .seq (.lit ">>") (.sym "expression")),
  ("assert_statement", .seq (.lit "assert") (commaSep1 (.sym "expression"))),
  ("expression_statement", oneOf
    [.sym "expression", commaList (.sym "expression"), .sym "assignment",
      .sym "augmented_assignment", .sym "yield"]),
  ("named_expression", all
    [.field "name" (.sym "_named_expression_lhs"), .lit ":=",
      .field "value" (.sym "expression")]),
  ("_named_expression_lhs", anyName),
  ("return_statement", .seq (.lit "return") (optional (.sym "_expressions"))),
  ("delete_statement", .seq (.lit "del") (.sym "_expressions")),
  ("_expressions", .choice (.sym "expression") (.sym "expression_list")),
  ("raise_statement", all
    [.lit "raise", optional (.sym "_expressions"),
      optional (.seq (.lit "from") (.field "cause" (.sym "expression")))]),
  ("pass_statement", leftAssoc 0 (.lit "pass")),
  ("break_statement", leftAssoc 0 (.lit "break")),
  ("continue_statement", leftAssoc 0 (.lit "continue")),
  ("global_statement", .seq (.lit "global") (commaSep1 (.sym "identifier"))),
  ("nonlocal_statement", .seq (.lit "nonlocal") (commaSep1 (.sym "identifier"))),
  ("exec_statement", all
    [.lit "exec", .field "code" (.choice (.sym "string") (.sym "identifier")),
      optional (.seq (.lit "in") (commaSep1 (.sym "expression")))]),
  ("type_alias_statement", .weigh 1 (all
    [.lit "type", .field "left" (.sym "type"), .lit "=", .field "right" (.sym "type")])),
  ("assignment", .seq (.field "left" (.sym "_left_hand_side")) (oneOf
    [.seq (.lit "=") (.field "right" (.sym "_right_hand_side")),
      .seq (.lit ":") (.field "type" (.sym "type")),
      all [.lit ":", .field "type" (.sym "type"), .lit "=",
        .field "right" (.sym "_right_hand_side")]])),
  ("augmented_assignment", all
    [.field "left" (.sym "_left_hand_side"),
      .field "operator" (oneOf (["+=", "-=", "*=", "/=", "@=", "//=", "%=", "**=", ">>=", "<<=",
        "&=", "^=", "|="].map .lit)),
      .field "right" (.sym "_right_hand_side")]),
  ("_left_hand_side", .choice (.sym "pattern") (.sym "pattern_list")),
  ("_right_hand_side", oneOf
    [.sym "expression", .sym "expression_list", .sym "assignment",
      .sym "augmented_assignment", .sym "pattern_list", .sym "yield"]),
  ("yield", rightAssoc 0 (.seq (.lit "yield")
    (.choice (.seq (.lit "from") (.sym "expression")) (optional (.sym "_expressions")))))]

def compoundStatements : List (String × Rule) := [
  ("_compound_statement", oneOf
    [.sym "if_statement", .sym "for_statement", .sym "while_statement", .sym "try_statement",
      .sym "with_statement", .sym "function_definition", .sym "class_definition",
      .sym "decorated_definition", .sym "match_statement"]),
  ("if_statement", all
    [.lit "if", .field "condition" (.sym "expression"), .lit ":", suite "consequence",
      many (.field "alternative" (.sym "elif_clause")),
      optional (.field "alternative" (.sym "else_clause"))]),
  ("elif_clause", all
    [.lit "elif", .field "condition" (.sym "expression"), .lit ":", suite "consequence"]),
  ("else_clause", all [.lit "else", .lit ":", suite "body"]),
  ("match_statement", all
    [.lit "match", commaList (.field "subject" (.sym "expression")), .lit ":",
      .field "body" (.named "block" (.sym "_match_block"))]),
  ("_match_block", .choice
    (all [.sym "_indent", many (.field "alternative" (.sym "case_clause")), .sym "_dedent"])
    (.sym "_newline")),
  ("case_clause", all
    [.lit "case", commaList (.sym "case_pattern"), optional (.field "guard" (.sym "if_clause")),
      .lit ":", suite "consequence"]),
  ("for_statement", all
    [optional (.lit "async"), .lit "for", .field "left" (.sym "_left_hand_side"), .lit "in",
      .field "right" (.sym "_expressions"), .lit ":", suite "body",
      optional (.field "alternative" (.sym "else_clause"))]),
  ("while_statement", all
    [.lit "while", .field "condition" (.sym "expression"), .lit ":", suite "body",
      optional (.field "alternative" (.sym "else_clause"))]),
  ("try_statement", all
    [.lit "try", .lit ":", suite "body",
      oneOf
        [all [many1 (.sym "except_clause"), optional (.sym "else_clause"),
            optional (.sym "finally_clause")],
          all [many1 (.sym "except_group_clause"), optional (.sym "else_clause"),
            optional (.sym "finally_clause")],
          .sym "finally_clause"]]),
  ("except_clause", all
    [.lit "except",
      optional (.seq (.sym "expression")
        (optional (.seq (.choice (.lit "as") (.lit ",")) (.sym "expression")))),
      .lit ":", .sym "_suite"]),
  ("except_group_clause", all
    [.lit "except*", .sym "expression", optional (.seq (.lit "as") (.sym "expression")),
      .lit ":", .sym "_suite"]),
  ("finally_clause", all [.lit "finally", .lit ":", .sym "_suite"]),
  ("with_statement", all
    [optional (.lit "async"), .lit "with", .sym "with_clause", .lit ":", suite "body"]),
  ("with_clause", .choice
    (commaList (.sym "with_item"))
    (bracketed "(" (commaList (.sym "with_item")) ")")),
  ("with_item", .weigh 1 (.field "value" (.sym "expression"))),
  ("function_definition", all
    [optional (.lit "async"), .lit "def", .field "name" (.sym "identifier"),
      optional (.field "type_parameters" (.sym "type_parameter")),
      .field "parameters" (.sym "parameters"),
      optional (.seq (.lit "->") (.field "return_type" (.sym "type"))),
      .lit ":", suite "body"]),
  ("parameters", bracketed "(" (optional (.sym "_parameters")) ")"),
  ("lambda_parameters", .sym "_parameters"),
  ("list_splat", .seq (.lit "*") (.sym "expression")),
  ("dictionary_splat", .seq (.lit "**") (.sym "expression")),
  ("class_definition", all
    [.lit "class", .field "name" (.sym "identifier"),
      optional (.field "type_parameters" (.sym "type_parameter")),
      optional (.field "superclasses" (.sym "argument_list")),
      .lit ":", suite "body"]),
  ("type_parameter", bracketed "[" (commaList (.sym "type")) "]"),
  ("parenthesized_list_splat", binding Level.parenthesizedListSplat (bracketed "("
    (.choice (.named "parenthesized_expression" (.sym "parenthesized_list_splat"))
      (.sym "list_splat")) ")")),
  ("argument_list", all
    [.lit "(",
      optional (commaSep1 (oneOf
        [.sym "expression", .sym "list_splat", .sym "dictionary_splat",
          .named "parenthesized_expression" (.sym "parenthesized_list_splat"),
          .sym "keyword_argument"])),
      optional (.lit ","), .lit ")"]),
  ("decorated_definition", .seq (many1 (.sym "decorator"))
    (.field "definition" (.choice (.sym "class_definition") (.sym "function_definition")))),
  ("decorator", all [.lit "@", .sym "expression", .sym "_newline"]),
  ("_suite", oneOf
    [.named "block" (.sym "_simple_statements"), .seq (.sym "_indent") (.sym "block"),
      .named "block" (.sym "_newline")]),
  ("block", .seq (many (.sym "_statement")) (.sym "_dedent")),
  ("expression_list", rightAssoc 0 (tupleTail (.sym "expression"))),
  ("dotted_name", binding 1 (sepBy1 "." (.sym "identifier")))]

/-- Parameters, targets of assignments, and the patterns of `match`. -/
def patterns : List (String × Rule) := [
  ("case_pattern", binding 1 (oneOf
    [.named "as_pattern" (.sym "_as_pattern"), .sym "keyword_pattern", .sym "_simple_pattern"])),
  ("_simple_pattern", binding 1 (oneOf
    [.sym "class_pattern", .sym "splat_pattern", .sym "union_pattern",
      .named "list_pattern" (.sym "_list_pattern"), .named "tuple_pattern" (.sym "_tuple_pattern"),
      .sym "dict_pattern", .sym "string", .sym "concatenated_string", trueValue, falseValue,
      noneValue,
      .seq (optional (.lit "-")) (.choice (.sym "integer") (.sym "float")),
      .sym "complex_pattern", .sym "dotted_name", .lit "_"])),
  ("_as_pattern", all [.sym "case_pattern", .lit "as", .sym "identifier"]),
  ("union_pattern", rightAssoc 0 (.seq (.sym "_simple_pattern")
    (many1 (leftAssoc 0 (.seq (.lit "|") (.sym "_simple_pattern")))))),
  ("_list_pattern", bracketed "[" (optionalList (.sym "case_pattern")) "]"),
  ("_tuple_pattern", bracketed "(" (optionalList (.sym "case_pattern")) ")"),
  ("dict_pattern", bracketed "\x7b"
    (optionalList (.choice (.sym "_key_value_pattern") (.sym "splat_pattern"))) "\x7d"),
  ("_key_value_pattern", all
    [.field "key" (.sym "_simple_pattern"), .lit ":", .field "value" (.sym "case_pattern")]),
  ("keyword_pattern", all [.sym "identifier", .lit "=", .sym "_simple_pattern"]),
  ("splat_pattern", binding 1 (.seq (.choice (.lit "*") (.lit "**"))
    (.choice (.sym "identifier") (.lit "_")))),
  ("class_pattern", .seq (.sym "dotted_name")
    (bracketed "(" (optionalList (.sym "case_pattern")) ")")),
  ("complex_pattern", binding 1 (all
    [optional (.lit "-"), .choice (.sym "integer") (.sym "float"),
      .choice (.lit "+") (.lit "-"), .choice (.sym "integer") (.sym "float")])),
  ("_parameters", commaList (.sym "parameter")),
  ("_patterns", commaList (.sym "pattern")),
  ("parameter", oneOf
    [.sym "identifier", .sym "typed_parameter", .sym "default_parameter",
      .sym "typed_default_parameter", .sym "list_splat_pattern", .sym "tuple_pattern",
      .sym "keyword_separator", .sym "positional_separator", .sym "dictionary_splat_pattern"]),
  ("pattern", oneOf
    [.sym "identifier", .sym "keyword_identifier", .sym "subscript", .sym "attribute",
      .sym "list_splat_pattern", .sym "tuple_pattern", .sym "list_pattern"]),
  ("tuple_pattern", bracketed "(" (optional (.sym "_patterns")) ")"),
  ("list_pattern", bracketed "[" (optional (.sym "_patterns")) "]"),
  ("default_parameter", all
    [.field "name" (.choice (.sym "identifier") (.sym "tuple_pattern")), .lit "=",
      .field "value" (.sym "expression")]),
  ("typed_default_parameter", binding Level.typedParameter (all
    [.field "name" (.sym "identifier"), .lit ":", .field "type" (.sym "type"), .lit "=",
      .field "value" (.sym "expression")])),
  ("list_splat_pattern", .seq (.lit "*") splatTarget),
  ("dictionary_splat_pattern", .seq (.lit "**") splatTarget),
  ("typed_parameter", binding Level.typedParameter (all
    [oneOf [.sym "identifier", .sym "list_splat_pattern", .sym "dictionary_splat_pattern"],
      .lit ":", .field "type" (.sym "type")])),
  ("pattern_list", tupleTail (.sym "pattern")),
  ("positional_separator", .lit "/"),
  ("keyword_separator", .lit "*")]

def expressions : List (String × Rule) := [
  ("as_pattern", leftAssoc 0 (all
    [.sym "expression", .lit "as",
      .field "alias" (.named "as_pattern_target" (.sym "expression"))])),
  ("_expression_within_for_in_clause", .choice (.sym "expression")
    (.named "lambda" (.sym "lambda_within_for_in_clause"))),
  ("expression", oneOf
    [.sym "comparison_operator", .sym "not_operator", .sym "boolean_operator", .sym "lambda",
      .sym "primary_expression", .sym "conditional_expression", .sym "named_expression",
      .sym "as_pattern"]),
  ("primary_expression", oneOf
    [.sym "await", .sym "binary_operator", .sym "identifier", .sym "keyword_identifier",
      .sym "string", .sym "concatenated_string", .sym "integer", .sym "float", trueValue,
      falseValue, noneValue, .sym "unary_operator", .sym "attribute", .sym "subscript",
      .sym "call", .sym "list", .sym "list_comprehension", .sym "dictionary",
      .sym "dictionary_comprehension", .sym "set", .sym "set_comprehension", .sym "tuple",
      .sym "parenthesized_expression", .sym "generator_expression", ellipsis,
      .named "list_splat" (.sym "list_splat_pattern")]),
  ("not_operator", binding Level.negation
    (.seq (.lit "not") (.field "argument" (.sym "expression")))),
  ("boolean_operator", .choice
    (leftAssoc Level.conjunction (all
      [.field "left" (.sym "expression"), .field "operator" (.lit "and"),
        .field "right" (.sym "expression")]))
    (leftAssoc Level.disjunction (all
      [.field "left" (.sym "expression"), .field "operator" (.lit "or"),
        .field "right" (.sym "expression")]))),
  ("binary_operator", oneOf
    [binary leftAssoc "+" Level.plus, binary leftAssoc "-" Level.plus,
      binary leftAssoc "*" Level.times, binary leftAssoc "@" Level.times,
      binary leftAssoc "/" Level.times, binary leftAssoc "%" Level.times,
      binary leftAssoc "//" Level.times, binary rightAssoc "**" Level.power,
      binary leftAssoc "|" Level.bitwiseOr, binary leftAssoc "&" Level.bitwiseAnd,
      binary leftAssoc "^" Level.xor, binary leftAssoc "<<" Level.shift,
      binary leftAssoc ">>" Level.shift]),
  ("unary_operator", binding Level.unary (.seq
    (.field "operator" (oneOf [.lit "+", .lit "-", .lit "~"]))
    (.field "argument" (.sym "primary_expression")))),
  ("_not_in", .seq (.lit "not") (.lit "in")),
  ("_is_not", .seq (.lit "is") (.lit "not")),
  ("comparison_operator", leftAssoc Level.compare (.seq (.sym "primary_expression")
    (many1 (.seq
      (.field "operators" (oneOf
        [.lit "<", .lit "<=", .lit "==", .lit "!=", .lit ">=", .lit ">", .lit "<>", .lit "in",
          .named "not in" (.sym "_not_in"), .lit "is", .named "is not" (.sym "_is_not")]))
      (.sym "primary_expression"))))),
  ("lambda", binding Level.lambda (all
    [.lit "lambda", optional (.field "parameters" (.sym "lambda_parameters")), .lit ":",
      .field "body" (.sym "expression")])),
  ("lambda_within_for_in_clause", all
    [.lit "lambda", optional (.field "parameters" (.sym "lambda_parameters")), .lit ":",
      .field "body" (.sym "_expression_within_for_in_clause")]),
  ("attribute", binding Level.call (all
    [.field "object" (.sym "primary_expression"), .lit ".",
      .field "attribute" (.sym "identifier")])),
  ("subscript", binding Level.call (.seq (.field "value" (.sym "primary_expression"))
    (bracketed "[" (commaList (.field "subscript" (.choice (.sym "expression") (.sym "slice"))))
      "]"))),
  ("slice", all
    [optional (.sym "expression"), .lit ":", optional (.sym "expression"),
      optional (.seq (.lit ":") (optional (.sym "expression")))]),
  ("call", binding Level.call (.seq (.field "function" (.sym "primary_expression"))
    (.field "arguments" (.choice (.sym "generator_expression") (.sym "argument_list"))))),
  ("type", oneOf
    [binding 1 (.sym "expression"), .sym "splat_type", .sym "generic_type", .sym "union_type",
      .sym "constrained_type", .sym "member_type"]),
  ("splat_type", binding 1 (.seq (.choice (.lit "*") (.lit "**")) (.sym "identifier"))),
  ("generic_type", binding 1 (.seq
    (.choice (.sym "identifier") (.named "identifier" (.lit "type"))) (.sym "type_parameter"))),
  ("union_type", leftAssoc 0 (all [.sym "type", .lit "|", .sym "type"])),
  ("constrained_type", rightAssoc 0 (all [.sym "type", .lit ":", .sym "type"])),
  ("member_type", all [.sym "type", .lit ".", .sym "identifier"]),
  ("keyword_argument", all
    [.field "name" anyName, .lit "=", .field "value" (.sym "expression")]),
  ("conditional_expression", rightAssoc Level.conditional (all
    [.sym "expression", .lit "if", .sym "expression", .lit "else", .sym "expression"])),
  ("await", binding Level.unary (.seq (.lit "await") (.sym "primary_expression"))),
  ("keyword_identifier", .choice
    (binding (-3) (.named "identifier"
      (oneOf [.lit "print", .lit "exec", .lit "async", .lit "await"])))
    (.named "identifier" (.choice (.lit "type") (.lit "match"))))]

/-- Collections, comprehensions and strings. -/
def literals : List (String × Rule) := [
  ("list", bracketed "[" (optional (.sym "_collection_elements")) "]"),
  ("set", bracketed "\x7b" (.sym "_collection_elements") "\x7d"),
  ("tuple", bracketed "(" (optional (.sym "_collection_elements")) ")"),
  ("dictionary", all
    [.lit "\x7b", optional (commaSep1 (.choice (.sym "pair") (.sym "dictionary_splat"))),
      optional (.lit ","), .lit "\x7d"]),
  ("pair", all [.field "key" (.sym "expression"), .lit ":", .field "value" (.sym "expression")]),
  ("list_comprehension", bracketed "["
    (.seq (.field "body" (.sym "expression")) (.sym "_comprehension_clauses")) "]"),
  ("dictionary_comprehension", bracketed "\x7b"
    (.seq (.field "body" (.sym "pair")) (.sym "_comprehension_clauses")) "\x7d"),
  ("set_comprehension", bracketed "\x7b"
    (.seq (.field "body" (.sym "expression")) (.sym "_comprehension_clauses")) "\x7d"),
  ("generator_expression", bracketed "("
    (.seq (.field "body" (.sym "expression")) (.sym "_comprehension_clauses")) ")"),
  ("_comprehension_clauses", .seq (.sym "for_in_clause")
    (many (.choice (.sym "for_in_clause") (.sym "if_clause")))),
  ("parenthesized_expression", binding Level.parenthesizedExpression
    (bracketed "(" (.choice (.sym "expression") (.sym "yield")) ")")),
  ("_collection_elements", commaList (oneOf
    [.sym "expression", .sym "yield", .sym "list_splat", .sym "parenthesized_list_splat"])),
  ("for_in_clause", leftAssoc 0 (all
    [optional (.lit "async"), .lit "for", .field "left" (.sym "_left_hand_side"), .lit "in",
      .field "right" (commaSep1 (.sym "_expression_within_for_in_clause")),
      optional (.lit ",")])),
  ("if_clause", .seq (.lit "if") (.sym "expression")),
  ("concatenated_string", .seq (.sym "string") (many1 (.sym "string"))),
  ("string", all
    [.sym "string_start", many (.choice (.sym "interpolation") (.sym "string_content")),
      .sym "string_end"]),
  ("string_content", rightAssoc 0 (many1 (oneOf
    [.sym "escape_interpolation", .sym "escape_sequence", .sym "_not_escape_sequence",
      .sym "_string_content"]))),
  ("interpolation", all
    [.lit "\x7b", .field "expression" (.sym "_f_expression"), optional (.lit "="),
      optional (.field "type_conversion" (.sym "type_conversion")),
      optional (.field "format_specifier" (.sym "format_specifier")), .lit "\x7d"]),
  ("_f_expression", oneOf
    [.sym "expression", .sym "expression_list", .sym "pattern_list", .sym "yield"]),
  ("format_specifier", .seq (.lit ":") (many
    (.choice (.sym "_format_text") (.named "interpolation" (.sym "format_expression"))))),
  ("format_expression", all
    [.lit "\x7b", .field "expression" (.sym "_f_expression"), optional (.lit "="),
      optional (.field "type_conversion" (.sym "type_conversion")),
      optional (.field "format_specifier" (.sym "format_specifier")), .lit "\x7d"])]

end Rules

/-- The grammar of source texts. -/
def grammar : Spec where
  rules := Rules.simpleStatements ++ Rules.compoundStatements ++ Rules.patterns
    ++ Rules.expressions ++ Rules.literals
  tokens :=
    ["identifier", "escape_sequence", "_not_escape_sequence", "_format_text", "type_conversion",
      "integer", "float", "comment", "line_continuation", "_newline", "_indent", "_dedent",
      "string_start", "_string_content", "escape_interpolation", "string_end"]
  named :=
    ["identifier", "integer", "float", "escape_sequence", "type_conversion", "comment",
      "line_continuation", "string_start", "escape_interpolation", "string_end"]
  transparent :=
    ["_simple_statement", "_compound_statement", "expression", "primary_expression", "pattern",
      "parameter"]
  inlined :=
    ["_simple_statement", "_compound_statement", "_suite", "_expressions", "_left_hand_side",
      "keyword_identifier"]
  extras := ["comment", "line_continuation"]

end IssueTrace.Source
