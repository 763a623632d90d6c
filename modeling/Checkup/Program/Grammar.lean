import Checkup.Grammar.Rule
import Checkup.Program.Identifier

/-!
# The grammar of Python

The rules accept both major versions of the language: `print` and `exec` statements, `<>` and
backquotes are read as well as the current forms.  Line ends and indentation are tokens that
the layout scanner finds (`Checkup.Program.Layout`).
-/

namespace Checkup.Program

open Lexing Grammar

/-! ## Tokens -/

def digits : Regex := .anyOf "0123456789"

def hexDigits : Regex := .oneOf (.between '0' '9' ∪ .between 'a' 'f' ∪ .between 'A' 'F')

/-- Groups of digits, each behind an optional underscore. -/
def groupsOf (r : Regex) : Regex := .plus (.seq [.opt (.char '_'), .plus r])

/-- Decimal digits, with an underscore allowed behind each run. -/
def decimals : Regex := .plus (.seq [.plus digits, .opt (.char '_')])

def longSuffix : Regex := .opt (.anyOf "Ll")

def imaginarySuffix : Regex := .opt (.anyOf "jJ")

def integerRegex : Regex := .choice [
  .seq [.char '0', .anyOf "xX", groupsOf hexDigits, longSuffix],
  .seq [.char '0', .anyOf "oO", groupsOf (.oneOf (.between '0' '7')), longSuffix],
  .seq [.char '0', .anyOf "bB", groupsOf (.anyOf "01"), longSuffix],
  .seq [decimals, .alt longSuffix imaginarySuffix]]

private def exponent : Regex := .seq [.anyOf "eE", .opt (.anyOf "+-"), decimals]

private def floatRegex : Regex := .seq [
  .choice [
    .seq [decimals, .char '.', .opt decimals, .opt exponent],
    .seq [.opt decimals, .char '.', decimals, .opt exponent],
    .seq [decimals, exponent]],
  imaginarySuffix]

private def identifierRegex : Regex :=
  .seq [.oneOf identifierStart, .star (.oneOf identifierContinue)]

private def escapeRegex : Regex := .seq [.char '\\', .choice [
  .seq [.char 'u', .times 4 hexDigits],
  .seq [.char 'U', .times 8 hexDigits],
  .seq [.char 'x', .times 2 hexDigits],
  .times 3 digits,
  .seq [.opt (.char '\r'), .char '\n'],
  .anyOf "'\"abfrntv\\",
  .seq [.char 'N', .char '\x7b', .plus (.noneOf (.ofChars "\x7d")), .char '\x7d']]]

private def commentRegex : Regex := .seq [.char '#', .star (.noneOf (.ofChars "\n"))]

private def continuationRegex : Regex := .seq [.char '\\', .choice [
  .seq [.opt (.char '\r'), .char '\n'], .char '\x00']]

/-- Blanks, line ends and invisible characters. -/
private def separatorRegex : Regex := .alt
  (.oneOf (.ofIntervals #[(0x09, 0x0D), (0x20, 0x20), (0xFEFF, 0xFEFF), (0x2060, 0x2060),
    (0x200B, 0x200B)]))
  (.seq [.opt (.char '\r'), .char '\n'])

/-! ## Rules -/

open Rule

private def token (r : Regex) : Rule := .token { regex := r }

/-- One or more items with commas between them, and perhaps one behind them. -/
private def commaList (r : Rule) : List Rule := [commaSep1 r, opt ","]

/-- Nothing, or such a list. -/
private def optCommaList (r : Rule) : Rule := opt (.seq (commaList r))

/-- A comma list in brackets. -/
private def enclosed (opening : String) (r : Rule) (closing : String) : Rule :=
  .seq (literal opening :: commaList r ++ [literal closing])

private def suite : Rule := ref "_suite"

private def expression : Rule := ref "expression"

private def primary : Rule := ref "primary_expression"

private def identifier : Rule := ref "identifier"

/-- An identifier, or a keyword that may be used as one. -/
private def anyIdentifier : Rule := oneOf [identifier, ref "keyword_identifier"]

private def statementRules : List (String × Rule) := [
  ("module", many (ref "_statement")),
  ("_statement", oneOf [ref "_simple_statements", ref "_compound_statement"]),
  ("_simple_statements", .seq [sepBy1 (ref "_simple_statement") ";", opt ";", ref "_newline"]),
  ("_simple_statement", oneOf [
    ref "future_import_statement", ref "import_statement", ref "import_from_statement",
    ref "print_statement", ref "assert_statement", ref "expression_statement",
    ref "return_statement", ref "delete_statement", ref "raise_statement", ref "pass_statement",
    ref "break_statement", ref "continue_statement", ref "global_statement",
    ref "nonlocal_statement", ref "exec_statement", ref "type_alias_statement"]),
  ("import_statement", .seq ["import", ref "_import_list"]),
  ("import_prefix", .many1 "."),
  ("relative_import", .seq [ref "import_prefix", opt (ref "dotted_name")]),
  ("future_import_statement", .seq ["from", "__future__", "import",
    oneOf [ref "_import_list", .seq ["(", ref "_import_list", ")"]]]),
  ("import_from_statement", .seq ["from",
    field "module_name" (oneOf [ref "relative_import", ref "dotted_name"]), "import",
    oneOf [ref "wildcard_import", ref "_import_list", .seq ["(", ref "_import_list", ")"]]]),
  ("_import_list",
    .seq (commaList (field "name" (oneOf [ref "dotted_name", ref "aliased_import"])))),
  ("aliased_import",
    .seq [field "name" (ref "dotted_name"), "as", field "alias" identifier]),
  ("wildcard_import", literal "*"),
  ("print_statement", oneOf [
    prec 1 (.seq ["print", ref "chevron",
      many (.seq [",", field "argument" expression]), opt ","]),
    prec (-3) (precDynamic (-1)
      (.seq (literal "print" :: commaList (field "argument" expression))))]),
  ("chevron", .seq [">>", expression]),
  ("assert_statement", .seq ["assert", commaSep1 expression]),
  ("expression_statement", oneOf [
    expression, .seq (commaList expression), ref "assignment", ref "augmented_assignment",
    ref "yield"]),
  ("named_expression",
    .seq [field "name" (ref "_named_expression_lhs"), ":=", field "value" expression]),
  ("_named_expression_lhs", anyIdentifier),
  ("return_statement", .seq ["return", opt (ref "_expressions")]),
  ("delete_statement", .seq ["del", ref "_expressions"]),
  ("_expressions", oneOf [expression, ref "expression_list"]),
  ("raise_statement", .seq ["raise", opt (ref "_expressions"),
    opt (.seq ["from", field "cause" expression])]),
  ("pass_statement", precLeft 0 "pass"),
  ("break_statement", precLeft 0 "break"),
  ("continue_statement", precLeft 0 "continue"),
  ("_compound_statement", oneOf [
    ref "if_statement", ref "for_statement", ref "while_statement", ref "try_statement",
    ref "with_statement", ref "function_definition", ref "class_definition",
    ref "decorated_definition", ref "match_statement"]),
  ("if_statement", .seq ["if", field "condition" expression, ":", field "consequence" suite,
    many (field "alternative" (ref "elif_clause")),
    opt (field "alternative" (ref "else_clause"))]),
  ("elif_clause", .seq ["elif", field "condition" expression, ":", field "consequence" suite]),
  ("else_clause", .seq ["else", ":", field "body" suite]),
  ("match_statement", .seq ["match", commaSep1 (field "subject" expression), opt ",", ":",
    field "body" (aliased "block" (ref "_match_block"))]),
  ("_match_block", oneOf [
    .seq [ref "_indent", many (field "alternative" (ref "case_clause")), ref "_dedent"],
    ref "_newline"]),
  ("case_clause", .seq ["case", commaSep1 (ref "case_pattern"), opt ",",
    field "guard" (opt (ref "if_clause")), ":", field "consequence" suite]),
  ("for_statement", .seq [opt "async", "for", field "left" (ref "_left_hand_side"), "in",
    field "right" (ref "_expressions"), ":", field "body" suite,
    field "alternative" (opt (ref "else_clause"))]),
  ("while_statement", .seq ["while", field "condition" expression, ":", field "body" suite,
    opt (field "alternative" (ref "else_clause"))]),
  ("try_statement", .seq ["try", ":", field "body" suite, oneOf [
    .seq [.many1 (ref "except_clause"), opt (ref "else_clause"), opt (ref "finally_clause")],
    .seq [.many1 (ref "except_group_clause"), opt (ref "else_clause"),
      opt (ref "finally_clause")],
    ref "finally_clause"]]),
  ("except_clause", .seq ["except",
    opt (.seq [expression, opt (.seq [oneOf ["as", ","], expression])]), ":", suite]),
  ("except_group_clause", .seq ["except*",
    .seq [expression, opt (.seq ["as", expression])], ":", suite]),
  ("finally_clause", .seq ["finally", ":", suite]),
  ("with_statement", .seq [opt "async", "with", ref "with_clause", ":", field "body" suite]),
  ("with_clause", oneOf [
    .seq (commaList (ref "with_item")),
    enclosed "(" (ref "with_item") ")"]),
  ("with_item", precDynamic 1 (.seq [field "value" expression])),
  ("function_definition", .seq [opt "async", "def", field "name" identifier,
    field "type_parameters" (opt (ref "type_parameter")),
    field "parameters" (ref "parameters"),
    opt (.seq ["->", field "return_type" (ref "type")]), ":", field "body" suite]),
  ("parameters", .seq ["(", opt (ref "_parameters"), ")"]),
  ("lambda_parameters", ref "_parameters"),
  ("list_splat", .seq ["*", expression]),
  ("dictionary_splat", .seq ["**", expression]),
  ("global_statement", .seq ["global", commaSep1 identifier]),
  ("nonlocal_statement", .seq ["nonlocal", commaSep1 identifier]),
  ("exec_statement", .seq ["exec", field "code" (oneOf [ref "string", identifier]),
    opt (.seq ["in", commaSep1 expression])]),
  ("type_alias_statement", precDynamic 1 (.seq ["type", field "left" (ref "type"), "=",
    field "right" (ref "type")])),
  ("class_definition", .seq ["class", field "name" identifier,
    field "type_parameters" (opt (ref "type_parameter")),
    field "superclasses" (opt (ref "argument_list")), ":", field "body" suite]),
  ("type_parameter", enclosed "[" (ref "type") "]"),
  ("parenthesized_list_splat", prec 1 (.seq ["(", oneOf [
    aliased "parenthesized_expression" (ref "parenthesized_list_splat"), ref "list_splat"], ")"])),
  ("argument_list", .seq ["(", opt (commaSep1 (oneOf [
      expression, ref "list_splat", ref "dictionary_splat",
      aliased "parenthesized_expression" (ref "parenthesized_list_splat"),
      ref "keyword_argument"])), opt ",", ")"]),
  ("decorated_definition", .seq [.many1 (ref "decorator"),
    field "definition" (oneOf [ref "class_definition", ref "function_definition"])]),
  ("decorator", .seq ["@", expression, ref "_newline"]),
  ("_suite", oneOf [
    aliased "block" (ref "_simple_statements"),
    .seq [ref "_indent", ref "block"],
    aliased "block" (ref "_newline")]),
  ("block", .seq [many (ref "_statement"), ref "_dedent"]),
  ("expression_list", precRight 0 (.seq [expression, oneOf [",",
    .seq [.many1 (.seq [",", expression]), opt ","]]])),
  ("dotted_name", prec 1 (sepBy1 identifier "."))]

private def caseRules : List (String × Rule) :=
  let casePatterns := optCommaList (ref "case_pattern")
  let number := oneOf [ref "integer", ref "float"]
  [("case_pattern", prec 1 (oneOf [
      aliased "as_pattern" (ref "_as_pattern"), ref "keyword_pattern", ref "_simple_pattern"])),
    ("_simple_pattern", prec 1 (oneOf [
      ref "class_pattern", ref "splat_pattern", ref "union_pattern",
      aliased "list_pattern" (ref "_list_pattern"), aliased "tuple_pattern" (ref "_tuple_pattern"),
      ref "dict_pattern", ref "string", ref "concatenated_string", ref "true", ref "false",
      ref "none", .seq [opt "-", number], ref "complex_pattern", ref "dotted_name", "_"])),
    ("_as_pattern", .seq [ref "case_pattern", "as", identifier]),
    ("union_pattern", precRight 0 (.seq [ref "_simple_pattern",
      .many1 (precLeft 0 (.seq ["|", ref "_simple_pattern"]))])),
    ("_list_pattern", .seq ["[", casePatterns, "]"]),
    ("_tuple_pattern", .seq ["(", casePatterns, ")"]),
    ("dict_pattern", .seq ["\x7b",
      optCommaList (oneOf [ref "_key_value_pattern", ref "splat_pattern"]), "\x7d"]),
    ("_key_value_pattern",
      .seq [field "key" (ref "_simple_pattern"), ":", field "value" (ref "case_pattern")]),
    ("keyword_pattern", .seq [identifier, "=", ref "_simple_pattern"]),
    ("splat_pattern", prec 1 (.seq [oneOf ["*", "**"], oneOf [identifier, "_"]])),
    ("class_pattern", .seq [ref "dotted_name", "(", casePatterns, ")"]),
    ("complex_pattern", prec 1 (.seq [opt "-", number, oneOf ["+", "-"], number]))]

private def patternRules : List (String × Rule) :=
  let target := oneOf [identifier, ref "keyword_identifier", ref "subscript", ref "attribute"]
  [("_parameters", .seq (commaList (ref "parameter"))),
    ("_patterns", .seq (commaList (ref "pattern"))),
    ("parameter", oneOf [
      identifier, ref "typed_parameter", ref "default_parameter", ref "typed_default_parameter",
      ref "list_splat_pattern", ref "tuple_pattern", ref "keyword_separator",
      ref "positional_separator", ref "dictionary_splat_pattern"]),
    ("pattern", oneOf [
      identifier, ref "keyword_identifier", ref "subscript", ref "attribute",
      ref "list_splat_pattern", ref "tuple_pattern", ref "list_pattern"]),
    ("tuple_pattern", .seq ["(", opt (ref "_patterns"), ")"]),
    ("list_pattern", .seq ["[", opt (ref "_patterns"), "]"]),
    ("default_parameter", .seq [field "name" (oneOf [identifier, ref "tuple_pattern"]), "=",
      field "value" expression]),
    ("typed_default_parameter", prec (-1) (.seq [field "name" identifier, ":",
      field "type" (ref "type"), "=", field "value" expression])),
    ("list_splat_pattern", .seq ["*", target]),
    ("dictionary_splat_pattern", .seq ["**", target]),
    ("as_pattern", precLeft 0 (.seq [expression, "as",
      field "alias" (aliased "as_pattern_target" expression)]))]

private def binaryOperators : List (Bool × String × Int) := [
  (false, "+", 18), (false, "-", 18), (false, "*", 19), (false, "@", 19), (false, "/", 19),
  (false, "%", 19), (false, "//", 19), (true, "**", 21), (false, "|", 14), (false, "&", 15),
  (false, "^", 16), (false, "<<", 17), (false, ">>", 17)]

private def comparisonOperators : Rule := oneOf [
  "<", "<=", "==", "!=", ">=", ">", "<>", "in", aliasedToken "not in" (ref "_not_in"), "is",
  aliasedToken "is not" (ref "_is_not")]

private def expressionRules : List (String × Rule) := [
  ("_expression_within_for_in_clause",
    oneOf [expression, aliased "lambda" (ref "lambda_within_for_in_clause")]),
  ("expression", oneOf [
    ref "comparison_operator", ref "not_operator", ref "boolean_operator", ref "lambda", primary,
    ref "conditional_expression", ref "named_expression", ref "as_pattern"]),
  ("primary_expression", oneOf [
    ref "await", ref "binary_operator", identifier, ref "keyword_identifier", ref "string",
    ref "concatenated_string", ref "integer", ref "float", ref "true", ref "false", ref "none",
    ref "unary_operator", ref "attribute", ref "subscript", ref "call", ref "list",
    ref "list_comprehension", ref "dictionary", ref "dictionary_comprehension", ref "set",
    ref "set_comprehension", ref "tuple", ref "parenthesized_expression",
    ref "generator_expression", ref "ellipsis",
    aliased "list_splat" (ref "list_splat_pattern")]),
  ("not_operator", prec 12 (.seq ["not", field "argument" expression])),
  ("boolean_operator", oneOf [
    precLeft 11 (.seq [field "left" expression, field "operator" "and",
      field "right" expression]),
    precLeft 10 (.seq [field "left" expression, field "operator" "or",
      field "right" expression])]),
  ("binary_operator", oneOf (binaryOperators.map fun (toRight, operator, n) =>
    (if toRight then precRight n else precLeft n) (.seq [field "left" primary,
      field "operator" operator, field "right" primary]))),
  ("unary_operator", prec 20 (.seq [field "operator" (oneOf ["+", "-", "~"]),
    field "argument" primary])),
  ("_not_in", .seq ["not", "in"]),
  ("_is_not", .seq ["is", "not"]),
  ("comparison_operator", precLeft 13 (.seq [primary,
    .many1 (.seq [field "operators" comparisonOperators, primary])])),
  ("lambda", prec (-2) (.seq ["lambda", field "parameters" (opt (ref "lambda_parameters")), ":",
    field "body" expression])),
  ("lambda_within_for_in_clause", .seq ["lambda",
    field "parameters" (opt (ref "lambda_parameters")), ":",
    field "body" (ref "_expression_within_for_in_clause")]),
  ("assignment", .seq [field "left" (ref "_left_hand_side"), oneOf [
    .seq ["=", field "right" (ref "_right_hand_side")],
    .seq [":", field "type" (ref "type")],
    .seq [":", field "type" (ref "type"), "=", field "right" (ref "_right_hand_side")]]]),
  ("augmented_assignment", .seq [field "left" (ref "_left_hand_side"),
    field "operator" (oneOf ["+=", "-=", "*=", "/=", "@=", "//=", "%=", "**=", ">>=", "<<=", "&=",
      "^=", "|="]),
    field "right" (ref "_right_hand_side")]),
  ("_left_hand_side", oneOf [ref "pattern", ref "pattern_list"]),
  ("pattern_list", .seq [ref "pattern", oneOf [",",
    .seq [.many1 (.seq [",", ref "pattern"]), opt ","]]]),
  ("_right_hand_side", oneOf [
    expression, ref "expression_list", ref "assignment", ref "augmented_assignment",
    ref "pattern_list", ref "yield"]),
  ("yield", precRight 0 (.seq ["yield",
    oneOf [.seq ["from", expression], opt (ref "_expressions")]])),
  ("attribute", prec 22 (.seq [field "object" primary, ".", field "attribute" identifier])),
  ("subscript", prec 22 (.seq [field "value" primary, "[",
    commaSep1 (field "subscript" (oneOf [expression, ref "slice"])), opt ",", "]"])),
  ("slice", .seq [opt expression, ":", opt expression, opt (.seq [":", opt expression])]),
  ("ellipsis", literal "..."),
  ("call", prec 22 (.seq [field "function" primary,
    field "arguments" (oneOf [ref "generator_expression", ref "argument_list"])])),
  ("typed_parameter", prec (-1) (.seq [
    oneOf [identifier, ref "list_splat_pattern", ref "dictionary_splat_pattern"], ":",
    field "type" (ref "type")])),
  ("type", oneOf [prec 1 expression, ref "splat_type", ref "generic_type", ref "union_type",
    ref "constrained_type", ref "member_type"]),
  ("splat_type", prec 1 (.seq [oneOf ["*", "**"], identifier])),
  ("generic_type", prec 1 (.seq [oneOf [identifier, aliased "identifier" "type"],
    ref "type_parameter"])),
  ("union_type", precLeft 0 (.seq [ref "type", "|", ref "type"])),
  ("constrained_type", precRight 0 (.seq [ref "type", ":", ref "type"])),
  ("member_type", .seq [ref "type", ".", identifier]),
  ("keyword_argument", .seq [field "name" anyIdentifier, "=", field "value" expression])]

private def literalRules : List (String × Rule) := [
  ("list", .seq ["[", opt (ref "_collection_elements"), "]"]),
  ("set", .seq ["\x7b", ref "_collection_elements", "\x7d"]),
  ("tuple", .seq ["(", opt (ref "_collection_elements"), ")"]),
  ("dictionary", .seq ["\x7b", opt (commaSep1 (oneOf [ref "pair", ref "dictionary_splat"])),
    opt ",", "\x7d"]),
  ("pair", .seq [field "key" expression, ":", field "value" expression]),
  ("list_comprehension",
    .seq ["[", field "body" expression, ref "_comprehension_clauses", "]"]),
  ("dictionary_comprehension",
    .seq ["\x7b", field "body" (ref "pair"), ref "_comprehension_clauses", "\x7d"]),
  ("set_comprehension",
    .seq ["\x7b", field "body" expression, ref "_comprehension_clauses", "\x7d"]),
  ("generator_expression",
    .seq ["(", field "body" expression, ref "_comprehension_clauses", ")"]),
  ("_comprehension_clauses", .seq [ref "for_in_clause",
    many (oneOf [ref "for_in_clause", ref "if_clause"])]),
  ("parenthesized_expression", prec 1 (.seq ["(", oneOf [expression, ref "yield"], ")"])),
  ("_collection_elements", .seq (commaList (oneOf [expression, ref "yield", ref "list_splat",
    aliased "parenthesized_expression" (ref "parenthesized_list_splat")]))),
  ("for_in_clause", precLeft 0 (.seq [opt "async", "for", field "left" (ref "_left_hand_side"),
    "in", field "right" (commaSep1 (ref "_expression_within_for_in_clause")), opt ","])),
  ("if_clause", .seq ["if", expression]),
  ("conditional_expression",
    precRight (-1) (.seq [expression, "if", expression, "else", expression])),
  ("concatenated_string", .seq [ref "string", .many1 (ref "string")]),
  ("string", .seq [ref "string_start", many (oneOf [ref "interpolation", ref "string_content"]),
    ref "string_end"]),
  ("string_content", precRight 0 (.many1 (oneOf [ref "escape_interpolation",
    ref "escape_sequence", ref "_not_escape_sequence", ref "_string_content"]))),
  ("interpolation", .seq ["\x7b", field "expression" (ref "_f_expression"), opt "=",
    opt (field "type_conversion" (ref "type_conversion")),
    opt (field "format_specifier" (ref "format_specifier")), "\x7d"]),
  ("_f_expression", oneOf [expression, ref "expression_list", ref "pattern_list", ref "yield"]),
  ("escape_sequence", .token { regex := escapeRegex, precedence := 1, immediate := true }),
  ("_not_escape_sequence", .token { TokenPattern.literal "\\" with immediate := true }),
  ("format_specifier", .seq [":", many (oneOf [
    .token { regex := .plus (.noneOf (.ofChars "\x7b\x7d\n")), precedence := 1 },
    aliased "format_expression" (ref "interpolation")])]),
  ("type_conversion", token (.seq [.char '!', .oneOf (.between 'a' 'z')])),
  ("integer", token integerRegex),
  ("float", token floatRegex),
  ("identifier", token identifierRegex),
  ("keyword_identifier", oneOf [
    prec (-3) (aliased "identifier" (oneOf ["print", "exec", "async", "await"])),
    aliased "identifier" (oneOf ["type", "match"])]),
  ("true", literal "True"),
  ("false", literal "False"),
  ("none", literal "None"),
  ("await", prec 20 (.seq ["await", primary])),
  ("comment", token commentRegex),
  ("line_continuation", .token { regex := continuationRegex, precedence := 1 }),
  ("positional_separator", literal "/"),
  ("keyword_separator", literal "*")]

/-- The tokens that the layout scanner may find, in the order of `Layout.Valid`. -/
private def scannedTokens : List ScannedToken := [
  .named "_newline", .named "_indent", .named "_dedent", .named "string_start",
  .named "_string_content", .named "escape_interpolation", .named "string_end", .named "comment",
  .literal "]", .literal ")", .literal "\x7d", .literal "except"]

def grammar : Grammar where
  rules := statementRules ++ caseRules ++ patternRules ++ expressionRules ++ literalRules
  word := "identifier"
  extras := ["comment", "line_continuation"]
  separators := separatorRegex
  scanned := scannedTokens
  supertypes := ["_simple_statement", "_compound_statement", "expression", "primary_expression",
    "pattern", "parameter"]
  inlined := ["_simple_statement", "_compound_statement", "_suite", "_expressions",
    "_left_hand_side", "keyword_identifier"]

end Checkup.Program
