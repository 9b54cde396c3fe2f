/-!
# The manual

The pages that the program can show, line by line, and the names they go by.
-/

namespace GameConfig
namespace Manual

inductive Topic where
  | directives
  | variables
  | operators
  | truthiness
deriving DecidableEq, Repr

namespace Topic

def all : List Topic :=
  [.directives, .variables, .operators, .truthiness]

def names : Topic → List String
  | .directives => ["directives", "directive", "queries", "query"]
  | .variables => ["variables", "variable", "vars", "state"]
  | .operators => ["operators", "ops", "predicates"]
  | .truthiness => ["truthiness", "truth", "bool"]

/-- The topic of a name in any letter case.  All names are made of letters that no character
outside of ASCII is a capital of. -/
def ofName? (name : String) : Option Topic :=
  all.find? fun topic => topic.names.contains (name.map Char.toLower)

end Topic

def overviewLines : List String :=
    [ "LOREKEY DOCUMENTATION",
      "",
      "lorekey resolves data-driven expressions written inside JSON configuration:",
      "queries that pick values out of a document, variables that read game state,",
      "and predicates that test it.",
      "",
      "DOCUMENTATION CATEGORIES",
      "",
      "  directives        Query objects: key, path, query, default",
      "  variables         Literals and state references (flag, counter, quest, text)",
      "  operators         Predicate operators and their neutral results",
      "  truthiness        How values turn into true/false",
      "",
      "QUICK REFERENCE",
      "",
      "  \x7b\"key\": \"gold\"\x7d                         Member of the data node",
      "  \x7b\"path\": \"player.stats.str\"\x7d            Nested member",
      "  \x7b\"counter\": \"gold\"\x7d                     Game state reference",
      "  \x7b\"and\": [..], \"or\": [..], \"not\": ..\x7d    Conditions",
      "",
      "Run 'lorekey doc <category>' for detailed documentation." ]

def directiveLines : List String :=
    [ "DIRECTIVES - Query Objects",
      "",
      "A query is any JSON value. Values that are not objects, and objects without",
      "a directive key, resolve to themselves.",
      "",
      "KEY",
      "  \x7b\"key\": \"segment\"\x7d",
      "    Member of the data node. On arrays a decimal segment is an index.",
      "",
      "    Example:",
      "      Data:   \x7b\"a\": 42\x7d",
      "      Query:  \x7b\"key\": \"a\"\x7d",
      "      Output: 42",
      "",
      "PATH",
      "  \x7b\"path\": [\"a\", \"b\", 0]\x7d",
      "  \x7b\"path\": \"a.b.0\"\x7d",
      "    Descend one segment at a time. An empty path is the data node itself.",
      "",
      "NESTED QUERY",
      "  \x7b\"key\": \"player\", \"query\": \x7b\"key\": \"gold\"\x7d\x7d",
      "    Resolve \"query\" against the node the directive reached.",
      "",
      "DEFAULT",
      "  \x7b\"key\": \"mana\", \"default\": 0\x7d",
      "    Used when descent or the nested query misses. Resolved against the",
      "    original data node, so it may itself be a query.",
      "",
      "MISSING VALUES",
      "  A miss without a default resolves to null. A missing member and a member",
      "  that is explicitly null are indistinguishable.",
      "",
      "WITHOUT A DOCUMENT",
      "  lorekey query '\x7b\"key\": \"a\"\x7d'",
      "    With no data node the query is printed as written." ]

def variableLines : List String :=
    [ "VARIABLES - Literals and State References",
      "",
      "LITERALS",
      "  Strings, numbers, booleans, null, arrays, and objects without a reference",
      "  key are constants.",
      "",
      "STATE REFERENCES",
      "  \x7b\"flag\": \"metCain\"\x7d       Save flag        unset: false",
      "  \x7b\"counter\": \"gold\"\x7d       Counter          unset: 0",
      "  \x7b\"quest\": \"butcher\"\x7d      Quest stage      unset: 0",
      "  \x7b\"text\": \"playerName\"\x7d    Text value       unset: \"\"",
      "",
      "  \x7b\"var\": \"gold\", \"scope\": \"counter\"\x7d",
      "    Generic form. \"scope\" defaults to counter.",
      "",
      "  A reference whose name is not a string is treated as a literal.",
      "  Reading an unset name never creates it." ]

def operatorLines : List String :=
    [ "OPERATORS - Predicates",
      "",
      "A predicate is an object with one operator key. Its value is the operand",
      "list; a non-array value is a single operand. Operands may be literals,",
      "state references, or nested predicates.",
      "",
      "LOGICAL",
      "  \x7b\"and\": [a, b, ...]\x7d      Left to right, stops at first false. Empty: true",
      "  \x7b\"or\":  [a, b, ...]\x7d      Left to right, stops at first true.  Empty: false",
      "  \x7b\"not\": a\x7d                Exactly one operand",
      "",
      "COMPARISON (exactly two operands)",
      "  equals  notEquals  lessThan  lessOrEqual  greaterThan  greaterOrEqual",
      "",
      "  Numbers compare by value (1 equals 1.0). Strings compare bytewise.",
      "  false < true. Arrays and objects are only equal or unordered; their",
      "  members compare by value too, so [1] equals [1.0].",
      "  Values of different kinds are never equal and never ordered.",
      "",
      "GAME STATE",
      "  \x7b\"hasItem\": [\"potion\"]\x7d             Held in any inventory",
      "  \x7b\"hasItem\": [\"potion\", \"belt\"]\x7d     Held in the named inventory",
      "  \x7b\"hasFlag\": \"metCain\"\x7d              Flag is set",
      "",
      "TEXT",
      "  \x7b\"matches\": [value, \"^pattern$\"]\x7d   Regular expression on strings",
      "",
      "MALFORMED",
      "  Wrong operand counts, wrong operand kinds and invalid patterns give false." ]

def truthinessLines : List String :=
    [ "TRUTHINESS - Values as Conditions",
      "",
      "  null                  false",
      "  true / false          itself",
      "  numbers               true when nonzero",
      "  strings               true when non-empty",
      "  arrays, objects       true when non-empty",
      "",
      "  A predicate used as a value is the boolean true or false.",
      "",
      "  Example:",
      "    lorekey eval '\"5\"' --bool",
      "    true" ]

def page (lines : List String) : String :=
  String.join (lines.map fun line => line ++ "\n")

def overview : String :=
  page overviewLines

def Topic.text : Topic → String
  | .directives => page directiveLines
  | .variables => page variableLines
  | .operators => page operatorLines
  | .truthiness => page truthinessLines

end Manual
end GameConfig
