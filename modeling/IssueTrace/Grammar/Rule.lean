/-!
# Grammar rules

A grammar is written as a list of named rules over tokens. Rules are built from references to other
rules and to tokens by sequencing, choice and repetition, and carry annotations: a binding level and
an associativity that settle conflicts, a weight that ranks ambiguous readings, the name under which
a part appears in the tree, and the field it fills in its parent.
-/

namespace IssueTrace.Grammar

/-- The side to which an operator groups. -/
inductive Assoc where
  | left
  | right
  deriving DecidableEq, Repr

/-- The right-hand side of a named rule. -/
inductive Rule where
  /-- The empty sequence. -/
  | blank
  /-- A reference to a rule or a named token. -/
  | sym (name : String)
  /-- A token that is its own name. -/
  | lit (text : String)
  | seq (first second : Rule)
  | choice (first second : Rule)
  /-- One or more occurrences. -/
  | many1 (body : Rule)
  /-- A binding level, and possibly a grouping, for the body. -/
  | prec (level : Int) (assoc : Option Assoc) (body : Rule)
  /-- A weight added to every reading that uses the body. -/
  | weigh (weight : Int) (body : Rule)
  /-- The body appears under another node name. -/
  | named (name : String) (body : Rule)
  /-- The body fills a field of its parent. -/
  | field (name : String) (body : Rule)
  deriving BEq, Repr, Inhabited

namespace Rule

/-- The parts one after another. -/
def all : List Rule → Rule
  | [] => .blank
  | [r] => r
  | r :: rest => .seq r (all rest)

/-- One of the alternatives. -/
def oneOf : List Rule → Rule
  | [] => .blank
  | [r] => r
  | r :: rest => .choice r (oneOf rest)

def optional (r : Rule) : Rule := .choice r .blank

def many (r : Rule) : Rule := .choice (.many1 r) .blank

/-- One or more occurrences, separated by the given token. -/
def sepBy1 (separator : String) (r : Rule) : Rule := .seq r (many (.seq (.lit separator) r))

/-- One or more occurrences separated by commas. -/
def commaSep1 (r : Rule) : Rule := sepBy1 "," r

/-- One or more occurrences separated by commas, and possibly a comma at the end. -/
def commaList (r : Rule) : Rule := .seq (commaSep1 r) (optional (.lit ","))

/-- The list of occurrences in brackets. -/
def bracketed (opening : String) (r : Rule) (closing : String) : Rule :=
  all [.lit opening, r, .lit closing]

def leftAssoc (level : Int) (r : Rule) : Rule := .prec level (some .left) r

def rightAssoc (level : Int) (r : Rule) : Rule := .prec level (some .right) r

def binding (level : Int) (r : Rule) : Rule := .prec level none r

end Rule

/-- A grammar as it is written: its rules in order, the first one being the start rule, and what is
to be known about its names. -/
structure Spec where
  /-- The rules; the first is the start rule. -/
  rules : List (String × Rule)
  /-- The tokens that are known by a name. The first of them, the word, comes before the tokens of
  a fixed text, the others after them. -/
  tokens : List String
  /-- The tokens among these that are named nodes in the tree. -/
  named : List String
  /-- The rules that leave no node of their own, whatever their name. -/
  transparent : List String
  /-- The rules that are replaced by their alternatives wherever they occur. -/
  inlined : List String
  /-- The tokens that may stand between any two others. -/
  extras : List String

end IssueTrace.Grammar
