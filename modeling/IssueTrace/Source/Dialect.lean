import IssueTrace.Source.Search

/-!
# Dialects

The two versions of the language. A dialect takes a tree that has no flaw and no node of a kind that
only the other dialect can produce.
-/

namespace IssueTrace.Source

/-- A version of the language. -/
inductive Dialect where
  /-- Version 2.7. -/
  | legacy
  /-- Version 3. -/
  | modern
  deriving DecidableEq, Repr, Inhabited

/-- The node kinds that only version 3 produces. -/
def modernKinds : List String :=
  ["async", "await", "nonlocal_statement", "typed_parameter", "typed_default_parameter", "type",
    "keyword_separator", "positional_separator", "named_expression", "interpolation",
    "match_statement", "type_alias_statement"]

/-- The node kinds that only version 2 produces. -/
def legacyKinds : List String := ["print_statement", "exec_statement"]

/-- Why a dialect refuses a text. -/
inductive Refusal where
  /-- The first flaw, by its line and byte column counted from one. -/
  | syntaxError (line column : Nat)
  /-- The first node of a foreign kind. -/
  | unsupported (kind : String) (line : Nat)
  deriving DecidableEq, Repr, Inhabited

namespace Dialect

/-- The order in which the dialects are tried. -/
def order : List Dialect := [.legacy, .modern]

def name : Dialect → String
  | .legacy => "python2"
  | .modern => "python3"

/-- The kinds that a dialect does not know. -/
def foreignKinds : Dialect → List String
  | .legacy => modernKinds
  | .modern => legacyKinds

/-- What a dialect has against a tree, if anything. -/
def refusal? (d : Dialect) (t : Tree) : Option Refusal :=
  if t.flawed then
    match t.firstFlaw with
    | some n => some (.syntaxError (n.info.start.row + 1) (n.info.start.column + 1))
    | none => some (.syntaxError 0 0)
  else
    (t.firstOfKind d.foreignKinds).map fun n => .unsupported n.kind n.line

def refusalMessage (d : Dialect) : Refusal → String
  | .syntaxError line column => s!"{d.name}: syntax error at {line}:{column}"
  | .unsupported kind line => s!"{d.name}: unsupported `{kind}` at line {line}"

end Dialect

end IssueTrace.Source
