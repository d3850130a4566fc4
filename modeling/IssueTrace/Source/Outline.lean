import IssueTrace.Source.Declaration
import IssueTrace.Source.Dialect

/-!
# Outlines

The outline of a source text: the declarations of its statements, in the order of the text. A
decorated definition starts at its first decorator. The text counts as written in the first dialect
that takes its tree.
-/

namespace IssueTrace.Source

namespace Tree

/-- The text of a node's name, or its kind if it has none. -/
def declaredName (t : Tree) : String :=
  match t.child? "name" with
  | some n => n.info.text
  | none => t.kind

mutual

/-- What a statement declares. -/
def declaration : Tree → Declaration
  | .node i f cs =>
      let t := Tree.node i f cs
      if i.kind = "function_definition" then .function t.declaredName t.line
      else if i.kind = "class_definition" then .classDef t.declaredName t.line (bodyOf cs)
      else if i.kind = "decorated_definition" then
        match definitionOf cs with
        | some d => d.atLine t.line
        | none => .other i.kind t.line
      else .other i.kind t.line

/-- The declarations of the first child that is a body. -/
def bodyOf : List Tree → List Declaration
  | [] => []
  | .node i _ cs :: ts =>
      if i.field == some "body" then declarationsOf cs else bodyOf ts

/-- The declaration of the first child that is a definition. -/
def definitionOf : List Tree → Option Declaration
  | [] => none
  | t :: ts =>
      if t.info.field == some "definition" then some (declaration t) else definitionOf ts

/-- The declarations of the statements among several nodes. Comments are not statements. -/
def declarationsOf : List Tree → List Declaration
  | [] => []
  | t :: ts =>
      if t.info.isNamed && t.kind != "comment" then declaration t :: declarationsOf ts
      else declarationsOf ts

end

/-- The declarations of the statements of a module or a block. -/
def declarations (t : Tree) : List Declaration := declarationsOf t.children

end Tree

/-- The declarations of a source text. -/
structure Outline where
  dialect : Dialect
  declarations : List Declaration
  /-- How many line feeds the text has. -/
  lineCount : Nat
  deriving Repr, Inhabited

namespace Outline

/-- Tries dialects in turn: the first that takes the tree, or what each of them has against it. -/
def select (t : Tree) : List Dialect → Except (List (Dialect × Refusal)) Dialect
  | [] => .error []
  | d :: ds =>
      match d.refusal? t with
      | none => .ok d
      | some r => (select t ds).mapError ((d, r) :: ·)

/-- The outline of a text from its tree, or what each dialect has against it. -/
def ofTree (text : String) (t : Tree) : Except (List (Dialect × Refusal)) Outline :=
  (select t Dialect.order).map fun dialect =>
    { dialect
      declarations := t.declarations
      lineCount := (text.toList.filter (· == '\n')).length }

end Outline

end IssueTrace.Source
