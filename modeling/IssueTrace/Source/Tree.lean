/-!
# Concrete syntax trees

A tree of the pieces of a source text: statements, expressions and the tokens they are made of. A
node knows its kind, where it stands, which field of its parent it fills, and whether the text was
faulty there.
-/

namespace IssueTrace.Source

/-- A place in a text: the line and the byte in that line, both counted from zero. -/
structure Point where
  row : Nat
  column : Nat
  deriving DecidableEq, Repr, Inhabited

/-- What can be wrong with a node itself. -/
inductive Flaw where
  /-- The text between the ends of the node fits no rule. -/
  | error
  /-- The node stands for a token that the text lacks. -/
  | missing
  deriving DecidableEq, Repr

/-- What is known of a node besides its children. -/
structure NodeInfo where
  kind : String
  /-- Whether the node is a named one; keywords and punctuation are not. -/
  isNamed : Bool
  flaw : Option Flaw := none
  start : Point
  stop : Point
  /-- The field of the parent that the node fills. -/
  field : Option String := none
  /-- The text of a token; empty for a node with parts. -/
  text : String := ""
  deriving DecidableEq, Repr, Inhabited

/-- A concrete syntax tree. Each node carries a flag for the flaws in it and below it. -/
inductive Tree where
  | node (info : NodeInfo) (flawed : Bool) (children : List Tree)
  deriving Repr, Inhabited

namespace Tree

def info : Tree → NodeInfo
  | .node i _ _ => i

def flawed : Tree → Bool
  | .node _ f _ => f

def children : Tree → List Tree
  | .node _ _ cs => cs

def kind (t : Tree) : String := t.info.kind

/-- Whether the node itself is an error or a missing token. -/
def isFlaw (t : Tree) : Bool := t.info.flaw.isSome

/-- The tree with the flag that its flaws call for. -/
def make (info : NodeInfo) (children : List Tree) : Tree :=
  .node info (info.flaw.isSome || children.any flawed) children

/-- The first child that fills a field. -/
def child? (t : Tree) (field : String) : Option Tree :=
  t.children.find? (·.info.field == some field)

/-- The line on which a node begins, counted from one. -/
def line (t : Tree) : Nat := t.info.start.row + 1

mutual

/-- The nodes of a tree in document order, a node before what it contains. -/
def preorder : Tree → List Tree
  | .node i f cs => .node i f cs :: preorderAll cs

/-- The nodes of several trees in document order. -/
def preorderAll : List Tree → List Tree
  | [] => []
  | t :: ts => preorder t ++ preorderAll ts

end

end Tree

end IssueTrace.Source
