/-!
# Declarations

What a statement declares: a function, a class with the declarations of its body, or nothing that
is of interest here.
-/

namespace IssueTrace.Source

/-- A statement with the line it starts on, counted from one. -/
inductive Declaration where
  | function (name : String) (line : Nat)
  | classDef (name : String) (line : Nat) (body : List Declaration)
  /-- Any other statement, by the kind of its node. -/
  | other (kind : String) (line : Nat)
  deriving Repr, Inhabited

namespace Declaration

def line : Declaration → Nat
  | .function _ l => l
  | .classDef _ l _ => l
  | .other _ l => l

def name : Declaration → String
  | .function n _ => n
  | .classDef n _ _ => n
  | .other k _ => k

/-- The declarations inside; only a class has any. -/
def body : Declaration → List Declaration
  | .classDef _ _ b => b
  | _ => []

/-- The same declaration on another line. -/
def atLine (d : Declaration) (line : Nat) : Declaration :=
  match d with
  | .function n _ => .function n line
  | .classDef n _ b => .classDef n line b
  | .other k _ => .other k line

end Declaration

end IssueTrace.Source
