import IssueTrace.Change.Hunk
import IssueTrace.NameSet
import IssueTrace.Source.Declaration

/-!
# Attribution of lines

Which declarations a span of changed lines falls on. A declaration reaches from its own line to the
line before the next one, so a line belongs to the last declaration that starts at or before it.
-/

namespace IssueTrace

open Source (Declaration)

namespace Change

/-- How many of the elements from `lo` on, `span` of them, lie before the first that fails a test,
counted from the beginning. The test holds up to some element and fails from there on. -/
def bisect (test : Nat → Bool) : Nat → Nat → Nat → Nat
  | 0, lo, _ => lo
  | fuel + 1, lo, span =>
      if span = 0 then lo
      else
        let half := span / 2
        if test (lo + half) then bisect test fuel (lo + half + 1) (span - half - 1)
        else bisect test fuel lo half

/-- The last of the declarations, given in ascending order, that starts at or before a line. -/
def locate? (declarations : List Declaration) (line : Nat) : Option Nat :=
  let starts := (declarations.map Declaration.line).toArray
  match bisect (fun i => starts.getD i 0 ≤ line) starts.size 0 starts.size with
  | 0 => none
  | k + 1 => some k

/-- The declarations that a span falls on. A span that ends before the first declaration falls on
none; one that starts before it falls on the first. -/
def covered (declarations : List Declaration) (span : LineSpan) : List Declaration :=
  match locate? declarations span.stop with
  | none => []
  | some last =>
      let first := (locate? declarations span.start).getD 0
      (declarations.take (last + 1)).drop first

end Change

/-- The classes and methods that a change touches. -/
structure Entities where
  classes : NameSet := ∅
  methods : NameSet := ∅
  deriving Inhabited

namespace Entities

def isEmpty (e : Entities) : Bool := e.classes.isEmpty && e.methods.isEmpty

def union (e f : Entities) : Entities := ⟨e.classes.union f.classes, e.methods.union f.methods⟩

/-- The entities with every name inside a module. -/
def inModule (e : Entities) (name : String) : Entities :=
  let qualify := fun (x : String) => name ++ "." ++ x
  ⟨.ofList (e.classes.toList.map qualify), .ofList (e.methods.toList.map qualify)⟩

/-- The names of the functions among members of a class. -/
def memberNames (className : String) (members : List Declaration) : List String :=
  members.filterMap fun
    | .function name _ => some (className ++ "." ++ name)
    | _ => none

/-- Adds what a declaration that a span falls on contributes: a function its name, a class its name
and the functions of its body that the span falls on. -/
def addDeclaration (span : LineSpan) (e : Entities) : Declaration → Entities
  | .function name _ => { e with methods := e.methods.insert name }
  | .classDef name _ body =>
      { classes := e.classes.insert name
        methods := e.methods.insertAll (memberNames name (Change.covered body span)) }
  | .other _ _ => e

/-- Adds what a span of changed lines touches. -/
def addSpan (declarations : List Declaration) (e : Entities) (span : LineSpan) : Entities :=
  (Change.covered declarations span).foldl (addDeclaration span) e

end Entities

end IssueTrace
