import IssueTrace.History.Compare
import IssueTrace.History.Graph
import IssueTrace.Repository

/-!
# Histories

A repository with its whole history: the commits, the names that refer to them, and the branch that is
at hand. The program reads it as any other repository.
-/

namespace IssueTrace

namespace History

/-- What a name refers to. -/
inductive Target where
  | commit (id : CommitId)
  /-- A note of its own that is put to a commit. -/
  | tag (id : CommitId)
  deriving DecidableEq, Repr, Inhabited

namespace Target

/-- The commit that is meant in the end. -/
def id : Target → CommitId
  | .commit id => id
  | .tag id => id

end Target

namespace Record

/-- The message as text, without line feeds at the beginning, up to a NUL. -/
def messageText (r : Record) : String :=
  Text.decodeLossy ((r.message.dropWhile (· = 10)).takeWhile (· != 0))

def commit (r : Record) : Commit := ⟨r.id, r.messageText, r.parents⟩

end Record

end History

structure History where
  graph : History.Graph := .empty
  /-- The names with what they refer to; they begin with `refs/`. -/
  references : List (String × History.Target) := []
  /-- The name of the branch at hand. There need not be such a branch yet. -/
  head : String := "refs/heads/main"
  deriving Inhabited

namespace History

def record (h : History) (id : CommitId) : Except Failure Record :=
  match h.graph.find? id with
  | some r => .ok r
  | none => .error (.git .notFound)

/-- What a full name refers to. -/
def reference? (h : History) (name : String) : Option Target :=
  h.references.lookup (if name = "HEAD" then h.head else name)

/-- The history as the program reads it. -/
def toRepository (h : History) : Repository where
  commit id := (h.record id).map Record.commit
  content id path := do
    let r ← h.record id
    match r.snapshot.file? path with
    | some bytes => return Text.decodeLossy bytes
    | none => throw (.contentNotFound id path)
  pathExists id path :=
    match h.graph.find? id with
    | some r => (r.snapshot.find? path).isSome
    | none => false
  changes parent id ending context := do
    let old ← h.record parent
    let new ← h.record id
    return old.snapshot.changes new.snapshot ending context

end History

end IssueTrace
