import IssueTrace.Commit
import IssueTrace.Storage.Path
import IssueTrace.Text.Utf8

/-!
# Snapshots

The files at a commit: a tree of directories with files and references to commits of other projects
as its leaves. A path is looked up name by name.
-/

namespace IssueTrace.History

/-- How a file is to be taken. -/
inductive FileMode where
  | plain
  | executable
  /-- The content is the target of a symbolic link. -/
  | link
  /-- A mode that is not given to files any more, by its digits. -/
  | other (digits : String)
  deriving DecidableEq, Repr, Inhabited

/-- What stands at a path that is no directory. -/
inductive Leaf where
  | file (mode : FileMode) (bytes : List UInt8)
  /-- A commit of another project. -/
  | subproject (commit : CommitId)
  deriving DecidableEq, Repr, Inhabited

/-- The types of leaves; a leaf that changes its type is another leaf. -/
inductive LeafType where
  | file
  | link
  | subproject
  deriving DecidableEq, Repr, Inhabited

namespace Leaf

def type : Leaf → LeafType
  | .file .link _ => .link
  | .file _ _ => .file
  | .subproject _ => .subproject

/-- The content of a leaf for a comparison. -/
def bytes : Leaf → List UInt8
  | .file _ bytes => bytes
  | .subproject commit => Text.encode ("Subproject commit " ++ commit.hex ++ "\n")

end Leaf

/-- What stands in a directory under a name. -/
inductive Node where
  | leaf (leaf : Leaf)
  | directory (entries : List (String × Node))
  deriving Repr, Inhabited

namespace Node

/-- What stands at the end of names. -/
def at? : Node → List String → Option Node
  | n, [] => some n
  | .leaf _, _ :: _ => none
  | .directory entries, name :: rest => (entries.lookup name).bind fun n => n.at? rest

mutual

/-- The leaves with the names that lead to them. -/
def leaves : Node → List (List String × Leaf)
  | .leaf l => [([], l)]
  | .directory entries => leavesOf entries

/-- The leaves of the entries of a directory. -/
def leavesOf : List (String × Node) → List (List String × Leaf)
  | [] => []
  | (name, n) :: rest => (n.leaves.map fun (names, l) => (name :: names, l)) ++ leavesOf rest

end

end Node

/-- The files at a commit, by the entries of the root directory. -/
structure Snapshot where
  entries : List (String × Node) := []
  deriving Repr, Inhabited

namespace Snapshot

/-- The entries with another one under a name. -/
def setEntry (name : String) (n : Node) (entries : List (String × Node)) : List (String × Node) :=
  (name, n) :: entries.filter (·.1 != name)

/-- The entries with a leaf at the end of names. Directories on the way are made. -/
def putIn : List String → Leaf → List (String × Node) → List (String × Node)
  | [], _, entries => entries
  | [name], l, entries => setEntry name (.leaf l) entries
  | name :: rest, l, entries =>
      let below := match entries.lookup name with
        | some (.directory below) => below
        | _ => []
      setEntry name (.directory (putIn rest l below)) entries

/-- The entries without what stands at the end of names. A directory that gets empty vanishes. -/
def removeFrom : List String → List (String × Node) → List (String × Node)
  | [], entries => entries
  | [name], entries => entries.filter (·.1 != name)
  | name :: rest, entries =>
      match entries.lookup name with
      | some (.directory below) =>
          match removeFrom rest below with
          | [] => entries.filter (·.1 != name)
          | below => setEntry name (.directory below) entries
      | _ => entries

def put (s : Snapshot) (path : String) (l : Leaf) : Snapshot := ⟨putIn (Path.names path) l s.entries⟩

def remove (s : Snapshot) (path : String) : Snapshot := ⟨removeFrom (Path.names path) s.entries⟩

/-- The names in a path, and whether it ends in a slash and so can only mean a directory. -/
def namesOf (path : String) : List String × Bool :=
  match (Path.piecesFrom [] path.toList).map String.ofList with
  | [] => ([], false)
  | [name] => ([name], false)
  | names => if names.getLast? = some "" then (names.dropLast, true) else (names, false)

/-- What stands at a path. A path with an empty name leads nowhere, but it may end in a slash if it
means a directory. -/
def find? (s : Snapshot) (path : String) : Option Node :=
  let (names, wantsDirectory) := namesOf path
  match (Node.directory s.entries).at? names with
  | some (.leaf l) => if wantsDirectory then none else some (.leaf l)
  | found => found

def file? (s : Snapshot) (path : String) : Option (List UInt8) :=
  match s.find? path with
  | some (.leaf (.file _ bytes)) => some bytes
  | _ => none

/-- The leaf at the end of names. -/
def leaf? (s : Snapshot) (names : List String) : Option Leaf :=
  match (Node.directory s.entries).at? names with
  | some (.leaf l) => some l
  | _ => none

/-- The names that lead to the leaves. -/
def leafNames (s : Snapshot) : List (List String) := (Node.leavesOf s.entries).map (·.1)

end Snapshot

end IssueTrace.History
