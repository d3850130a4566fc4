import IssueTrace.Diff.Header
import IssueTrace.History.Snapshot

/-!
# Changed files

The paths at which two snapshots differ, in order, and the changed files among them. A leaf that
changes its type counts as deleted and added, and a file that is added is compared with an empty one.
Binary files have no hunks.
-/

namespace IssueTrace.History

/-- How many bytes of a file are looked at to tell whether it is a text. -/
def probeSize : Nat := 8000

/-- A file is binary if there is a NUL near its beginning. -/
def isBinary (bytes : List UInt8) : Bool := (bytes.take probeSize).contains 0

/-- The headers of the hunks between two versions of a file. -/
def hunksBetween (context : Nat) (old new : List UInt8) : List String :=
  if isBinary old || isBinary new then [] else Diff.headers context old new

/-- The greatest number of unchanged lines that a hunk can show at each side. -/
def maxContext : Nat := 0xFFFFFFFF

/-- How two snapshots differ at a path. -/
inductive Difference where
  | deleted (old : Leaf)
  | added (new : Leaf)
  | modified (old new : Leaf)
  deriving DecidableEq, Repr, Inhabited

namespace Difference

/-- The differences between the leaves that two snapshots have at a path. -/
def between : Option Leaf → Option Leaf → List Difference
  | none, none => []
  | some old, none => [.deleted old]
  | none, some new => [.added new]
  | some old, some new =>
      if old = new then []
      else if old.type = new.type then [.modified old new]
      else [.deleted old, .added new]

/-- The bytes before and after, where something new is at the path. -/
def versions? : Difference → Option (List UInt8 × List UInt8)
  | .deleted _ => none
  | .added new => some ([], new.bytes)
  | .modified old new => some (old.bytes, new.bytes)

end Difference

/-- A path at which two snapshots differ. -/
structure Delta where
  names : List String
  difference : Difference
  deriving DecidableEq, Repr, Inhabited

namespace Delta

def path (d : Delta) : String := "/".intercalate d.names

/-- The change to report for a delta: none if nothing new is at the path, or if the path does not have
the given end. -/
def fileChange? (ending : String) (context : Nat) (d : Delta) : Option FileChange :=
  match d.difference.versions? with
  | none => none
  | some (before, after) =>
      if ending.toList.isSuffixOf d.path.toList then
        some ⟨d.path, hunksBetween (min context maxContext) before after⟩
      else none

end Delta

namespace Snapshot

/-- The names that lead to a leaf of either snapshot, in the order of the paths. -/
def namesOfBoth (old new : Snapshot) : List (List String) :=
  let fresh := new.leafNames.filter fun names => (old.leaf? names).isNone
  (old.leafNames ++ fresh).mergeSort fun a b => "/".intercalate a ≤ "/".intercalate b

/-- The differences between two snapshots, in the order of the paths. -/
def deltas (old new : Snapshot) : List Delta :=
  (old.namesOfBoth new).flatMap fun names =>
    (Difference.between (old.leaf? names) (new.leaf? names)).map (⟨names, ·⟩)

/-- The added and modified files whose names have a given end, with the headers of their hunks. -/
def changes (old new : Snapshot) (ending : String) (context : Nat) : List FileChange :=
  (old.deltas new).filterMap (·.fileChange? ending context)

end Snapshot

end IssueTrace.History
