import IssueTrace.History.Snapshot

/-!
# Stored directories

The names in a directory are stored as bytes, which need not be those of a text. The program asks for
paths that are texts and passes over changes at all others, so a snapshot has the entries whose names
are texts.
-/

namespace IssueTrace.History

/-- What is stored in a directory under a name. -/
inductive StoredNode where
  | leaf (leaf : Leaf)
  | directory (entries : List (List UInt8 × StoredNode))
  deriving Repr, Inhabited

namespace StoredNode

mutual

/-- What can be read of a node by texts. -/
def readable : StoredNode → Node
  | .leaf l => .leaf l
  | .directory entries => .directory (readableEntries entries)

/-- The entries whose names are texts. -/
def readableEntries : List (List UInt8 × StoredNode) → List (String × Node)
  | [] => []
  | (name, n) :: rest =>
      match Text.decode? name with
      | some text => (text, n.readable) :: readableEntries rest
      | none => readableEntries rest

end

end StoredNode

/-- The snapshot of what is stored below a root directory. -/
def Snapshot.ofStored (entries : List (List UInt8 × StoredNode)) : Snapshot :=
  ⟨StoredNode.readableEntries entries⟩

end IssueTrace.History
