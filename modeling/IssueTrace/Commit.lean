import IssueTrace.Text.Blank

/-!
# Commits

A commit as a repository shows it: its id, its message and its parents.
-/

namespace IssueTrace

/-- The id of a commit in hexadecimal digits. -/
structure CommitId where
  hex : String
  deriving DecidableEq, Hashable, Repr, Inhabited

namespace CommitId

instance : ToString CommitId := ⟨hex⟩

/-- The digits of which an id consists. -/
def digits : List Char := "0123456789abcdef".toList

/-- An id with all its digits. The ids in a commit graph are such ids. -/
structure IsFull (id : CommitId) : Prop where
  length_eq : id.hex.toList.length = 40
  mem_digits : ∀ c ∈ id.hex.toList, c ∈ digits

theorem isFull_iff (id : CommitId) :
    id.IsFull ↔ id.hex.toList.length = 40 ∧ id.hex.toList.all (digits.contains ·) = true := by
  rw [List.all_eq_true]
  simp only [List.contains_iff_mem]
  exact ⟨fun h => ⟨h.1, h.2⟩, fun h => ⟨h.1, h.2⟩⟩

instance (id : CommitId) : Decidable id.IsFull := decidable_of_iff' _ (isFull_iff id)

def isHexDigit (c : Char) : Bool :=
  c.isDigit || ('a' ≤ c && c ≤ 'f') || ('A' ≤ c && c ≤ 'F')

/-- Reads an id. Fewer than forty digits are filled up with zeros on the right. -/
def ofText? (s : String) : Option CommitId :=
  let digits := s.toList
  if digits.isEmpty || 40 < digits.length || !digits.all isHexDigit then none
  else
    some ⟨String.ofList (digits.map Char.toLower ++ List.replicate (40 - digits.length) '0')⟩

end CommitId

structure Commit where
  id : CommitId
  message : String
  parents : List CommitId
  deriving DecidableEq, Repr, Inhabited

namespace Commit

/-- The parent that a commit is compared with: the last one. -/
def diffParent? (c : Commit) : Option CommitId := c.parents.getLast?

/-- The first line of the message. -/
def summary (c : Commit) : String :=
  String.ofList ((Text.lines c.message.toList).head?.getD [])

end Commit

/-- A file changed between two commits, with the headers of its hunks in order. -/
structure FileChange where
  path : String
  hunks : List String
  deriving DecidableEq, Repr, Inhabited

end IssueTrace
