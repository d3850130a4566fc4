import IssueTrace.Failure

/-!
# Repositories

What the program asks of a repository. Any store of commits that can answer these questions will do.
-/

namespace IssueTrace

/-- Read access to commits, to the files at a commit, and to the changes between two commits. -/
structure Repository where
  commit : CommitId → Except Failure Commit
  /-- The text of a file at a commit. -/
  content : CommitId → String → Except Failure String
  /-- Whether there is a file or a directory of a name at a commit. -/
  pathExists : CommitId → String → Bool
  /-- The added and modified files whose names have a given end, between a parent and a commit, with
  hunks that show a given number of unchanged lines. -/
  changes : CommitId → CommitId → String → Nat → Except Failure (List FileChange)

end IssueTrace
