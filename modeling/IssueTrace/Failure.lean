import IssueTrace.Commit
import IssueTrace.Text.Quoted

/-!
# Failures

What can go wrong while the changed entities of a commit are looked up, and how it is put into words.
-/

namespace IssueTrace

/-- What a repository can refuse. -/
inductive GitFault where
  /-- An object, a reference, a parent or a repository does not exist. -/
  | notFound
  /-- A revision is badly written, or does not name a commit. -/
  | invalidSpec
  /-- The beginning of an id fits several objects. -/
  | ambiguous
  /-- A repository kept in memory does not hold the commit. -/
  | unknownCommit (id : CommitId)
  | other (text : String)
  deriving DecidableEq, Repr, Inhabited

/-- What a file system can refuse. -/
inductive IoFault where
  | notFound
  /-- The bytes of a file are no text. -/
  | invalidData
  /-- A name is too long. -/
  | invalidFilename
  | isADirectory
  | alreadyExists
  | notADirectory
  /-- A path holds a NUL. -/
  | invalidInput
  | other (text : String)
  deriving DecidableEq, Repr, Inhabited

/-- A failure of the run, or of one commit, file or hunk. -/
inductive Failure where
  /-- No dialect takes the source text. -/
  | parseFailure (origin : String) (reasons : List String)
  /-- There is no such file at that commit. -/
  | contentNotFound (commit : CommitId) (path : String)
  /-- A hunk header gives no range. -/
  | malformedHunk (commit : CommitId) (path : String) (fragment : String)
  /-- No directory above the file is a package. -/
  | noPackageResolved (commit : CommitId) (path : String)
  /-- There is no parent to compare with. -/
  | rootlessCommit (commit : CommitId)
  | git (fault : GitFault)
  | io (fault : IoFault)
  | grammar (text : String)
  | invalidConfig (text : String)
  deriving DecidableEq, Repr, Inhabited

namespace GitFault

def message : GitFault → String
  | .notFound => "the requested object was not found"
  | .invalidSpec => "the revision is not valid"
  | .ambiguous => "the id is too short"
  | .unknownCommit id => s!"unknown commit {id}"
  | .other text => text

end GitFault

namespace IoFault

def message : IoFault → String
  | .notFound => "No such file or directory (os error 2)"
  | .invalidData => "stream did not contain valid UTF-8"
  | .invalidFilename => "File name too long (os error 36)"
  | .isADirectory => "Is a directory (os error 21)"
  | .alreadyExists => "File exists (os error 17)"
  | .notADirectory => "Not a directory (os error 20)"
  | .invalidInput => "file name contained an unexpected NUL byte"
  | .other text => text

/-- A file may not be opened. -/
def denied : IoFault := .other "Permission denied (os error 13)"

end IoFault

namespace Failure

def message : Failure → String
  | .parseFailure origin reasons => s!"Failed to parse {origin}: " ++ "; ".intercalate reasons
  | .contentNotFound commit path => s!"{path} does not exist at {commit}"
  | .malformedHunk commit path fragment =>
      s!"Malformed hunk header in {path} at {commit}: " ++ Text.quoted fragment
  | .noPackageResolved commit path => s!"No package marker above {path} at {commit}"
  | .rootlessCommit commit => s!"Commit {commit} has no parent commit"
  | .git fault => "Git error: " ++ fault.message
  | .io fault => "IO error: " ++ fault.message
  | .grammar text => "Tree-sitter error: " ++ text
  | .invalidConfig text => "Invalid configuration: " ++ text

/-- Whether the failure concerns one hunk, file or commit only. -/
def isRecoverable : Failure → Bool
  | .parseFailure .. | .contentNotFound .. | .malformedHunk .. | .noPackageResolved ..
  | .rootlessCommit .. => true
  | .git _ | .io _ | .grammar _ | .invalidConfig _ => false

end Failure

end IssueTrace
