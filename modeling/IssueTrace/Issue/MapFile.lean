import IssueTrace.Issue.CommitMap
import IssueTrace.Storage.FileSystem

/-!
# Issue map files

Keeping the links between issues and commits in a file.
-/

namespace IssueTrace.IssueMap

def save (m : IssueMap) (fs : FileSystem) (path : String) : Except IoFault FileSystem :=
  fs.write path m.render

/-- Reads a map from a file, with a warning for each word that is no id. -/
def load (fs : FileSystem) (path : String) : Except IoFault (IssueMap × List String) :=
  (fs.readText path).map read

end IssueTrace.IssueMap
