import IssueTrace.History.Store
import IssueTrace.Storage.FileSystem

/-!
# Where a history is kept

A directory of a file system that holds a repository. It is opened by any path that leads to just
this directory.
-/

namespace IssueTrace.History

/-- A repository in a file system. -/
structure Site where
  place : List String
  history : History
  deriving Inhabited

/-- Opens the repository at the end of a path. -/
def Site.openAt (s : Site) (fs : FileSystem) (path : String) : Except GitFault History :=
  match fs.locate path with
  | .ok (.existing place .directory) => if place = s.place then .ok s.history else .error .notFound
  | _ => .error .notFound

end IssueTrace.History
