import IssueTrace.Diagnostics
import IssueTrace.Issue.CommitMap
import IssueTrace.Repository
import IssueTrace.Storage.FileSystem

/-!
# Query files

One file for each commit linked to an issue, with the first line of the commit's message and then
the whole message. Its name holds the issue and the position of the commit among those of the issue.
-/

namespace IssueTrace.Queries

def fileName (issue : String) (position : Nat) : String :=
  issue ++ "_description_" ++ toString position ++ ".txt"

def fileText (c : Commit) : String := c.summary ++ "\n" ++ c.message

/-- A run of writing: how many files were written, the journal, and the file system. -/
structure Progress where
  written : Nat
  journal : Journal
  files : FileSystem

/-- Writes the file of one commit. A commit that the repository does not know is noted and passed
over. -/
def writeOne (repo : Repository) (dir issue : String) (p : Progress) (position : Nat)
    (id : CommitId) : Except IoFault Progress :=
  match repo.commit id with
  | .error failure => .ok { p with journal := p.journal.note failure }
  | .ok commit => do
      let files ← p.files.write (Path.join dir (fileName issue position)) (fileText commit)
      return { p with written := p.written + 1, files }

/-- The commits of a map with their issues and positions, in order. -/
def links (map : IssueMap) : List (String × Nat × CommitId) :=
  map.entries.flatMap fun (issue, ids) => ids.zipIdx.map fun (id, k) => (issue, k, id)

/-- Writes the files of the given commits, up to the first that fails. -/
def writeLinks (repo : Repository) (dir : String) :
    List (String × Nat × CommitId) → Progress → Except IoFault Unit × Progress
  | [], p => (.ok (), p)
  | (issue, k, id) :: rest, p =>
      match writeOne repo dir issue p k id with
      | .ok p => writeLinks repo dir rest p
      | .error fault => (.error fault, p)

/-- Writes the files of all commits of a map into a directory, and counts them. -/
def write (repo : Repository) (map : IssueMap) (dir : String) (journal : Journal)
    (files : FileSystem) : Except IoFault Nat × Journal × FileSystem :=
  match files.makeDirectories dir with
  | (.error fault, files) => (.error fault, journal, files)
  | (.ok (), files) =>
      match writeLinks repo dir (links map) ⟨0, journal, files⟩ with
      | (.ok (), p) => (.ok p.written, p.journal, p.files)
      | (.error fault, p) => (.error fault, p.journal, p.files)

end IssueTrace.Queries
