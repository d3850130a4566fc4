import IssueTrace.Repository

/-!
# Repositories in memory

A repository whose commits, files and changes are stated one by one. A commit has the files stated
for it and no others, and one list of changes, whichever parent it is compared with.
-/

namespace IssueTrace

/-- What is stated for one id. -/
structure Revision where
  commit : Option Commit := none
  /-- The files with their texts; of several entries for a path the first counts. -/
  files : List (String × String) := []
  changes : List FileChange := []
  deriving Inhabited

/-- A repository whose content is stated. -/
structure MemoryRepository where
  /-- The revisions; each id occurs once. -/
  revisions : List (CommitId × Revision) := []
  deriving Inhabited

namespace MemoryRepository

def find? (r : MemoryRepository) (id : CommitId) : Option Revision := r.revisions.lookup id

/-- Changes the revision of an id, a blank one if nothing has been stated for it. -/
def update (r : MemoryRepository) (id : CommitId) (change : Revision → Revision) :
    MemoryRepository :=
  match r.find? id with
  | some _ =>
      ⟨r.revisions.map fun (k, v) => if k = id then (k, change v) else (k, v)⟩
  | none => ⟨(id, change {}) :: r.revisions⟩

/-- States a commit. -/
def addCommit (r : MemoryRepository) (c : Commit) : MemoryRepository :=
  r.update c.id fun v => { v with commit := some c }

/-- States the text of a file at a commit. -/
def addFile (r : MemoryRepository) (id : CommitId) (path text : String) : MemoryRepository :=
  r.update id fun v => { v with files := (path, text) :: v.files }

/-- States a change that a commit makes. -/
def addChange (r : MemoryRepository) (id : CommitId) (change : FileChange) : MemoryRepository :=
  r.update id fun v => { v with changes := v.changes ++ [change] }

def isBelow (directory path : String) : Bool := (directory.toList ++ ['/']).isPrefixOf path.toList

def hasPath (v : Revision) (path : String) : Bool :=
  v.files.any fun f => f.1 == path || isBelow path f.1

/-- The repository as the program reads it. -/
def toRepository (r : MemoryRepository) : Repository where
  commit id :=
    match (r.find? id).bind (·.commit) with
    | some c => .ok c
    | none => .error (.git (.unknownCommit id))
  content id path :=
    match (r.find? id).bind (·.files.lookup path) with
    | some text => .ok text
    | none => .error (.contentNotFound id path)
  pathExists id path := (r.find? id).any (hasPath · path)
  changes _ id extension _ :=
    let listed := ((r.find? id).map (·.changes)).getD []
    .ok (listed.filter fun c => extension.toList.isSuffixOf c.path.toList)

end MemoryRepository

end IssueTrace
