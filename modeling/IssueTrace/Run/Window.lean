import IssueTrace.Change.Resolve
import IssueTrace.Config.Basic
import IssueTrace.History.Revision
import IssueTrace.Issue.MapFile
import IssueTrace.Run.Report
import IssueTrace.Storage.GoldsetStore
import IssueTrace.Storage.Queries

/-!
# Windows of a run

The work on one window of history: the issues that its commits refer to, the descriptions of these
issues, and the classes and methods that were changed for them. The first thing that cannot be done
ends the run; what has been written by then stays.
-/

namespace IssueTrace

/-- Why a run ended: what was tried, the outermost attempt first, and what went wrong. -/
structure Trouble where
  context : List String
  cause : Failure
  deriving DecidableEq, Repr, Inhabited

/-- What a run leaves behind. -/
structure Output where
  files : FileSystem
  log : List LogLine := []
  deriving Inhabited

/-- A part of a run. -/
abbrev Run (α : Type) := ExceptT Trouble (StateM Output) α

namespace Run

variable {α : Type}

/-- Takes a result. A failure ends the run. -/
def take (context : List String) : Except Failure α → Run α
  | .ok a => pure a
  | .error cause => throw ⟨context, cause⟩

/-- Works on the files. What has been done there stays also when it fails. -/
def onFiles (context : List String) (work : FileSystem → Except IoFault α × FileSystem) : Run α := do
  let output ← get
  let (result, files) := work output.files
  set { output with files }
  take context (result.mapError .io)

/-- Writes to the files, all or nothing. -/
def writing (context : List String) (work : FileSystem → Except IoFault FileSystem) : Run Unit :=
  onFiles context fun fs =>
    match work fs with
    | .ok fs => (.ok (), fs)
    | .error fault => (.error fault, fs)

/-- Writes to the log. -/
def warn (texts : List String) : Run Unit :=
  modify fun output => { output with log := output.log ++ texts.map fun text => ⟨.warning, text⟩ }

/-- Works with a journal that goes on with the log of the run. -/
def withJournal (counts : Diagnostics) (work : Journal → α × Journal) : Run (α × Diagnostics) := do
  let output ← get
  let (a, journal) := work ⟨counts, output.log⟩
  set { output with log := journal.log }
  return (a, journal.counts)

end Run

/-- A run that is about to begin: the history to be read, and what to do with it. -/
structure Job where
  history : History
  config : Config
  pattern : IssuePattern
  parser : Source.Parser := Source.parse

namespace Job

/-- Links the commits of a window to issues by way of a file, so that what is used is what was
written. -/
def linkIssues (path : String) (map : IssueMap) : Run IssueMap := do
  Run.writing ["Failed to write issue map"] fun fs => map.save fs path
  let (map, warnings) ← Run.onFiles ["Failed to read issue map"] fun fs =>
    match IssueMap.load fs path with
    | .ok loaded => (.ok loaded, fs)
    | .error fault => (.error fault, fs)
  Run.warn warnings
  return map

/-- Writes the descriptions of the issues, and counts them. -/
def writeQueries (j : Job) (dir : String) (map : IssueMap) : Run (Nat × Diagnostics) := do
  let output ← get
  let (result, journal, files) :=
    Queries.write j.history.toRepository map dir ⟨{}, output.log⟩ output.files
  set { output with files, log := journal.log }
  let written ← Run.take ["Failed to write queries"] (result.mapError .io)
  return (written, journal.counts)

/-- Writes what was changed for an issue, and tells whether there was anything. -/
def writeGoldset (j : Job) (store : GoldsetStore) (issue : String) (commits : List CommitId)
    (counts : Diagnostics) : Run (Bool × Diagnostics) := do
  let (entities, counts) ← Run.withJournal counts fun journal =>
    aggregateBy j.parser j.history.toRepository j.config.resolver commits journal
  if entities.isEmpty then return (false, counts)
  let _ ← Run.onFiles ["Failed to write goldset for issue " ++ issue] fun fs =>
    store.persist fs issue entities
  return (true, counts)

/-- Writes what was changed for each of some issues, and counts those with changes. -/
def writeGoldsets (j : Job) (store : GoldsetStore) :
    List (String × List CommitId) → Nat → Diagnostics → Run (Nat × Diagnostics)
  | [], written, counts => return (written, counts)
  | (issue, commits) :: rest, written, counts => do
      let (found, counts) ← j.writeGoldset store issue commits counts
      j.writeGoldsets store rest (if found then written + 1 else written) counts

/-- Goes through a window of history. -/
def runWindow (j : Job) (range : VersionRange) : Run WindowReport := do
  let label := range.label
  let layout := VersionLayout.below j.config.outputDir range
  Run.onFiles ["Failed to create " ++ layout.root] layout.create
  let commits ← Run.take ["Failed to walk " ++ range.start ++ "..." ++ range.stop]
    (History.window j.history range.start range.stop)
  let map ← linkIssues layout.issueMapPath (IssueMap.ofCommits commits j.pattern)
  if map.isEmpty then
    Run.warn ["[" ++ label ++ "] No commit references an issue"]
  let (queriesWritten, counts) ← j.writeQueries layout.queryDir map
  let store ← Run.onFiles [] fun fs => GoldsetStore.openAt fs layout.goldsetDir
  let (goldsetsWritten, counts) ← j.writeGoldsets store map.entries 0 counts
  return {
    label, start := range.start, stop := range.stop, commits := commits.length, issues := map.size
    queriesWritten, goldsetsWritten, diagnostics := counts }

/-- Prepares a run. The configuration is checked before the repository is opened. -/
def prepare (openHistory : String → Except GitFault History) (config : Config) :
    Except Trouble Job := do
  if let some fault := config.fault? then throw ⟨["Invalid configuration"], fault⟩
  let history ← (openHistory config.repoPath).mapError fun fault =>
    ⟨["Failed to open git repository at " ++ config.repoPath], .git fault⟩
  let pattern ← (IssuePattern.ofKeywords config.issueKeywords).mapError fun cause => ⟨[], cause⟩
  return { history, config, pattern }

/-- Goes through all windows in order. -/
def run (j : Job) : Run (List WindowReport) := j.config.versions.mapM j.runWindow

end Job

end IssueTrace
