import IssueTrace.History.Objects.Load
import IssueTrace.History.Site
import IssueTrace.Run.Command

/-!
# The program

The outer layer: it reads the files that a run needs, those of earlier runs among them, lets the
command do its work on what it has read, and then writes and prints what came out.
-/

namespace IssueTrace.Program

open History.Objects (loadHistory)

/-- The bytes of a file, if it can be read. -/
def fetch (directory name : String) : IO (Option ByteArray) := do
  try return some (← IO.FS.readBinFile (Path.join directory name)) catch _ => return none

/-- A place as a path. -/
def pathOf (place : List String) : String := "/" ++ "/".intercalate place

def isWritable (path : String) : IO Bool := do
  try
    let _ ← IO.FS.Handle.mk path .append
    return true
  catch _ => return false

/-- What stands at a place. Nothing is read from what is neither a file nor a directory. -/
def entryAt (place : List String) : IO (Option Entry) := do
  let path := pathOf place
  let .ok found ← ((← IO.currentDir) / path).metadata.toBaseIO | return none
  match found.type with
  | .dir => return some .directory
  | .file =>
      match ← fetch "" path with
      | none => return some (.sealed (.binary []))
      | some bytes =>
          let content := Content.ofBytes bytes.toList
          return some (if ← isWritable path then .file content else .readOnly content)
  | _ => return some (.file (.text ""))

/-- The names in a directory, none if it cannot be read. -/
def namesIn (place : List String) : IO (List String) := do
  let .ok found ← ((← IO.currentDir) / pathOf place).readDir.toBaseIO | return []
  return found.toList.map (·.fileName)

/-- The file system with what stands at a place. -/
def withPlace (fs : FileSystem) (place : List String) : IO FileSystem := do
  if place.isEmpty then return fs
  match ← entryAt place with
  | some entry => return fs.put place entry
  | none => return fs

/-- The place that a name leads to. -/
def follow (place : List String) (name : String) : List String :=
  if name = "." then place else if name = ".." then place.dropLast else place ++ [name]

/-- The file system with what stands on the way to a path, and the place where it leads. -/
def withWay (fs : FileSystem) (path : String) : IO (FileSystem × List String) :=
  (Path.names path).foldlM
    (fun (fs, place) name => do
      let place := follow place name
      return (← withPlace fs place, place))
    (fs, if Path.isAbsolute path then [] else fs.workDir)

/-- The file system with what stands on the way to some files, and there. -/
def withFiles (fs : FileSystem) (paths : List String) : IO FileSystem :=
  paths.foldlM (fun fs path => return (← withWay fs path).1) fs

/-- The file system with what stands below a place, down to a depth. -/
def withTree : Nat → FileSystem → List String → IO FileSystem
  | 0, fs, _ => return fs
  | depth + 1, fs, place => do
      if fs.get? place != some .directory then return fs
      (← namesIn place).foldlM
        (fun fs name => do
          let place := place ++ [name]
          withTree depth (← withPlace fs place) place)
        fs

/-- How far below the directory of a window a run reads and writes. -/
def windowDepth : Nat := 3

/-- The file system with the files that a run under a configuration comes upon: its log, and what
earlier runs have left for its windows. -/
def withOutputs (fs : FileSystem) (config : Config) : IO FileSystem := do
  let fs ← withFiles fs config.logFile.toList
  config.versions.foldlM
    (fun fs range => do
      let (fs, place) ← withWay fs (VersionLayout.below config.outputDir range).root
      withTree windowDepth fs place)
    fs

/-- The history in a directory, or in the directory that a working copy keeps for it. -/
def historyAt (path : String) (revisions : List String) : IO (Option History) := do
  match ← loadHistory (fetch (Path.join path ".git")) revisions with
  | some h => return some h
  | none => loadHistory (fetch path) revisions

/-- Writes what a run has changed. -/
def writeBack (before after : FileSystem) : IO Unit := do
  let changed := after.entries.reverse.filter fun e => before.entries.lookup e.1 != some e.2
  for (place, entry) in changed do
    let path := pathOf place
    match entry with
    | .directory => IO.FS.createDirAll path
    | .readOnly _ => pure ()
    | .sealed _ => pure ()
    | .file (.text s) => IO.FS.writeFile path s
    | .file (.binary bytes) => IO.FS.writeBinFile path ⟨bytes.toArray⟩

/-- The lines of the log that are kept. -/
def logLevel : IO LogLevel := do
  return ((← IO.getEnv "RUST_LOG").map LogLevel.ofText).getD .all

/-- The files that a run reads, and the way to the history that it asks for. -/
def prepare (arguments : List String) :
    IO (FileSystem × (FileSystem → String → Except GitFault History)) := do
  let nothing := fun (_ : FileSystem) (_ : String) => Except.error GitFault.notFound
  let workDir := toString (← IO.currentDir)
  let fs ← withFiles { workDir := Path.names workDir } [workDir]
  match Request.ofArguments arguments with
  | .run a =>
      let fs ← withFiles fs a.config.toList
      match Command.configuration a fs with
      | .ok config =>
          let fs ← withOutputs fs config
          let revisions := config.versions.flatMap fun range => [range.start, range.stop]
          match ← historyAt config.repoPath revisions with
          | some history =>
              return (fs, fun _ path =>
                if path = config.repoPath then .ok history else .error .notFound)
          | none => return (fs, nothing)
      | .error _ => return (fs, nothing)
  | _ => return (fs, nothing)

end IssueTrace.Program

open IssueTrace in
/-- Runs the command on the files around it. -/
def main (arguments : List String) : IO UInt32 := do
  let (files, openHistory) ← Program.prepare arguments
  let outcome := Command.run openHistory (← Program.logLevel) arguments files
  Program.writeBack files outcome.files
  IO.print outcome.printed
  IO.eprint outcome.complaint
  return outcome.code.toUInt32
