import IssueTrace.Run.Arguments
import IssueTrace.Run.Window

/-!
# The command

From the arguments of the command line to what the command prints, the files it writes and the code
it ends with.
-/

namespace IssueTrace

/-- Which lines of the log are kept. -/
inductive LogLevel where
  | nothing
  | errors
  | all
  deriving DecidableEq, Repr, Inhabited

namespace LogLevel

/-- Reads a level. Without one the errors are kept, and an unknown word keeps nothing. -/
def ofText (s : String) : LogLevel :=
  let word := s.map Char.toLower
  if word = "error" || word = "" then .errors
  else if ["warn", "info", "debug", "trace"].contains word then .all
  else .nothing

def keeps : LogLevel → LogLine → Bool
  | .nothing, _ => false
  | .errors, line => line.severity = .error
  | .all, _ => true

end LogLevel

def LogLine.render (l : LogLine) : String :=
  (match l.severity with
    | .warning => "WARN: "
    | .error => "ERROR: ") ++ l.text ++ "\n"

namespace Command

/-- How a run of the command ends. -/
structure Outcome where
  code : Nat
  /-- What is printed. -/
  printed : String := ""
  /-- What is printed to the error output. -/
  complaint : String := ""
  files : FileSystem

def name : String := "issue-goldset"

def versionText : String := name ++ " 0.1.0\n"

def usageLines : List String :=
  ["Build issue → changed class/method goldsets from git history",
    "",
    "Usage: " ++ name ++ " [OPTIONS]",
    "",
    "Options:",
    "  -c, --config <CONFIG>                TOML configuration file",
    "  -r, --repo <REPO>                    Path to the git repository (overrides the config file)",
    "  -o, --output <OUTPUT>                Output directory (overrides the config file)",
    "      --range <FROM..TO>               "
      ++ "Version window as FROM..TO; repeatable, replaces configured versions",
    "      --context-lines <CONTEXT_LINES>  Diff context width trimmed from each hunk edge",
    "      --json                           Print run reports as JSON",
    "  -q, --quiet                          Hide progress bars",
    "  -h, --help                           Print help",
    "  -V, --version                        Print version"]

def usageText : String := String.join (usageLines.map (· ++ "\n"))

/-- The configuration with what the command line says instead. -/
def override (a : Arguments) (c : Config) : Config :=
  { c with
    repoPath := a.repo.getD c.repoPath
    outputDir := a.output.getD c.outputDir
    versions := if a.ranges.isEmpty then c.versions else a.ranges
    resolver := { c.resolver with contextLines := a.contextLines.getD c.resolver.contextLines } }

/-- The configuration that the command line asks for. -/
def configuration (a : Arguments) (fs : FileSystem) : Except Trouble Config :=
  match a.config with
  | none => .ok (override a {})
  | some path =>
      ((Config.load fs path).map (override a)).mapError fun cause =>
        ⟨["Could not load config " ++ path], cause⟩

def openLog (c : Config) (fs : FileSystem) : Except Trouble FileSystem :=
  match c.logFile with
  | none => .ok fs
  | some path =>
      (fs.append path "").mapError fun fault => ⟨["Could not open log file " ++ path], .io fault⟩

/-- Writes lines of the log to its file. They are given back if there is none. -/
def writeLog (c : Config) (level : LogLevel) (log : List LogLine) (fs : FileSystem) :
    FileSystem × String :=
  let text := String.join ((log.filter level.keeps).map LogLine.render)
  match c.logFile with
  | none => (fs, text)
  | some path =>
      match fs.append path text with
      | .ok fs => (fs, "")
      | .error _ => (fs, "")

/-- The first line about a trouble: the outermost attempt, or the cause itself. -/
def headline (t : Trouble) : String := t.context.head?.getD t.cause.message

def complaint (t : Trouble) : String :=
  let causes := (t.context ++ [t.cause.message]).tail
  "Error: " ++ headline t ++ "\n"
    ++ (if causes.isEmpty then ""
        else "\nCaused by:\n" ++ String.join (causes.map fun c => "    " ++ c ++ "\n"))

/-- What is printed at the end of a run. -/
def printReports (a : Arguments) (reports : List WindowReport) : String :=
  if a.json then WindowReport.jsonAll reports ++ "\n"
  else String.join (reports.map fun r => r.line ++ "\n")

/-- Runs with given arguments. -/
def runWith (openHistory : FileSystem → String → Except GitFault History) (level : LogLevel)
    (a : Arguments) (fs : FileSystem) : Outcome :=
  let fail := fun (t : Trouble) (fs : FileSystem) (before : String) =>
    { code := 1, complaint := before ++ complaint t, files := fs : Outcome }
  match configuration a fs with
  | .error t => fail t fs ""
  | .ok config =>
      match openLog config fs with
      | .error t => fail t fs ""
      | .ok fs =>
          match Job.prepare (openHistory fs) config with
          | .error t => fail t fs ""
          | .ok job =>
              let (result, output) := job.run.run ⟨fs, []⟩
              let (fs, logged) := writeLog config level output.log output.files
              match result with
              | .error t => fail t fs logged
              | .ok reports =>
                  { code := 0, printed := printReports a reports, complaint := logged, files := fs }

def run (openHistory : FileSystem → String → Except GitFault History) (level : LogLevel)
    (arguments : List String) (fs : FileSystem) : Outcome :=
  match Request.ofArguments arguments with
  | .run a => runWith openHistory level a fs
  | .help => { code := 0, printed := usageText, files := fs }
  | .version => { code := 0, printed := versionText, files := fs }
  | .misuse =>
      { code := 2, complaint := "error: invalid arguments\n\nFor more information, try '--help'.\n"
        files := fs }

end Command

end IssueTrace
