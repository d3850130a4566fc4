import IssueTrace.Config.VersionRange
import IssueTrace.Options
import IssueTrace.Storage.FileSystem
import IssueTrace.Toml.Document

/-!
# Configuration

What a run is to do: which repository to read, where to write, which words link a commit to an issue,
and which windows of history to go through. It is read from a TOML document; a missing key takes its
default, and an unknown key does not count. Where a table is expected, an array of the values in
the order of the fields will do.
-/

namespace IssueTrace

structure Config where
  repoPath : String := "."
  outputDir : String := "goldsets"
  /-- The file to which the log is added, instead of the error output. -/
  logFile : Option String := none
  issueKeywords : List String :=
    ["fix", "fixes", "fixed", "close", "closes", "closed", "resolve", "resolves", "resolved"]
  versions : List VersionRange := []
  resolver : ResolverOptions := {}
  deriving DecidableEq, Repr, Inhabited

namespace Config

open Toml (Value)

/-- The fields of a structure as a document gives them. -/
def fields? (names : List String) : Value → Option (List (String × Value))
  | .table entries => some entries
  | .array items => some (names.zip items)
  | .date => some []
  | _ => none

/-- The value of a field, or its default if it is missing. -/
def field {α : Type} (entries : List (String × Value)) (name : String) (default : α)
    (read : Value → Option α) : Option α :=
  match entries.lookup name with
  | some v => read v
  | none => some default

def readString : Value → Option String
  | .string s => some s
  | _ => none

def readStrings : Value → Option (List String)
  | .array items => items.mapM readString
  | _ => none

def readCount : Value → Option Nat
  | .integer n => if n < 0 then none else some n.toNat
  | _ => none

/-- Reads the name of a choice; it may be the key of a table that holds nothing else. -/
def readChoice : Value → Option String
  | .string s => some s
  | .table [(name, .table [])] => some name
  | .table [(name, .array [])] => some name
  | _ => none

def readSearch (v : Value) : Option PackageSearch :=
  match readChoice v with
  | some "innermost" => some .innermost
  | some "outermost" => some .outermost
  | _ => none

def readRange (v : Value) : Option VersionRange := do
  let entries ← fields? ["from", "to", "name"] v
  return {
    start := ← readString (← entries.lookup "from")
    stop := ← readString (← entries.lookup "to")
    name := ← field entries "name" none fun v => (readString v).map some }

def readRanges : Value → Option (List VersionRange)
  | .array items => items.mapM readRange
  | _ => none

def readOptions (v : Value) : Option ResolverOptions := do
  let defaults : ResolverOptions := {}
  let entries ← fields?
    ["context_lines", "package_marker", "source_extension", "package_search"] v
  return {
    contextLines := ← field entries "context_lines" defaults.contextLines readCount
    packageMarker := ← field entries "package_marker" defaults.packageMarker readString
    sourceExtension := ← field entries "source_extension" defaults.sourceExtension readString
    packageSearch := ← field entries "package_search" defaults.packageSearch readSearch }

def ofEntries (entries : List (String × Value)) : Option Config := do
  let defaults : Config := {}
  return {
    repoPath := ← field entries "repo_path" defaults.repoPath readString
    outputDir := ← field entries "output_dir" defaults.outputDir readString
    logFile := ← field entries "log_file" none fun v => (readString v).map some
    issueKeywords := ← field entries "issue_keywords" defaults.issueKeywords readStrings
    versions := ← field entries "versions" defaults.versions readRanges
    resolver := ← field entries "resolver" defaults.resolver readOptions }

/-- The configuration that a document gives. -/
def ofToml (text : String) : Except Failure Config :=
  match (Toml.read? text).bind ofEntries with
  | some c => .ok c
  | none => .error (.invalidConfig "the document does not give a configuration")

def load (fs : FileSystem) (path : String) : Except Failure Config := do
  let text ← (fs.readText path).mapError .io
  ofToml text

/-- What is wrong with a configuration, if anything. -/
def fault? (c : Config) : Option Failure :=
  if c.versions.isEmpty then some (.invalidConfig "no version ranges configured")
  else if c.issueKeywords.isEmpty then
    some (.invalidConfig "issue_keywords must not be empty")
  else c.resolver.fault?

end Config

/-- The directories into which the output of one window goes. -/
structure VersionLayout where
  root : String
  dataDir : String
  queryDir : String
  goldsetDir : String
  deriving DecidableEq, Repr, Inhabited

namespace VersionLayout

/-- The directories of a window below an output directory. -/
def below (outputDir : String) (range : VersionRange) : VersionLayout :=
  let root := Path.join outputDir range.label
  { root
    dataDir := Path.join root "data"
    queryDir := Path.join root "queries"
    goldsetDir := Path.join root "goldsets" }

/-- The file in which the links between issues and commits are kept. -/
def issueMapPath (l : VersionLayout) : String := Path.join l.dataDir "Issue_Commit_Map.txt"

/-- Makes the directories. -/
def create (l : VersionLayout) (fs : FileSystem) : Except IoFault Unit × FileSystem :=
  [l.dataDir, l.queryDir, l.goldsetDir].foldl
    (fun (result, fs) dir =>
      match result with
      | .ok () => fs.makeDirectories dir
      | .error fault => (.error fault, fs))
    (.ok (), fs)

end VersionLayout

end IssueTrace
