import IssueTrace.Change.Attribution
import IssueTrace.Diagnostics
import IssueTrace.Package
import IssueTrace.Source.Read

/-!
# Changed entities

From a change to the classes and methods it touches. `resolve` looks at the hunks of one file,
`aggregate` at all commits of an issue. Neither fails: what cannot be looked up is noted in the
journal, and the rest goes on. Both work with any parser of source texts, and are then given the one
of the language.
-/

namespace IssueTrace

/-- The package and the dotted name of a file at a commit. -/
def qualify (repo : Repository) (options : ResolverOptions) (commit : CommitId) (path : String) :
    Except Failure String :=
  let name? := do
    let root ← Package.find? repo commit path options.packageMarker options.packageSearch
    Package.moduleName? path root.directory options.sourceExtension
  match name? with
  | some name => .ok name
  | none => .error (.noPackageResolved commit path)

/-- How a failure names the text of a file at a commit. -/
def originOf (commit : CommitId) (path : String) : String := toString commit ++ ":" ++ path

/-- The dotted name and the outline of a file at a commit. -/
def readFile (parser : Source.Parser) (repo : Repository) (options : ResolverOptions)
    (commit : CommitId) (path : String) : Except Failure (String × Source.Outline) := do
  let name ← qualify repo options commit path
  let text ← repo.content commit path
  let outline ← Source.readOutlineBy parser text (originOf commit path)
  return (name, outline)

/-- Adds what a hunk touches. A header that gives no range is noted and passed over. -/
def addHunk (options : ResolverOptions) (commit : CommitId) (path : String)
    (outline : Source.Outline) (state : Entities × Journal) (header : String) :
    Entities × Journal :=
  match Hunk.parse? header with
  | some hunk =>
      let span := LineSpan.trimmed hunk outline.lineCount options.contextLines
      (state.1.addSpan outline.declarations span, state.2)
  | none => (state.1, state.2.note (.malformedHunk commit path header))

/-- The classes and methods of a file that hunks of a commit touch, by a parser. -/
def resolveBy (parser : Source.Parser) (repo : Repository) (options : ResolverOptions)
    (commit : CommitId) (path : String) (headers : List String) (journal : Journal) :
    Entities × Journal :=
  match readFile parser repo options commit path with
  | .error failure => ({}, journal.note failure)
  | .ok (name, outline) =>
      let counts := journal.counts
      let fallbacks := counts.dialectFallbacks + if outline.dialect = .legacy then 0 else 1
      let journal := { journal with counts := { counts with dialectFallbacks := fallbacks } }
      let (touched, journal) := headers.foldl (addHunk options commit path outline) ({}, journal)
      let counts := journal.counts
      (touched.inModule name,
        { journal with counts := { counts with filesResolved := counts.filesResolved + 1 } })

/-- The classes and methods of a file that hunks of a commit touch. -/
def resolve (repo : Repository) (options : ResolverOptions) (commit : CommitId) (path : String)
    (headers : List String) (journal : Journal) : Entities × Journal :=
  resolveBy Source.parse repo options commit path headers journal

/-- The files that a commit changes, compared with its last parent. -/
def changesOf (repo : Repository) (options : ResolverOptions) (id : CommitId) :
    Except Failure (List FileChange) := do
  let commit ← repo.commit id
  match commit.diffParent? with
  | none => throw (.rootlessCommit id)
  | some parent => repo.changes parent id options.sourceExtension options.contextLines

/-- Adds the classes and methods that a changed file of a commit touches. -/
def addFile (parser : Source.Parser) (repo : Repository) (options : ResolverOptions)
    (id : CommitId) (state : Entities × Journal) (file : FileChange) : Entities × Journal :=
  let (touched, journal) := resolveBy parser repo options id file.path file.hunks state.2
  (state.1.union touched, journal)

/-- Adds the classes and methods that a commit touches. -/
def addCommit (parser : Source.Parser) (repo : Repository) (options : ResolverOptions)
    (state : Entities × Journal) (id : CommitId) : Entities × Journal :=
  match changesOf repo options id with
  | .error failure => (state.1, state.2.note failure)
  | .ok files => files.foldl (addFile parser repo options id) state

/-- The classes and methods that the commits of an issue touch, by a parser. -/
def aggregateBy (parser : Source.Parser) (repo : Repository) (options : ResolverOptions)
    (commits : List CommitId) (journal : Journal) : Entities × Journal :=
  commits.foldl (addCommit parser repo options) ({}, journal)

/-- The classes and methods that the commits of an issue touch. -/
def aggregate (repo : Repository) (options : ResolverOptions) (commits : List CommitId)
    (journal : Journal) : Entities × Journal :=
  aggregateBy Source.parse repo options commits journal

end IssueTrace
