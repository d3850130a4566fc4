import IssueTrace.Options
import IssueTrace.Repository

/-!
# Packages

A directory is a package when it holds the marker file. A source file gets its dotted name from the
package directory above it, whose own name comes first.
-/

namespace IssueTrace

namespace Package

/-- The parts of a path before each slash, the shortest first, given the characters already passed,
the last one first. -/
def prefixesFrom : List Char → List Char → List (List Char)
  | _, [] => []
  | passed, c :: rest =>
      if c = '/' then passed.reverse :: prefixesFrom (c :: passed) rest
      else prefixesFrom (c :: passed) rest

/-- The directories above a file, the outermost first. -/
def ancestors (path : String) : List String := (prefixesFrom [] path.toList).map String.ofList

/-- What follows the last slash. -/
def lastSegment (path : List Char) : List Char := (path.reverse.takeWhile (· != '/')).reverse

/-- The text without an ending, if it has that ending. -/
def dropEnding (ending text : List Char) : List Char :=
  if ending.isSuffixOf text then text.take (text.length - ending.length) else text

/-- The dotted name of a file below a package directory, without the ending of source files. -/
def moduleName? (path directory extension : String) : Option String :=
  let file := path.toList
  let dir := directory.toList
  if dir.isPrefixOf file && (file.drop dir.length).head? == some '/' then
    let relative := file.drop (dir.length - (lastSegment dir).length)
    let name := dropEnding extension.toList relative
    some (String.ofList (name.map fun c => if c = '/' then '.' else c))
  else none

end Package

structure PackageRoot where
  /-- The last segment of the directory. -/
  name : String
  directory : String
  deriving DecidableEq, Repr, Inhabited

namespace Package

/-- The package directory of a file at a commit. -/
def find? (repo : Repository) (commit : CommitId) (path marker : String) (search : PackageSearch) :
    Option PackageRoot :=
  let marked := (ancestors path).filter fun dir => repo.pathExists commit (dir ++ "/" ++ marker)
  let chosen :=
    match search with
    | .innermost => marked.getLast?
    | .outermost => marked.head?
  chosen.map fun dir => ⟨String.ofList (lastSegment dir.toList), dir⟩

end Package

end IssueTrace
