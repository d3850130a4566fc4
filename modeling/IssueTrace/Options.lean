import IssueTrace.Failure

/-!
# Options of the resolver

How the entities of a changed file are looked up: how much context a hunk shows, which file marks a
package directory, which files are sources, and which package wins when several lie above a file.
-/

namespace IssueTrace

/-- Which package directory wins when several lie above a file. -/
inductive PackageSearch where
  /-- The deepest one. -/
  | innermost
  /-- The one nearest to the root. -/
  | outermost
  deriving DecidableEq, Repr, Inhabited

structure ResolverOptions where
  /-- The unchanged lines around each change in a hunk. -/
  contextLines : Nat := 3
  /-- The file that marks a package directory. -/
  packageMarker : String := "__init__.py"
  /-- The end of the names of source files. -/
  sourceExtension : String := ".py"
  packageSearch : PackageSearch := .innermost
  deriving DecidableEq, Repr, Inhabited

namespace ResolverOptions

/-- What is wrong with the options, if anything. -/
def fault? (o : ResolverOptions) : Option Failure :=
  if o.packageMarker.isEmpty || o.packageMarker.toList.contains '/' then
    some (.invalidConfig "package_marker must be a plain file name")
  else if o.sourceExtension.isEmpty then
    some (.invalidConfig "source_extension must not be empty")
  else none

end ResolverOptions

end IssueTrace
