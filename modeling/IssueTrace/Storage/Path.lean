/-!
# Paths

Paths as text. Joining keeps both parts as they are written, and nothing is normalised. For looking
a path up it is split into the names between its slashes.
-/

namespace IssueTrace.Path

def isAbsolute (path : String) : Bool := path.toList.head? == some '/'

/-- A path below another. An absolute path stands for itself, and a slash is put between the two
where there is none. -/
def join (base path : String) : String :=
  if isAbsolute path || base.isEmpty then path
  else if base.toList.getLast? == some '/' then base ++ path
  else base ++ "/" ++ path

/-- The pieces of a text between slashes, given the letters of the piece begun, the last one
first. -/
def piecesFrom : List Char → List Char → List (List Char)
  | piece, [] => [piece.reverse]
  | piece, c :: rest =>
      if c = '/' then piece.reverse :: piecesFrom [] rest else piecesFrom (c :: piece) rest

/-- The names between the slashes of a path. Empty names do not count. -/
def names (path : String) : List String :=
  ((piecesFrom [] path.toList).filter (!·.isEmpty)).map String.ofList

/-- Whether a path ends in a slash, and so can only mean a directory. -/
def endsInSlash (path : String) : Bool := path.toList.getLast? == some '/'

/-- The names of a path that lead somewhere. A dot counts only at the beginning of a relative
path. -/
def steps (path : String) : List String :=
  match names path with
  | "." :: rest =>
      if isAbsolute path then rest.filter (· != ".") else "." :: rest.filter (· != ".")
  | all => all.filter (· != ".")

/-- The path without its last step. The root and the empty path have none. -/
def parent? (path : String) : Option String :=
  match steps path with
  | [] => none
  | all => some ((if isAbsolute path then "/" else "") ++ "/".intercalate all.dropLast)

end IssueTrace.Path
