import IssueTrace.Text.Quoted

/-!
# Windows of history

A window of history lies between two revisions. It is written with two or three dots between them,
and its output goes into a directory that is named for it.
-/

namespace IssueTrace

/-- A window of history. -/
structure VersionRange where
  start : String
  stop : String
  /-- The name of the output directory, when it is not made from the revisions. -/
  name : Option String := none
  deriving DecidableEq, Repr, Inhabited

namespace VersionRange

/-- The parts of a text before and after the first occurrence of a separator. -/
def splitAtFirst (separator : List Char) : List Char → Option (List Char × List Char)
  | [] => if separator.isEmpty then some ([], []) else none
  | c :: rest =>
      if separator.isPrefixOf (c :: rest) then some ([], (c :: rest).drop separator.length)
      else (splitAtFirst separator rest).map fun (before, after) => (c :: before, after)

/-- Splits a text at the first three dots, or at the first two if there are no three. -/
def splitDots (text : List Char) : Option (List Char × List Char) :=
  (splitAtFirst ['.', '.', '.'] text).orElse fun _ => splitAtFirst ['.', '.'] text

/-- Reads a window. Both revisions must be given. -/
def ofText (text : String) : Except String VersionRange :=
  match splitDots text.toList with
  | some (a :: start, b :: stop) =>
      .ok ⟨String.ofList (a :: start), String.ofList (b :: stop), none⟩
  | _ => .error ("expected FROM..TO, got " ++ Text.quoted text)

/-- A character that may not stand in the name of a directory made from revisions. -/
def isSeparator (c : Char) : Bool := c == '/' || c == '\\' || c == ':'

/-- The name of the output directory: the revisions joined by a low line, without separators. -/
def label (r : VersionRange) : String :=
  match r.name with
  | some name => name
  | none =>
      let joined := r.start.toList ++ '_' :: r.stop.toList
      String.ofList (joined.map fun c => if isSeparator c then '-' else c)

end VersionRange

end IssueTrace
