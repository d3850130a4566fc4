import IssueTrace.Failure

/-!
# Names of references

A reference has a name of several parts between slashes, and may be given by the last of them. Each
part keeps to some rules, and a name of a single part is written in capitals.
-/

namespace IssueTrace.History

/-- Characters that no name may hold. -/
def isForbidden (c : Char) : Bool :=
  c.toNat ≤ 32 || c == '~' || c == '^' || c == ':' || c == '\\' || c == '?' || c == '[' || c == '*'

/-- Whether two characters stand side by side in a text. -/
def hasPair (a b : Char) : List Char → Bool
  | x :: y :: rest => (x == a && y == b) || hasPair a b (y :: rest)
  | _ => false

def isPart (part : List Char) : Bool :=
  !part.isEmpty && part.head? != some '.' && !part.any isForbidden
    && !hasPair '.' '.' part && !hasPair '@' '\x7b' part
    && !".lock".toList.isSuffixOf part

/-- Whether a text is written in capitals and low lines, with capitals at both ends. -/
def isCapitals (text : List Char) : Bool :=
  text.all (fun c => ('A' ≤ c && c ≤ 'Z') || c == '_')
    && text.head? != some '_' && text.getLast? != some '_'

/-- Cuts a text at its slashes, given the letters of the part begun, the last one first. -/
def partsFrom : List Char → List Char → List (List Char)
  | part, [] => [part.reverse]
  | part, c :: rest =>
      if c = '/' then part.reverse :: partsFrom [] rest else partsFrom (c :: part) rest

/-- Whether a text may be the name of a reference. -/
def isName (name : String) : Bool :=
  let parts := partsFrom [] name.toList
  parts.all isPart && name.toList.getLast? != some '.'
    && match parts with
      | [only] => isCapitals only
      | first :: _ => !isCapitals first
      | [] => false

/-- The full names that a short one can stand for, in the order in which they are tried. -/
def candidateNames (name : String) : List String :=
  [name, "refs/" ++ name, "refs/tags/" ++ name, "refs/heads/" ++ name, "refs/remotes/" ++ name,
    "refs/remotes/" ++ name ++ "/HEAD"]

end IssueTrace.History
