import IssueTrace.Failure
import IssueTrace.Text.DecimalDigit
import IssueTrace.Text.LowerCase

/-!
# References to issues

A commit message refers to an issue by a keyword, a space, a number sign and the number of the issue,
as in `fixes #12`. Case does not matter, and the number may be written in the decimal digits of any
script. The first reference of a message counts.
-/

namespace IssueTrace

/-- The keywords that announce a reference, in lower case and in the order in which they are tried. -/
structure IssuePattern where
  keywords : List (List Char)
  deriving DecidableEq, Repr, Inhabited

namespace IssuePattern

/-- The pattern of the given keywords. At least one is needed. -/
def ofKeywords (keywords : List String) : Except Failure IssuePattern :=
  if keywords.isEmpty then .error (.invalidConfig "issue_keywords must not be empty")
  else .ok ⟨keywords.map fun k => (Text.lowerCase k).toList⟩

/-- The number that follows a keyword at the head of a text. -/
def numberAfter? (keyword text : List Char) : Option (List Char) :=
  let announced := keyword ++ [' ', '#']
  if announced.isPrefixOf text then
    match (text.drop announced.length).takeWhile Text.isDecimalDigit with
    | [] => none
    | digits => some digits
  else none

/-- The number of the reference at the head of a text, by the first keyword that fits. -/
def referenceAt? (p : IssuePattern) (text : List Char) : Option (List Char) :=
  p.keywords.findSome? (numberAfter? · text)

/-- The number of the first reference in a text. -/
def firstReference? (p : IssuePattern) : List Char → Option (List Char)
  | [] => p.referenceAt? []
  | c :: rest =>
      match p.referenceAt? (c :: rest) with
      | some digits => some digits
      | none => p.firstReference? rest

def issueId? (p : IssuePattern) (message : String) : Option String :=
  (p.firstReference? (Text.lowerCase message).toList).map String.ofList

end IssuePattern

end IssueTrace
