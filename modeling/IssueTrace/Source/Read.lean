import IssueTrace.Failure
import IssueTrace.Source.Outline
import IssueTrace.Source.Repair

/-!
# Reading an outline

From a source text to its outline. Where no dialect takes the text, the failure lists what each of
them has against it, in the order in which they were tried.
-/

namespace IssueTrace.Source

/-- What gives every source text its concrete syntax tree. -/
abbrev Parser := String → Tree

/-- The outline of a text by a parser. The origin names the text in a failure. -/
def readOutlineBy (parser : Parser) (text origin : String) : Except Failure Outline :=
  (Outline.ofTree text (parser text)).mapError fun refusals =>
    .parseFailure origin (refusals.map fun (d, r) => d.refusalMessage r)

/-- The outline of a text by the rules of the language. -/
def readOutline (text origin : String) : Except Failure Outline := readOutlineBy parse text origin

end IssueTrace.Source
