import IssueTrace.Diff.Change
import IssueTrace.Text.Blank
import IssueTrace.Text.Utf8

/-!
# Hunks of a unified diff

Changes that lie close together make one hunk, which shows some unchanged lines around them. The
header of a hunk gives the lines it shows of either file, and as a heading the last line of the old
file before them that begins with a letter, a low line or a dollar sign.
-/

namespace IssueTrace.Diff

/-- Appends a change to the groups: to the first one if few enough lines lie between. -/
def joinChange (reach : Nat) (c : Change) : List (Change × Change) → List (Change × Change)
  | [] => [(c, c)]
  | (first, last) :: groups =>
      if first.oldStart - c.oldStop ≤ reach then (c, last) :: groups
      else (c, c) :: (first, last) :: groups

/-- The first and the last change of each group. Two changes are in one group when at most twice the
context lies between them. -/
def groups (context : Nat) (changes : List Change) : List (Change × Change) :=
  changes.foldr (joinChange (2 * context)) []

/-- The lines that a hunk shows of both files, counted from zero. -/
structure Extent where
  oldStart : Nat
  oldCount : Nat
  newStart : Nat
  newCount : Nat
  deriving DecidableEq, Repr, Inhabited

/-- The lines that the hunk of a group shows. -/
def extent (context oldSize newSize : Nat) (group : Change × Change) : Extent :=
  let (first, last) := group
  let after := min context (min (oldSize - last.oldStop) (newSize - last.newStop))
  let oldStart := first.oldStart - context
  let newStart := first.newStart - context
  ⟨oldStart, last.oldStop + after - oldStart, newStart, last.newStop + after - newStart⟩

/-- A range of lines as a header gives it. A count of one is left out, and a range without lines is
placed at the line before it. -/
def rangeText (start count : Nat) : String :=
  let first := if count = 0 then start else start + 1
  if count = 1 then toString first else toString first ++ "," ++ toString count

def Extent.text (e : Extent) : String :=
  "@@ -" ++ rangeText e.oldStart e.oldCount ++ " +" ++ rangeText e.newStart e.newCount ++ " @@"

def isAsciiBlank (b : UInt8) : Bool := b = 32 || (9 ≤ b && b ≤ 13)

/-- Whether a line that begins with this byte makes a heading. -/
def startsHeading (b : UInt8) : Bool :=
  (65 ≤ b && b ≤ 90) || (97 ≤ b && b ≤ 122) || b = 95 || b = 36

/-- How many bytes a heading has at most. -/
def maxHeading : Nat := 80

/-- The heading that a line makes: without the blanks at its end, cut to the greatest length, and then
to complete characters. -/
def heading? (line : Line) : Option (List UInt8) :=
  match (line.reverse.dropWhile isAsciiBlank).reverse with
  | [] => none
  | b :: rest => if startsHeading b then some (Text.completeStart ((b :: rest).take maxHeading)) else none

def headerText (old : List Line) (e : Extent) : String :=
  match (old.take e.oldStart).reverse.findSome? heading? with
  | none => e.text
  | some heading =>
      let text := e.text ++ " " ++ Text.decodeLossy heading
      String.ofList (Text.trimEnd text.toList)

/-- The headers of the hunks of a unified diff between two files. -/
def headers (context : Nat) (old new : List UInt8) : List String :=
  let olds := lines old
  let news := lines new
  let sides := Sides.ofLines olds news
  (groups context (changes sides)).map fun group =>
    headerText olds (extent context olds.length news.length group)

end IssueTrace.Diff
