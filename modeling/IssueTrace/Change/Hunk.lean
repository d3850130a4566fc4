import IssueTrace.Text.Blank

/-!
# Hunks

The header of a hunk of a unified diff, such as `@@ -10,3 +10,4 @@ def foo():`, tells which lines of
the new file the hunk shows. Line numbers are 64-bit words: a header whose range does not fit is
refused, and arithmetic on lines stops at the largest word and at zero.
-/

namespace IssueTrace

/-- The largest line number. -/
def maxLine : Nat := 0xFFFFFFFFFFFFFFFF

/-- Sum of line numbers, stopping at the largest. -/
def addLines (a b : Nat) : Nat := min (a + b) maxLine

/-- The lines of the new file that a hunk shows. -/
structure Hunk where
  start : Nat
  count : Nat
  deriving DecidableEq, Repr, Inhabited

namespace Hunk

/-- Reads a line number: decimal digits, possibly after a plus sign. -/
def number? (digits : List Char) : Option Nat :=
  let digits := match digits with
    | '+' :: rest => rest
    | _ => digits
  if digits.isEmpty || !digits.all Char.isDigit then none
  else
    let n := digits.foldl (fun n c => 10 * n + (c.toNat - '0'.toNat)) 0
    if n ≤ maxLine then some n else none

/-- Reads a range: a start and a count, or a start alone for a single line. -/
def range? (text : List Char) : Option Hunk :=
  let (start, rest) := text.span (· != ',')
  let hunk? : Option Hunk := do
    let start ← number? start
    let count ← if rest.isEmpty then some 1 else number? rest.tail
    return ⟨start, count⟩
  hunk?.filter fun h => h.start + h.count ≤ maxLine

/-- Whether a word marks the ends of a header's ranges. -/
def isMark (word : List Char) : Bool := word == ['@', '@']

/-- The text after the plus sign of a range of the new file. -/
def newRange? : List Char → Option (List Char)
  | '+' :: rest => some rest
  | _ => none

/-- Reads the range of the new file from a header. -/
def parse? (header : String) : Option Hunk :=
  match Text.words header.toList with
  | [] => none
  | first :: rest =>
      if isMark first then ((rest.takeWhile (!isMark ·)).findSome? newRange?).bind range? else none

/-- The last line of the new file that a hunk shows. -/
def last (h : Hunk) : Nat := addLines h.start h.count - 1

end Hunk

/-- The lines believed to be changed, both ends included. -/
structure LineSpan where
  start : Nat
  stop : Nat
  deriving DecidableEq, Repr, Inhabited

namespace LineSpan

/-- The span with its ends in order. -/
def ordered (a b : Nat) : LineSpan := if a ≤ b then ⟨a, b⟩ else ⟨b, a⟩

/-- A hunk without the context around its change. A hunk that begins with the first line has no
context before the change, and one that ends with the last line has none after it. -/
def trimmed (h : Hunk) (lineCount context : Nat) : LineSpan :=
  let start := if 1 < h.start then addLines h.start context else h.start
  let stop := if lineCount = h.last then h.last else h.last - context
  ordered start stop

end LineSpan

end IssueTrace
