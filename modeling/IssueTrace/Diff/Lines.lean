import Std.Data.TreeMap

/-!
# Lines of a file

A file is cut after each line feed. For comparing two files their lines are numbered, equal lines
alike, so that lines are compared by their numbers.
-/

namespace IssueTrace.Diff

/-- A line with its line feed; only the last line of a file may lack it. -/
abbrev Line := List UInt8

def lineFeed : UInt8 := 10

/-- Cuts bytes after each line feed, given the bytes of the line begun, the last one first. -/
def linesFrom : List UInt8 → List UInt8 → List Line
  | [], [] => []
  | line, [] => [line.reverse]
  | line, b :: rest =>
      if b = lineFeed then (b :: line).reverse :: linesFrom [] rest
      else linesFrom (b :: line) rest

def lines (bytes : List UInt8) : List Line := linesFrom [] bytes

/-- The numbers given to lines so far. -/
abbrev Numbering := Std.TreeMap Line Nat

/-- Numbers lines one after the other; a line not seen before gets the next number. -/
def numberLines (known : Numbering) : List Line → Numbering × List Nat
  | [] => (known, [])
  | line :: rest =>
      match known[line]? with
      | some n =>
          let (known, ns) := numberLines known rest
          (known, n :: ns)
      | none =>
          let n := known.size
          let (known, ns) := numberLines (known.insert line n) rest
          (known, n :: ns)

/-- Two files by the numbers of their lines. -/
structure Sides where
  old : Array Nat
  new : Array Nat
  /-- How many numbers were given. -/
  kinds : Nat

def Sides.ofLines (old new : List Line) : Sides :=
  let (known, olds) := numberLines {} old
  let (known, news) := numberLines known new
  ⟨olds.toArray, news.toArray, known.size⟩

end IssueTrace.Diff
