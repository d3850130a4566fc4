import IssueTrace.Diff.Lines

/-!
# Candidates for a match

Before two files are compared, the lines are set aside that cannot help to align them: the common
beginning and end, lines that the other file does not have, and frequent lines in a stretch that is
mostly made of such lines. The other lines are the candidates for a match.
-/

namespace IssueTrace.Diff

/-- A power of two near the square root of a number. -/
def roughRoot (n : Nat) : Nat := if n = 0 then 1 else 1 <<< (n.log2 / 2 + 1)

/-- How often the other file has a line. -/
inductive Frequency where
  | never
  | seldom
  | often
  deriving DecidableEq, Repr, Inhabited

/-- A line is frequent from this many occurrences on, in relation to the number of lines. -/
def manyOccurrences (lineCount : Nat) : Nat := min (roughRoot lineCount) 1024

def frequency (many occurrences : Nat) : Frequency :=
  if occurrences = 0 then .never else if many ≤ occurrences then .often else .seldom

/-- How many lines on each side of a frequent line are looked at. -/
def noiseWindow : Nat := 100

/-- Whether a frequent line stands in a stretch of lines without a match. The frequencies are those
of the lines before it, the nearest first, and of the lines after it. A stretch ends at a line that
has a few matches. -/
def isNoise (before after : List Frequency) : Bool :=
  let left := (before.take noiseWindow).takeWhile (· != .seldom)
  let right := (after.take noiseWindow).takeWhile (· != .seldom)
  let lonely := left.count .never + right.count .never
  let frequent := left.count .often + right.count .often + 2
  left.contains .never && right.contains .never && frequent * 4 < frequent + lonely

/-- The positions, counted from a first one, of the lines to be kept, given the frequencies of the
lines already passed, the last one first. -/
def keepFrom (position : Nat) (passed : List Frequency) : List Frequency → List Nat
  | [] => []
  | f :: rest =>
      let keep := match f with
        | .never => false
        | .seldom => true
        | .often => !isNoise passed rest
      let others := keepFrom (position + 1) (f :: passed) rest
      if keep then position :: others else others

/-- How often each number occurs. -/
def occurrences (kinds : Nat) (lines : Array Nat) : Array Nat :=
  lines.foldl (fun counts n => counts.modify n (· + 1)) (Array.replicate kinds 0)

/-- How many lines two files have in common at the beginning. -/
def commonStart : List Nat → List Nat → Nat
  | a :: as, b :: bs => if a = b then commonStart as bs + 1 else 0
  | _, _ => 0

/-- The lines of one file that are candidates, by their positions, with their numbers, and for each
line of the file whether it has no match so far. -/
structure Candidates where
  positions : Array Nat
  numbers : Array Nat
  changed : Array Bool

/-- The candidates among the lines of a file from a first one on up to a last one, given how often
the other file has each line. -/
def candidatesOf (lines : Array Nat) (elsewhere : Array Nat) (first stop : Nat) : Candidates :=
  let many := manyOccurrences lines.size
  let middle := (lines.extract first stop).toList
  let kept := (keepFrom first [] (middle.map fun n => frequency many (elsewhere.getD n 0))).toArray
  let inMiddle := (Array.range lines.size).map fun i => decide (first ≤ i ∧ i < stop)
  { positions := kept
    numbers := kept.map (lines.getD · 0)
    changed := kept.foldl (fun changed i => changed.setIfInBounds i false) inMiddle }

/-- The candidates of both files. -/
def candidates (s : Sides) : Candidates × Candidates :=
  let first := commonStart s.old.toList s.new.toList
  let rest := min s.old.size s.new.size - first
  let last := min rest (commonStart s.old.toList.reverse s.new.toList.reverse)
  (candidatesOf s.old (occurrences s.kinds s.new) first (s.old.size - last),
    candidatesOf s.new (occurrences s.kinds s.old) first (s.new.size - last))

end IssueTrace.Diff
