import IssueTrace.Diff.Split

/-!
# Changes

From two files to the changes between them. Equal lines that could be matched in several ways let a
group of changed lines slide up or down; each group is put as far down as it goes, unless it can
stand beside a group of changed lines of the other file.
-/

namespace IssueTrace.Diff

/-- A file as far as sliding is concerned: the numbers of its lines, and which of them are changed. -/
structure Side where
  lines : Array Nat
  changed : Array Bool

/-- A maximal run of changed lines, or the empty place between two unchanged lines. -/
structure Group where
  start : Nat
  stop : Nat

namespace Side

def isChanged (s : Side) (i : Nat) : Bool := s.changed.getD i false

/-- The end of the run of changed lines at a position; the first argument bounds its length. -/
def runEnd (s : Side) : Nat → Nat → Nat
  | 0, i => i
  | fuel + 1, i => if s.isChanged i then runEnd s fuel (i + 1) else i

/-- The beginning of the run of changed lines before a position. -/
def runStart (s : Side) : Nat → Nat
  | 0 => 0
  | i + 1 => if s.isChanged i then runStart s i else i + 1

def size (s : Side) : Nat := s.lines.size

def firstGroup (s : Side) : Group := ⟨0, s.runEnd s.size 0⟩

/-- The next group; there is none at the end of the file. -/
def nextGroup? (s : Side) (g : Group) : Option Group :=
  if g.stop = s.size then none else some ⟨g.stop + 1, s.runEnd s.size (g.stop + 1)⟩

/-- The group before; there is none at the beginning of the file. -/
def groupBefore? (s : Side) (g : Group) : Option Group :=
  if g.start = 0 then none else some ⟨s.runStart (g.start - 1), g.start - 1⟩

def mark (s : Side) (i : Nat) (changed : Bool) : Side :=
  { s with changed := s.changed.setIfInBounds i changed }

/-- Slides a group down by a line, if its first line equals the line after it. It joins a group that
it meets. -/
def slideDown? (s : Side) (g : Group) : Option (Side × Group) :=
  if g.stop < s.size && s.lines[g.start]? == s.lines[g.stop]? then
    let s := (s.mark g.start false).mark g.stop true
    some (s, ⟨g.start + 1, s.runEnd s.size (g.stop + 1)⟩)
  else none

/-- Slides a group up by a line, if its last line equals the line before it. -/
def slideUp? (s : Side) (g : Group) : Option (Side × Group) :=
  if g.start != 0 && s.lines[g.start - 1]? == s.lines[g.stop - 1]? then
    let s := (s.mark (g.start - 1) true).mark (g.stop - 1) false
    some (s, ⟨s.runStart (g.start - 1), g.stop - 1⟩)
  else none

end Side

/-- A group of one file, and the group of the other that stands at the same place. -/
structure Placement where
  side : Side
  group : Group
  other : Group

namespace Placement

/-- Whether there are changed lines of the other file at this place. -/
def isFaced (p : Placement) : Bool := p.other.start < p.other.stop

/-- One line up, together with the place in the other file. -/
def up? (other : Side) (p : Placement) : Option Placement := do
  let (side, group) ← p.side.slideUp? p.group
  return ⟨side, group, (other.groupBefore? p.other).getD p.other⟩

/-- One line down, together with the place in the other file. -/
def down? (other : Side) (p : Placement) : Option Placement := do
  let (side, group) ← p.side.slideDown? p.group
  return ⟨side, group, (other.nextGroup? p.other).getD p.other⟩

/-- As far up as possible. -/
def allUp (other : Side) : Nat → Placement → Placement
  | 0, p => p
  | fuel + 1, p => match p.up? other with
      | some p => allUp other fuel p
      | none => p

/-- As far down as possible, and whether a place was passed that faces changed lines. -/
def allDown (other : Side) : Nat → Placement → Bool → Placement × Bool
  | 0, p, faced => (p, faced)
  | fuel + 1, p, faced => match p.down? other with
      | some p => allDown other fuel p (faced || p.isFaced)
      | none => (p, faced)

/-- Up to the nearest place that faces changed lines. -/
def upToFaced (other : Side) : Nat → Placement → Placement
  | 0, p => p
  | fuel + 1, p =>
      if p.isFaced then p
      else match p.up? other with
        | some p => upToFaced other fuel p
        | none => p

/-- Slides a group up and down until it joins no other group any more. The end that it had furthest
up, and whether it can face changed lines, are given with it. -/
def range (other : Side) (size : Nat) : Nat → Placement → Placement × Nat × Bool
  | 0, p => (p, p.group.stop, false)
  | fuel + 1, p =>
      let count := p.group.stop - p.group.start
      let top := p.allUp other size
      let (bottom, faced) := top.allDown other size top.isFaced
      if bottom.group.stop - bottom.group.start = count then (bottom, top.group.stop, faced)
      else range other size fuel bottom

/-- The final place of a group. -/
def settle (other : Side) (p : Placement) : Placement :=
  let size := p.side.size + 1
  let (p, highest, faced) := p.range other size size
  if p.group.stop != highest && faced then p.upToFaced other size else p

end Placement

/-- Slides the groups of a file from a placement on to their final places. -/
def slideFrom (other : Side) : Nat → Placement → Side
  | 0, p => p.side
  | fuel + 1, p =>
      let p := if p.group.start = p.group.stop then p else p.settle other
      match p.side.nextGroup? p.group with
      | none => p.side
      | some group => slideFrom other fuel ⟨p.side, group, (other.nextGroup? p.other).getD p.other⟩

/-- A file with its groups at their final places. -/
def slide (side other : Side) : Side :=
  slideFrom other (side.size + 1) ⟨side, side.firstGroup, other.firstGroup⟩

/-- A run of lines of the old file that gives way to a run of lines of the new file. -/
structure Change where
  oldStart : Nat
  oldCount : Nat
  newStart : Nat
  newCount : Nat
  deriving DecidableEq, Repr, Inhabited

namespace Change

def oldStop (c : Change) : Nat := c.oldStart + c.oldCount

def newStop (c : Change) : Nat := c.newStart + c.newCount

end Change

/-- The changes, from what is marked in the two files from two positions on. The first argument
bounds the number of steps. -/
def changesFrom : Nat → Nat → Nat → List Bool → List Bool → List Change
  | 0, _, _, _, _ => []
  | _ + 1, _, _, [], [] => []
  | fuel + 1, i, k, false :: olds, false :: news => changesFrom fuel (i + 1) (k + 1) olds news
  | fuel + 1, i, k, olds, news =>
      let deleted := (olds.takeWhile (·)).length
      let added := (news.takeWhile (·)).length
      ⟨i, deleted, k, added⟩ ::
        changesFrom fuel (i + deleted) (k + added) (olds.drop deleted) (news.drop added)

/-- The changes between two files, in order. -/
def changes (s : Sides) : List Change :=
  let (old, new) := candidates s
  let lone := unmatched old.numbers new.numbers
  let marked := fun (c : Candidates) (ks : List Nat) =>
    ks.foldl (fun changed k => changed.setIfInBounds (c.positions.getD k 0) true) c.changed
  let oldSide : Side := ⟨s.old, marked old lone.first⟩
  let newSide : Side := ⟨s.new, marked new lone.second⟩
  let oldSide := slide oldSide newSide
  let newSide := slide newSide oldSide
  changesFrom (s.old.size + s.new.size + 1) 0 0 oldSide.changed.toList newSide.changed.toList

end IssueTrace.Diff
