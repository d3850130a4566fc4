import IssueTrace.Diff.Candidates

/-!
# Splitting a comparison

Two sequences span a grid: a step to the right passes over an element of the first, a step down over
one of the second, and a diagonal step over two equal ones. A shortest way through a box of the grid
is searched from both corners at once. Where the two searches meet the box is split. A search that
becomes too costly settles for a point that lies far on the way.
-/

namespace IssueTrace.Diff

/-- A box of the grid: the elements from `lo1` up to `hi1` of the first sequence and from `lo2` up to
`hi2` of the second. -/
structure Box where
  lo1 : Int
  hi1 : Int
  lo2 : Int
  hi2 : Int

/-- The point at which a box is split, and for each part whether it has to be searched to the end. -/
structure Split where
  at1 : Int
  at2 : Int
  exactBefore : Bool
  exactAfter : Bool

/-- The furthest points reached on the diagonals, by their first coordinate. -/
structure Reach where
  /-- The diagonal of the first entry, negated. -/
  shift : Int
  points : Array Int

namespace Reach

def ofBox (b : Box) : Reach :=
  ⟨b.hi2 - b.lo1 + 2, Array.replicate (b.hi1 - b.lo1 + b.hi2 - b.lo2 + 5).toNat 0⟩

def get (r : Reach) (d : Int) : Int := r.points.getD (d + r.shift).toNat 0

def set (r : Reach) (d point : Int) : Reach :=
  { r with points := r.points.setIfInBounds (d + r.shift).toNat point }

end Reach

/-- A coordinate beyond every box. -/
def farAway : Int := 0x4000000000000000

/-- A diagonal run of at least this length is worth noting. -/
def longRun : Int := 20

/-- A search that costs more looks for a good point along the way. -/
def patience : Int := 256

/-- How much a point must exceed the cost to count as good. -/
def goodRatio : Int := 4

/-- The sequences that are compared, and the cost at which a search ends. -/
structure Grid where
  first : Array Nat
  second : Array Nat
  maxCost : Int

namespace Grid

/-- Whether the elements at two positions are equal. -/
def same (g : Grid) (i1 i2 : Int) : Bool := g.first[i1.toNat]? == g.second[i2.toNat]?

/-- Follows equal elements forward from a point; the first argument bounds the steps. -/
def runForward (g : Grid) (b : Box) : Nat → Int → Int → Int
  | 0, i1, _ => i1
  | fuel + 1, i1, i2 =>
      if i1 < b.hi1 && i2 < b.hi2 && g.same i1 i2 then runForward g b fuel (i1 + 1) (i2 + 1)
      else i1

/-- Follows equal elements backward from a point. -/
def runBackward (g : Grid) (b : Box) : Nat → Int → Int → Int
  | 0, i1, _ => i1
  | fuel + 1, i1, i2 =>
      if b.lo1 < i1 && b.lo2 < i2 && g.same (i1 - 1) (i2 - 1) then
        runBackward g b fuel (i1 - 1) (i2 - 1)
      else i1

/-- How many equal elements follow a point, up to a bound. -/
def runLength (g : Grid) : Nat → Int → Int → Nat
  | 0, _, _ => 0
  | bound + 1, i1, i2 => if g.same i1 i2 then runLength g bound (i1 + 1) (i2 + 1) + 1 else 0

end Grid

/-- A search from one corner: the diagonals in use and the points reached on them. -/
structure Search where
  low : Int
  high : Int
  reach : Reach

/-- The diagonals from `high` down to `low` in steps of two. -/
def diagonals (low high : Int) : List Int :=
  if high < low then []
  else (List.range ((high - low) / 2).toNat.succ).map fun (k : Nat) => high - 2 * (k : Int)

namespace Search

/-- Takes in one diagonal more at each side. At the border of the box one diagonal is left out
instead. The point beyond is marked as not reached. -/
def widen (s : Search) (least most unreached : Int) : Search :=
  let (low, reach) :=
    if least < s.low then (s.low - 1, s.reach.set (s.low - 2) unreached) else (s.low + 1, s.reach)
  let (high, reach) :=
    if s.high < most then (s.high + 1, reach.set (s.high + 2) unreached) else (s.high - 1, reach)
  ⟨low, high, reach⟩

def covers (s : Search) (d : Int) : Bool := s.low ≤ d && d ≤ s.high

end Search

/-- The result of one round of a search: the points reached, whether a long run was passed, and the
point at which the other search was met. -/
structure Round where
  reach : Reach
  long : Bool := false
  met : Option (Int × Int) := none

/-- One step of the forward search on a diagonal. -/
def stepForward (g : Grid) (b : Box) (meets : Bool) (other : Search) (r : Round) (d : Int) : Round :=
  if r.met.isSome then r
  else
    let start := if r.reach.get (d + 1) ≤ r.reach.get (d - 1) then r.reach.get (d - 1) + 1
      else r.reach.get (d + 1)
    let stop := g.runForward b g.first.size start (start - d)
    { reach := r.reach.set d stop
      long := r.long || longRun < stop - start
      met := if meets && other.covers d && other.reach.get d ≤ stop then some (stop, stop - d)
        else none }

/-- One step of the backward search on a diagonal. -/
def stepBackward (g : Grid) (b : Box) (meets : Bool) (other : Search) (r : Round) (d : Int) :
    Round :=
  if r.met.isSome then r
  else
    let start := if r.reach.get (d - 1) < r.reach.get (d + 1) then r.reach.get (d - 1)
      else r.reach.get (d + 1) - 1
    let stop := g.runBackward b g.first.size start (start - d)
    { reach := r.reach.set d stop
      long := r.long || longRun < start - stop
      met := if meets && other.covers d && stop ≤ other.reach.get d then some (stop, stop - d)
        else none }

/-- A point with its merit. -/
structure Choice where
  merit : Int
  at1 : Int
  at2 : Int

/-- Looks for a good point at the end of a long run among those the forward search has reached. -/
def goodForward (g : Grid) (b : Box) (cost middle : Int) (s : Search) : Option Choice :=
  (diagonals s.low s.high).foldl
    (fun best d =>
      let i1 := s.reach.get d
      let i2 := i1 - d
      let merit := (i1 - b.lo1) + (i2 - b.lo2) - ((d - middle).natAbs : Int)
      if goodRatio * cost < merit && (best.map Choice.merit).getD 0 < merit
          && b.lo1 + longRun ≤ i1 && i1 < b.hi1 && b.lo2 + longRun ≤ i2 && i2 < b.hi2
          && g.runLength longRun.toNat (i1 - longRun) (i2 - longRun) = longRun.toNat then
        some ⟨merit, i1, i2⟩
      else best)
    none

/-- Looks for a good point at the end of a long run among those the backward search has reached. -/
def goodBackward (g : Grid) (b : Box) (cost middle : Int) (s : Search) : Option Choice :=
  (diagonals s.low s.high).foldl
    (fun best d =>
      let i1 := s.reach.get d
      let i2 := i1 - d
      let merit := (b.hi1 - i1) + (b.hi2 - i2) - ((d - middle).natAbs : Int)
      if goodRatio * cost < merit && (best.map Choice.merit).getD 0 < merit
          && b.lo1 < i1 && i1 ≤ b.hi1 - longRun && b.lo2 < i2 && i2 ≤ b.hi2 - longRun
          && g.runLength longRun.toNat i1 i2 = longRun.toNat then
        some ⟨merit, i1, i2⟩
      else best)
    none

/-- The point inside the box furthest from the corner at which the forward search began. -/
def furthestForward (b : Box) (s : Search) : Choice :=
  (diagonals s.low s.high).foldl
    (fun best d =>
      let i1 := min (s.reach.get d) b.hi1
      let (i1, i2) := if b.hi2 < i1 - d then (b.hi2 + d, b.hi2) else (i1, i1 - d)
      if best.merit < i1 + i2 then ⟨i1 + i2, i1, i2⟩ else best)
    ⟨-1, -1, 0⟩

/-- The point inside the box furthest from the corner at which the backward search began. -/
def furthestBackward (b : Box) (s : Search) : Choice :=
  (diagonals s.low s.high).foldl
    (fun best d =>
      let i1 := max b.lo1 (s.reach.get d)
      let (i1, i2) := if i1 - d < b.lo2 then (b.lo2 + d, b.lo2) else (i1, i1 - d)
      if i1 + i2 < best.merit then ⟨i1 + i2, i1, i2⟩ else best)
    ⟨farAway, farAway, 0⟩

/-- Gives the search up at the better of the two furthest points. -/
def settle (b : Box) (forward backward : Search) : Split :=
  let f := furthestForward b forward
  let k := furthestBackward b backward
  if b.hi1 + b.hi2 - k.merit < f.merit - (b.lo1 + b.lo2) then ⟨f.at1, f.at2, true, false⟩
  else ⟨k.at1, k.at2, false, true⟩

/-- A good point along the way of one of the searches. -/
def goodSplit? (g : Grid) (b : Box) (cost : Int) (forward backward : Search) : Option Split :=
  match goodForward g b cost (b.lo1 - b.lo2) forward with
  | some c => some ⟨c.at1, c.at2, true, false⟩
  | none =>
      (goodBackward g b cost (b.hi1 - b.hi2) backward).map fun c => ⟨c.at1, c.at2, false, true⟩

/-- Searches in rounds of rising cost until the searches meet or one settles. The first argument
bounds the rounds. -/
def searchFrom (g : Grid) (b : Box) (exact : Bool) :
    Nat → Int → Search → Search → Split
  | 0, _, forward, backward => settle b forward backward
  | fuel + 1, cost, forward, backward =>
      let least := b.lo1 - b.hi2
      let most := b.hi1 - b.lo2
      let odd := (b.lo1 - b.lo2 - (b.hi1 - b.hi2)) % 2 != 0
      let forward := forward.widen least most (-1)
      let round := (diagonals forward.low forward.high).foldl (stepForward g b odd backward)
        ⟨forward.reach, false, none⟩
      match round.met with
      | some (i1, i2) => ⟨i1, i2, true, true⟩
      | none =>
          let forward := { forward with reach := round.reach }
          let backward := backward.widen least most farAway
          let back := (diagonals backward.low backward.high).foldl (stepBackward g b (!odd) forward)
            ⟨backward.reach, round.long, none⟩
          match back.met with
          | some (i1, i2) => ⟨i1, i2, true, true⟩
          | none =>
              let backward := { backward with reach := back.reach }
              let good := if !exact && back.long && patience < cost
                then goodSplit? g b cost forward backward else none
              match good with
              | some split => split
              | none =>
                  if !exact && g.maxCost ≤ cost then settle b forward backward
                  else searchFrom g b exact fuel (cost + 1) forward backward

/-- Splits a box whose corners are not equal elements. -/
def splitBox (g : Grid) (b : Box) (exact : Bool) : Split :=
  let start := b.lo1 - b.lo2
  let stop := b.hi1 - b.hi2
  let reach := Reach.ofBox b
  searchFrom g b exact (g.first.size + g.second.size + 2) 1
    ⟨start, start, reach.set start b.lo1⟩ ⟨stop, stop, reach.set stop b.hi1⟩

/-- The elements of each sequence that have no match. -/
structure Unmatched where
  first : List Nat := []
  second : List Nat := []

/-- The positions from `lo` up to `hi`. -/
def positions (lo hi : Int) : List Nat := (List.range (hi - lo).toNat).map fun k => lo.toNat + k

/-- Finds the elements of a box that have no match. The first argument bounds the depth of
splitting. -/
def compareBox (g : Grid) : Nat → Box → Bool → Unmatched → Unmatched
  | 0, _, _, found => found
  | depth + 1, b, exact, found =>
      let size := g.first.size
      let lo1 := g.runForward b size b.lo1 b.lo2
      let b : Box := ⟨lo1, b.hi1, b.lo2 + (lo1 - b.lo1), b.hi2⟩
      let hi1 := g.runBackward b size b.hi1 b.hi2
      let b : Box := ⟨b.lo1, hi1, b.lo2, b.hi2 - (b.hi1 - hi1)⟩
      if b.lo1 = b.hi1 then { found with second := found.second ++ positions b.lo2 b.hi2 }
      else if b.lo2 = b.hi2 then { found with first := found.first ++ positions b.lo1 b.hi1 }
      else
        let s := splitBox g b exact
        let found := compareBox g depth ⟨b.lo1, s.at1, b.lo2, s.at2⟩ s.exactBefore found
        compareBox g depth ⟨s.at1, b.hi1, s.at2, b.hi2⟩ s.exactAfter found

/-- The elements of two sequences that have no match. -/
def unmatched (first second : Array Nat) : Unmatched :=
  let count := first.size + second.size
  let g : Grid := ⟨first, second, max 256 (roughRoot (count + 3))⟩
  compareBox g (count + 2) ⟨0, first.size, 0, second.size⟩ false {}

end IssueTrace.Diff
