import IssueTrace.Grammar.Repair.Fragment

/-!
# Stacks with common parts

The stacks of several readings of one text. They are kept as a graph: a knot is a state with what was
read before it, and a knot that several readings have come to is there once, with a link for each
way that leads down from it. A reading is a head: the knot on top, and how far the scanner has come.

Taking entries off a stack goes down along all ways. Each knot that is reached gives a new head, with
all the sequences of fragments that lead to it.
-/

namespace IssueTrace.Grammar.Repair

/-- What comes next in a text. -/
structure Sight (σ : Type) where
  /-- The token, if the characters are one. -/
  symbol : Option Nat
  start : Nat
  stop : Nat
  /-- The token as which it is read where its own symbol cannot stand. -/
  fallback : Option Nat := none
  after : σ
  /-- Whether the token changes what the scanner remembers. -/
  memorable : Bool := false

/-- A way down from a knot: the fragment that was read last, if there is one. -/
structure Link where
  below : Nat
  part : Option Fragment
  deriving Inhabited

/-- A state on a stack. There is none once the thread is lost. -/
structure Knot where
  state : Option Nat
  offset : Nat
  links : Array Link := #[]
  cost : Nat := 0
  /-- How many nodes of the tree have been read. -/
  count : Nat := 0
  weight : Int := 0
  deriving Inhabited

/-- A state below the place where the thread was lost. -/
structure Mark where
  state : Option Nat
  offset : Nat
  depth : Nat
  deriving Inhabited

/-- What becomes of a reading. -/
inductive Status (σ : Type) where
  | active
  | halted
  /-- The next token cannot stand where it does. -/
  | paused (next : Sight σ)

/-- A reading. -/
structure Head (σ : Type) where
  knot : Nat
  place : σ
  status : Status σ := .active
  /-- The count of nodes when the thread was last lost. -/
  countAtFault : Nat := 0
  marks : Option (Array Mark) := none

namespace Head

variable {σ : Type}

def isActive (h : Head σ) : Bool :=
  match h.status with
  | .active => true
  | _ => false

def isHalted (h : Head σ) : Bool :=
  match h.status with
  | .halted => true
  | _ => false

def isPaused (h : Head σ) : Bool :=
  match h.status with
  | .paused _ => true
  | _ => false

end Head

/-- The most links that a knot has. -/
def linkLimit : Nat := 8

/-- The most ways that are followed down at a time. -/
def walkerLimit : Nat := 64

/-- A fragment on top of a knot, and the knot above it. -/
def Knot.above (g : Flat) (k : Knot) (number : Nat) (part : Option Fragment) (state : Option Nat) :
    Knot :=
  let links := #[⟨number, part⟩]
  match part with
  | none => { k with state, links }
  | some f =>
      { state
        links
        offset := f.measure.stop
        cost := k.cost + f.cost
        count := k.count + f.nodeCount g
        weight := k.weight + f.weight }

/-- The links of a knot that a new link can be joined with, by their numbers. -/
def Knot.matching (g : Flat) (k : Knot) (link : Link) : List Nat :=
  (List.range k.links.size).filter fun i =>
    match (k.links.getD i default).part, link.part with
    | some a, some b => a.equivalent g b
    | none, none => true
    | _, _ => false

/-- Adds a link to a knot. Where it leads to a knot like one below, the two become one. -/
def addLink (g : Flat) : Nat → Array Knot → Nat → Link → Array Knot
  | 0, knots, _, _ => knots
  | fuel + 1, knots, number, link =>
      let k := knots.getD number default
      let lower := knots.getD link.below default
      let ways := if number == link.below then [] else k.matching g link
      let joined := ways.findSome? fun i =>
        let old := k.links.getD i default
        let oldLower := knots.getD old.below default
        if old.below == link.below then some (i, true)
        else if oldLower.state == lower.state && oldLower.offset == lower.offset
            && oldLower.cost == lower.cost then some (i, false)
        else none
      let weight := lower.weight + (link.part.map (·.weight)).getD 0
      match joined with
      | some (i, true) =>
          let old := (k.links.getD i default).part
          if (old.map (·.weight)).getD 0 < (link.part.map (·.weight)).getD 0 then
            knots.modify number fun k =>
              { k with links := k.links.modify i fun l => { l with part := link.part }, weight }
          else knots
      | some (i, false) =>
          let target := (k.links.getD i default).below
          let knots := lower.links.foldl (fun ks l => addLink g fuel ks target l) knots
          knots.modify number fun k => { k with weight := max k.weight weight }
      | none =>
          if number == link.below || k.links.size == linkLimit then knots
          else
            let count := lower.count + (link.part.map (·.nodeCount g)).getD 0
            knots.modify number fun k =>
              { k with
                links := k.links.push link
                count := max k.count count
                weight := max k.weight weight }

/-- A way down: the knot reached, the fragments passed, in the order of the text, and how many steps
they fill. -/
structure Walker where
  knot : Nat
  parts : List Fragment := []
  depth : Nat := 0
  deriving Inhabited

/-- The walker after one more link. -/
def Walker.down (w : Walker) (link : Link) : Walker :=
  match link.part with
  | some f => ⟨link.below, f :: w.parts, if f.isExtra then w.depth else w.depth + 1⟩
  | none => ⟨link.below, w.parts, w.depth + 1⟩

/-- What to do with a walker: whether its knot is one to stop at, and whether it is one to give. -/
structure Verdict where
  stop : Bool
  give : Bool

/-- The walkers that go on, those that branched off, and those that are given. -/
structure Walk (α : Type) where
  memory : α
  onward : Array Walker := #[]
  branched : Array Walker := #[]
  given : Array Walker := #[]

/-- Lets each walker go down one link, and branch off where there are more. -/
def walkOnce {α : Type} (knots : Array Knot) (visit : α → Walker → α × Verdict) :
    List Walker → Walk α → Walk α
  | [], walk => walk
  | w :: ws, walk =>
      let (memory, verdict) := visit walk.memory w
      let walk := { walk with
        memory
        given := if verdict.give then walk.given.push w else walk.given }
      let links := (knots.getD w.knot default).links
      match if verdict.stop then none else links[0]? with
      | none => walkOnce knots visit ws walk
      | some link =>
          let room := walkerLimit
            - (walk.onward.size + 1 + ws.length + walk.branched.size)
          let others := (links.extract 1 links.size).extract 0 room
          walkOnce knots visit ws { walk with
            onward := walk.onward.push (w.down link)
            branched := walk.branched ++ others.map w.down }

/-- Goes down until every walker has stopped. -/
def walkDown {α : Type} (knots : Array Knot) (visit : α → Walker → α × Verdict) :
    Nat → List Walker → α → Array Walker → α × Array Walker
  | 0, _, memory, given => (memory, given)
  | _, [], memory, given => (memory, given)
  | fuel + 1, walkers, memory, given =>
      let walk := walkOnce knots visit walkers { memory, given }
      walkDown knots visit fuel (walk.onward ++ walk.branched).toList walk.memory walk.given

/-- Goes down from a knot. -/
def walkFrom {α : Type} (knots : Array Knot) (visit : α → Walker → α × Verdict) (knot : Nat)
    (memory : α) : α × Array Walker :=
  walkDown knots visit (knots.size + 1) [{ knot }] memory #[]

/-- The given walkers, those that reached the same knot together. -/
def groupByKnot (given : Array Walker) : List (Nat × List (List Fragment)) :=
  given.foldl
    (fun groups w =>
      if groups.any (·.1 == w.knot) then
        groups.map fun (k, ps) => if k == w.knot then (k, ps ++ [w.parts]) else (k, ps)
      else groups ++ [(w.knot, [w.parts])])
    []

/-- The knots that lie a number of steps down, each with the fragments above it. -/
def popCount (knots : Array Knot) (knot steps : Nat) : List (Nat × List (List Fragment)) :=
  let visit := fun (_ : Unit) (w : Walker) =>
    ((), (⟨w.depth == steps, w.depth == steps⟩ : Verdict))
  groupByKnot (walkFrom knots visit knot ()).2

/-- The bottom, with the fragments above it. -/
def popAll (knots : Array Knot) (knot : Nat) : List (Nat × List (List Fragment)) :=
  let visit := fun (_ : Unit) (w : Walker) =>
    ((), (⟨false, (knots.getD w.knot default).links.isEmpty⟩ : Verdict))
  groupByKnot (walkFrom knots visit knot ()).2

/-- The first way down that begins with a fault, as the knot below and the fault. -/
def popFault? (knots : Array Knot) (knot : Nat) : Option (Nat × Fragment) :=
  (knots.getD knot default).links.findSome? fun l =>
    match l.part with
    | some f => if f.isFault then some (l.below, f) else none
    | none => none

/-- The deepest state that is marked. -/
def markLimit : Nat := 16

/-- The states below a knot, with their depths. -/
def marksBelow (knots : Array Knot) (knot : Nat) : Array Mark :=
  let visit := fun (marks : Array Mark) (w : Walker) =>
    let k := knots.getD w.knot default
    if w.depth > markLimit then (marks, (⟨true, false⟩ : Verdict))
    else if marks.any fun m => m.depth == w.depth && m.state == k.state then
      (marks, ⟨false, false⟩)
    else (marks.push ⟨k.state, k.offset, w.depth⟩, ⟨false, false⟩)
  (walkFrom knots visit knot #[]).1

end IssueTrace.Grammar.Repair
