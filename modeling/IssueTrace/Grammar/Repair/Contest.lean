import IssueTrace.Grammar.Automaton
import IssueTrace.Grammar.Repair.Stack

/-!
# The contest of readings

A session follows several readings of a text at once. After each round they are compared: a reading
that is clearly worse than another one is given up, the others are put in order, and those that have
come to the same state at the same place are joined. A reading that costs less may still have to wait
for one that costs more, as long as it has not shown that it can go on.
-/

namespace IssueTrace.Grammar.Repair

/-- What a session is about. -/
structure Setting (σ : Type) where
  machine : Machine
  gauge : Gauge
  /-- What comes next: of the tokens that can come, or of all tokens where none is given. A token
  without characters counts only if the reading has gone on since it lost the thread. -/
  look : Option TokenSet → Bool → σ → Sight σ
  /-- Whether the scanner remembers the same at two places. -/
  agree : σ → σ → Bool

/-- The readings of a text, and the best complete one so far. -/
structure Session (σ : Type) where
  automaton : Automaton := {}
  knots : Array Knot := #[]
  heads : Array (Head σ) := #[]
  finished : Option Fragment := none
  accepted : Nat := 0

abbrev SessionM (σ : Type) := StateM (Session σ)

/-- The most readings that a round begins with. -/
def readingLimit : Nat := 6

/-- By how much a round may exceed this. -/
def readingOverflow : Nat := 4

/-- The difference in cost that a reading of one node cannot make up for. -/
def costLimit : Nat := 18 * Cost.node

variable {σ : Type}

namespace Session

def knotOf (s : Session σ) (v : Nat) : Knot :=
  match s.heads[v]? with
  | some h => s.knots.getD h.knot default
  | none => default

def state (s : Session σ) (v : Nat) : Option Nat := (s.knotOf v).state

def offset (s : Session σ) (v : Nat) : Nat := (s.knotOf v).offset

def isActive (s : Session σ) (v : Nat) : Bool := (s.heads[v]?.map (·.isActive)).getD false

def isPaused (s : Session σ) (v : Nat) : Bool := (s.heads[v]?.map (·.isPaused)).getD false

def isHalted (s : Session σ) (v : Nat) : Bool := (s.heads[v]?.map (·.isHalted)).getD false

/-- What a reading costs. Having lost the thread counts from the start. -/
def cost (s : Session σ) (v : Nat) : Nat :=
  let k := s.knotOf v
  let justLost := k.state.isNone && (k.links[0]?.map (·.part.isNone)).getD false
  if s.isPaused v || justLost then k.cost + Cost.fault else k.cost

end Session

def onAutomaton {α : Type} (step : StateM Automaton α) : SessionM σ α := fun s =>
  let a := s.automaton
  let s := { s with automaton := {} }
  let (r, a) := step a
  (r, { s with automaton := a })

def modifyHead (v : Nat) (change : Head σ → Head σ) : SessionM σ Unit :=
  modify fun s => { s with heads := s.heads.modify v change }

def removeHead (v : Nat) : SessionM σ Unit :=
  modify fun s => { s with heads := s.heads.eraseIdxIfInBounds v }

/-- Puts the second of two readings in the place of the first one. -/
def replaceHead (v w : Nat) : SessionM σ Unit :=
  modify fun s =>
    match s.heads[v]?, s.heads[w]? with
    | some old, some new =>
        if v == w then s
        else
          let new := { new with marks := new.marks.orElse fun _ => old.marks }
          { s with heads := (s.heads.setIfInBounds v new).eraseIdxIfInBounds w }
    | _, _ => s

/-- Adds a reading like another one, on a knot. -/
def addHead (v knot : Nat) : SessionM σ Nat := do
  let s ← get
  match s.heads[v]? with
  | some h =>
      set { s with heads := s.heads.push { h with knot, status := .active, marks := none } }
      return s.heads.size
  | none => return s.heads.size

/-- Puts a fragment, or the loss of the thread, on top of a reading. -/
def push (e : Setting σ) (v : Nat) (part : Option Fragment) (state : Option Nat) :
    SessionM σ Unit :=
  modify fun s =>
    match s.heads[v]? with
    | some h =>
        let k := (s.knots.getD h.knot default).above e.machine.grammar h.knot part state
        let number := s.knots.size
        { s with
          knots := s.knots.push k
          heads := s.heads.modify v fun h =>
            { h with
              knot := number
              countAtFault := if part.isNone then k.count else h.countAtFault } }
    | none => s

/-- How many nodes a reading has read since it lost the thread. -/
def countSinceFault (v : Nat) : SessionM σ Nat := do
  let s ← get
  let count := (s.knotOf v).count
  modifyHead v fun h => { h with countAtFault := min h.countAtFault count }
  return count - ((s.heads[v]?.map (·.countAtFault)).getD 0)

/-- Whether two readings can go on as one. -/
def canMerge (e : Setting σ) (s : Session σ) (v w : Nat) : Bool :=
  match s.heads[v]?, s.heads[w]? with
  | some a, some b =>
      let k := s.knots.getD a.knot default
      let l := s.knots.getD b.knot default
      a.isActive && b.isActive && k.state == l.state && k.offset == l.offset && k.cost == l.cost
        && e.agree a.place b.place
  | _, _ => false

/-- Joins the second of two readings to the first one, if they can go on as one. -/
def merge (e : Setting σ) (v w : Nat) : SessionM σ Bool := do
  let s ← get
  if canMerge e s v w then
    let top := (s.heads[v]?.map (·.knot)).getD 0
    let links := (s.knotOf w).links
    modify fun s =>
      let fuel := s.knots.size
      { s with knots := links.foldl (fun ks l => addLink e.machine.grammar fuel ks top l) s.knots }
    let k := (← get).knotOf v
    if k.state.isNone then modifyHead v fun h => { h with countAtFault := k.count }
    removeHead w
    return true
  else return false

structure Standing where
  cost : Nat
  count : Nat
  weight : Int
  /-- Whether it has lost the thread. -/
  lost : Bool
  deriving Inhabited

/-- Which of two readings is better. A better one is taken if the other one has no prospect, and
preferred if it has. -/
inductive Preference where
  | takeFirst
  | preferFirst
  | neither
  | preferSecond
  | takeSecond
  deriving DecidableEq

namespace Standing

/-- Which of two standings that differ in cost, the first being the lower one, is better. -/
def clearly (a b : Standing) : Bool := (b.cost - a.cost) * (1 + a.count) > costLimit

def compare (a b : Standing) : Preference :=
  if !a.lost && b.lost then
    if a.cost < b.cost then .takeFirst else .preferFirst
  else if a.lost && !b.lost then
    if b.cost < a.cost then .takeSecond else .preferSecond
  else if a.cost < b.cost then
    if a.clearly b then .takeFirst else .preferFirst
  else if b.cost < a.cost then
    if b.clearly a then .takeSecond else .preferSecond
  else if b.weight < a.weight then .preferFirst
  else if a.weight < b.weight then .preferSecond
  else .neither

end Standing

/-- How a reading stands now. -/
def standing (v : Nat) : SessionM σ Standing := do
  let count ← countSinceFault v
  let s ← get
  let paused := s.isPaused v
  return {
    cost := if paused then s.cost v + Cost.node else s.cost v
    count
    weight := (s.knotOf v).weight
    lost := paused || (s.state v).isNone }

/-- Whether some reading would be better than a reading if that had a given cost. -/
def isOutdone (e : Setting σ) (v : Nat) (lost : Bool) (cost : Nat) : SessionM σ Bool := do
  let s ← get
  if (s.finished.map fun f => decide (f.cost ≤ cost)).getD false then return true
  else
    let count ← countSinceFault v
    let own : Standing := { cost, count, weight := (s.knotOf v).weight, lost }
    (List.range s.heads.size).anyM fun w => do
      if w == v || !s.isActive w || s.offset w < s.offset v then return false
      else
        match own.compare (← standing w) with
        | .takeSecond => return true
        | .preferSecond => return canMerge e (← get) w v
        | _ => return false

/-- Compares a reading with those from a number on before it. Gives the number up to which all
readings have been compared. -/
def compareWithEarlier (e : Setting σ) : Nat → Nat → Nat → Standing → SessionM σ Nat
  | 0, v, _, _ => return v + 1
  | fuel + 1, v, w, own => do
      if v ≤ w then return v + 1
      else
        match (← standing w).compare own with
        | .takeFirst =>
            removeHead v
            return v
        | .preferFirst | .neither =>
            if ← merge e w v then return v
            else compareWithEarlier e fuel v (w + 1) own
        | .preferSecond =>
            if ← merge e w v then return v
            else
              modify fun s => { s with heads := s.heads.swapIfInBounds v w }
              compareWithEarlier e fuel v (w + 1) own
        | .takeSecond =>
            removeHead w
            compareWithEarlier e fuel (v - 1) w own

/-- Compares all readings with one another. Gives the least cost of those that have not lost the
thread. -/
def compareAll (e : Setting σ) : Nat → Nat → Option Nat → SessionM σ (Option Nat)
  | 0, _, least => return least
  | fuel + 1, v, least => do
      let s ← get
      if s.heads.size ≤ v then return least
      else if s.isHalted v then
        removeHead v
        compareAll e fuel v least
      else
        let own ← standing v
        let least := if own.lost then least else some ((least.map (min own.cost)).getD own.cost)
        let next ← compareWithEarlier e (2 * s.heads.size) v 0 own
        compareAll e fuel next least

end IssueTrace.Grammar.Repair
