import IssueTrace.Grammar.Production

/-!
# Fragments

What a faulty text is taken apart into. A fragment is a piece of the text that has been read by the
rules, a token that the text lacks, or a stretch that was passed over. It knows what it costs: a
token that had to be supplied, and everything that had to be passed over, counts against a reading,
and of two readings of a text the cheaper one is the better.
-/

namespace IssueTrace.Grammar.Repair

/-- How much of a text lies between two offsets. -/
structure Gauge where
  bytes : Nat → Nat → Nat
  lines : Nat → Nat → Nat

namespace Cost

/-- What it costs to lose the thread once. -/
def fault : Nat := 500

/-- What it costs to supply a token. -/
def supplied : Nat := 110

/-- What it costs to pass over a node of the tree. -/
def node : Nat := 100

/-- What it costs to pass over a line end. -/
def line : Nat := 30

end Cost

/-- What it costs to pass over the text between two offsets: one for a byte, more for a line. -/
def Gauge.cost (g : Gauge) (start stop : Nat) : Nat :=
  g.bytes start stop + Cost.line * g.lines start stop

/-- Where a fragment stands, and what counts for or against it. -/
structure Measure where
  /-- How many characters stand between what comes before and the fragment. -/
  gap : Nat
  start : Nat
  stop : Nat
  cost : Nat := 0
  /-- The nodes of the tree among the parts. -/
  children : Nat := 0
  /-- The nodes of the tree below the fragment. -/
  descendants : Nat := 0
  weight : Int := 0
  deriving Inhabited

/-- A piece of a text. -/
inductive Fragment where
  | token (symbol : Nat) (extra : Bool) (measure : Measure)
  /-- A token that the text lacks. -/
  | supplied (symbol : Nat) (measure : Measure)
  /-- Characters that begin no token. -/
  | unreadable (measure : Measure)
  | node (production : Nat) (parts : List Fragment) (measure : Measure)
  /-- Parts that fit no rule. -/
  | fault (extra : Bool) (parts : List Fragment) (measure : Measure)
  /-- Parts that are being passed over. -/
  | passed (parts : List Fragment) (measure : Measure)
  deriving Inhabited

namespace Fragment

def measure : Fragment → Measure
  | token _ _ m | supplied _ m | unreadable m | node _ _ m | fault _ _ m | passed _ m => m

def parts : Fragment → List Fragment
  | token .. | supplied .. | unreadable _ => []
  | node _ ps _ | fault _ ps _ | passed ps _ => ps

def cost (f : Fragment) : Nat := f.measure.cost

def weight (f : Fragment) : Int := f.measure.weight

/-- Whether the fragment fills no step of a production. -/
def isExtra : Fragment → Bool
  | token _ extra _ | fault extra _ _ => extra
  | _ => false

def isFault : Fragment → Bool
  | unreadable _ | fault .. => true
  | _ => false

def isPassed : Fragment → Bool
  | passed .. => true
  | _ => false

/-- The symbol of the grammar that the fragment is read as. -/
def symbol? (g : Flat) : Fragment → Option Nat
  | token s _ _ | supplied s _ => some s
  | node p _ _ => some (g.productions.getD p default).lhs
  | unreadable _ | fault .. | passed .. => none

def sameKind (g : Flat) (a b : Fragment) : Bool :=
  a.symbol? g == b.symbol? g && a.isPassed == b.isPassed

/-- Whether the fragment leaves a node in the tree under its own name. -/
def isVisible (g : Flat) : Fragment → Bool
  | unreadable _ | fault .. => true
  | passed .. => false
  | f => ((f.symbol? g).map fun s => (g.symbols.getD s default).visible).getD false

/-- How many nodes of the tree the fragment counts for, among them the steps it had. A fragment
that is being passed over counts, so that each of them is progress. -/
def nodeCount (g : Flat) (f : Fragment) : Nat :=
  f.measure.descendants + (if f.isVisible g then 1 else 0) + (if f.isPassed then 1 else 0)

/-- Adds to a measure what parts count for, given the steps that they fill. -/
def addParts (g : Flat) : List Step → List Fragment → Measure → Measure
  | _, [], m => m
  | steps, f :: fs, m =>
      let labelled := !f.isExtra && (steps.head?.bind (·.label)).isSome
      let own := if labelled || f.isVisible g then 1 else 0
      let m :=
        { m with
          stop := f.measure.stop
          cost := m.cost + (if f.isPassed then 0 else f.cost)
          children := m.children + (if own == 1 then 1 else f.measure.children)
          descendants := m.descendants + own + f.measure.descendants
          weight := m.weight + f.weight }
      addParts g (if f.isExtra then steps else steps.tail) fs m

/-- The measure of parts put together at an offset. -/
def measureOf (g : Flat) (offset : Nat) (steps : List Step) (parts : List Fragment) : Measure :=
  let m : Measure :=
    match parts with
    | f :: _ => { gap := f.measure.gap, start := f.measure.start, stop := f.measure.start }
    | [] => { gap := 0, start := offset, stop := offset }
  addParts g steps parts m

/-- What it costs to pass over parts, the text that they stand for not counted. -/
def nodesCost (g : Flat) (parts : List Fragment) : Nat :=
  parts.foldl
    (fun cost f =>
      if f.isExtra || (f.isFault && f.parts.isEmpty) then cost
      else if f.isVisible g then cost + Cost.node
      else cost + Cost.node * f.measure.children)
    0

def measurePassed (g : Flat) (gauge : Gauge) (offset : Nat) (parts : List Fragment) : Measure :=
  let m := measureOf g offset [] parts
  { m with cost := m.cost + nodesCost g parts + Cost.fault + gauge.cost m.start m.stop }

/-- The parts of a production put together. -/
def ofProduction (g : Flat) (offset production : Nat) (parts : List Fragment) : Fragment :=
  let p := g.productions.getD production default
  let m := measureOf g offset p.steps.toList parts
  .node production parts { m with weight := m.weight + p.weight }

/-- A token that the text lacks. -/
def ofMissing (offset symbol : Nat) : Fragment :=
  .supplied symbol { gap := 0, start := offset, stop := offset, cost := Cost.supplied + Cost.fault }

def ofFault (g : Flat) (gauge : Gauge) (offset : Nat) (extra : Bool) (parts : List Fragment) :
    Fragment :=
  .fault extra parts (measurePassed g gauge offset parts)

def ofPassed (g : Flat) (gauge : Gauge) (offset : Nat) (parts : List Fragment) : Fragment :=
  .passed parts (measurePassed g gauge offset parts)

/-- Whether two fragments at the same place can stand for each other. Of two faulty ones one is
enough. -/
def equivalent (g : Flat) (a b : Fragment) : Bool :=
  sameKind g a b
    && ((a.cost > 0 && b.cost > 0)
      || (a.measure.gap == b.measure.gap
        && a.measure.start == b.measure.start && a.measure.stop == b.measure.stop
        && a.parts.length == b.parts.length && a.isExtra == b.isExtra))

/-- Whether the second of two fragments is the better one. Of two faulty ones that cost the same the
later one is. -/
def improves (old new : Fragment) : Bool :=
  if new.cost < old.cost then true
  else if old.cost < new.cost then false
  else if old.weight < new.weight then true
  else if new.weight < old.weight then false
  else old.cost > 0

/-- Splits off the extra fragments at the end. -/
def splitExtras (parts : List Fragment) : List Fragment × List Fragment :=
  let (extras, rest) := parts.reverse.span isExtra
  (rest.reverse, extras.reverse)

end Fragment

end IssueTrace.Grammar.Repair
