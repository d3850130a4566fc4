import IssueTrace.History.Queue
import IssueTrace.History.Snapshot

/-!
# Commit graphs

The commits of a repository, each with its time and its parents. A commit stands before its parents,
so what a commit descends from is found in one pass over the commits.
-/

namespace IssueTrace.History

/-- A commit as it is recorded. -/
structure Record where
  id : CommitId
  parents : List CommitId
  /-- The time of the commit in seconds. -/
  time : Int
  message : List UInt8
  snapshot : Snapshot
  deriving Repr, Inhabited

/-- Whether a commit is not there yet and all its parents are. -/
def mayFollow (r : Record) (earlier : List Record) : Bool :=
  !(earlier.map Record.id).contains r.id && r.parents.all ((earlier.map Record.id).contains ·)

/-- Whether each commit stands before its parents. -/
def inOrder : List Record → Bool
  | [] => true
  | r :: earlier => mayFollow r earlier && inOrder earlier

/-- The commits, the latest first. -/
structure Graph where
  records : List Record := []
  ordered : inOrder records = true := by decide +kernel
  full : ∀ r ∈ records, r.id.IsFull := by decide +kernel

namespace Graph

def empty : Graph := {}

instance : Inhabited Graph := ⟨empty⟩

/-- A commit that can be added: its id is full, it is not there yet, and its parents are. -/
structure Admits (g : Graph) (r : Record) : Prop where
  full : r.id.IsFull
  follows : mayFollow r g.records = true

theorem admits_iff (g : Graph) (r : Record) :
    g.Admits r ↔ r.id.IsFull ∧ mayFollow r g.records = true :=
  ⟨fun h => ⟨h.1, h.2⟩, fun h => ⟨h.1, h.2⟩⟩

instance (g : Graph) (r : Record) : Decidable (g.Admits r) := decidable_of_iff' _ (admits_iff g r)

/-- The graph with one commit more. -/
def extend (g : Graph) (r : Record) (h : g.Admits r) : Graph where
  records := r :: g.records
  ordered := by simp [inOrder, h.follows, g.ordered]
  full := List.forall_mem_cons.mpr ⟨h.full, g.full⟩

/-- Adds a commit whose parents are there. -/
def add? (g : Graph) (r : Record) : Option Graph :=
  if h : g.Admits r then some (g.extend r h) else none

def find? (g : Graph) (id : CommitId) : Option Record := g.records.find? (·.id = id)

def parents (g : Graph) (id : CommitId) : List CommitId :=
  ((g.find? id).map Record.parents).getD []

def time (g : Graph) (id : CommitId) : Int := ((g.find? id).map Record.time).getD 0

/-- The commits among some that are given ids or that these descend from. -/
def reachedIn (starts : List CommitId) : List Record → List CommitId
  | [] => []
  | r :: earlier =>
      if starts.contains r.id then r.id :: reachedIn (r.parents ++ starts) earlier
      else reachedIn starts earlier

/-- The commits that are given ids or that these descend from. -/
def reached (g : Graph) (starts : List CommitId) : List CommitId := reachedIn starts g.records

/-- The commits that two commits have in common. -/
def common (g : Graph) (a b : CommitId) : List CommitId :=
  let ofB := g.reached [b]
  (g.reached [a]).filter (ofB.contains ·)

/-- The common commits from which no other common commit descends: those that are above no parent of
a common commit. -/
def bases (g : Graph) (a b : CommitId) : List CommitId :=
  let common := g.common a b
  let lower := g.reached (common.flatMap g.parents)
  common.filter (!lower.contains ·)

/-- The first of the latest commits among some. -/
def latest? (g : Graph) (ids : List CommitId) : Option CommitId :=
  ids.foldl
    (fun best id =>
      match best with
      | none => some id
      | some other => if g.time other < g.time id then some id else best)
    none

/-- The latest of the common commits from which no other descends. -/
def mergeBase? (g : Graph) (a b : CommitId) : Option CommitId := g.latest? (g.bases a b)

/-- The commits that either end descends from, without those that the merge base descends from. -/
def between (g : Graph) (start stop : CommitId) : List CommitId :=
  let hidden := match g.mergeBase? start stop with
    | some base => g.reached [base]
    | none => []
  (g.reached [start, stop]).filter (!hidden.contains ·)

/-- Enters a commit in a list from the latest to the earliest, after those of the same time. -/
def enter (g : Graph) (id : CommitId) : List CommitId → List CommitId
  | [] => [id]
  | other :: rest =>
      if g.time other < g.time id then id :: other :: rest else other :: enter g id rest

/-- Goes through commits from the latest to the earliest, from those in the agenda on to their
parents. The first argument bounds the number of commits. -/
def walk (g : Graph) (wanted : List CommitId) :
    Nat → List CommitId → List CommitId → List CommitId
  | 0, _, _ => []
  | _ + 1, [], _ => []
  | fuel + 1, id :: agenda, seen =>
      let fresh := ((g.parents id).filter (wanted.contains ·)).eraseDups.filter (!seen.contains ·)
      id :: walk g wanted fuel (fresh.foldl (fun agenda p => g.enter p agenda) agenda) (fresh ++ seen)

/-- Puts commits in order of their times, the latest first. -/
def byTime (g : Graph) (ids : List CommitId) : List CommitId :=
  Queue.drain (fun a b => g.time b ≤ g.time a) ids

/-- The wanted commits in the order of their times, found from the given ones on. -/
def ranked (g : Graph) (wanted tips : List CommitId) : List CommitId :=
  let tips := (tips.filter (wanted.contains ·)).eraseDups
  g.byTime (g.walk wanted g.records.length tips tips)

/-- The commits between two, the latest first. -/
def window (g : Graph) (start stop : CommitId) : List CommitId :=
  g.ranked (g.between start stop) [stop, start]

/-- The given commits and those that they descend from, the latest first. -/
def log (g : Graph) (starts : List CommitId) : List CommitId := g.ranked (g.reached starts) starts

end Graph

end IssueTrace.History
