/-!
# Priority queues

A binary heap: the entries of a list are the nodes of a tree whose root comes first, with the nodes
below the one at position `i` at the positions `2 * i + 1` and `2 * i + 2`. No node comes after one
below it. Of entries with the same rank, the order in which they leave depends on the tree.
-/

namespace IssueTrace.History.Queue

variable {α : Type}

/-- Exchanges two entries. -/
def exchange (queue : Array α) (i k : Nat) : Array α := queue.swapIfInBounds i k

/-- Whether the entry at one position may stay above that at another. -/
def mayStay (precedes : α → α → Bool) (queue : Array α) (i k : Nat) : Bool :=
  match queue[i]?, queue[k]? with
  | some above, some below => precedes above below
  | _, _ => true

/-- Moves an entry up until the one above it may stay. -/
def siftUp (precedes : α → α → Bool) (queue : Array α) (i : Nat) : Array α :=
  if h : i = 0 then queue
  else if mayStay precedes queue ((i - 1) / 2) i then queue
  else siftUp precedes (exchange queue ((i - 1) / 2) i) ((i - 1) / 2)
termination_by i
decreasing_by omega

/-- Adds an entry. -/
def push (precedes : α → α → Bool) (queue : Array α) (x : α) : Array α :=
  siftUp precedes (queue.push x) queue.size

/-- The position of the first of the entries below one. -/
def firstBelow (precedes : α → α → Bool) (queue : Array α) (i : Nat) : Nat :=
  if mayStay precedes queue (2 * i + 1) (2 * i + 2) then 2 * i + 1 else 2 * i + 2

/-- Moves an entry down until it may stay above those below it. The first argument bounds the
depth. -/
def siftDown (precedes : α → α → Bool) : Nat → Array α → Nat → Array α
  | 0, queue, _ => queue
  | depth + 1, queue, i =>
      let k := firstBelow precedes queue i
      if mayStay precedes queue i k then queue
      else siftDown precedes depth (exchange queue i k) k

/-- The queue without its first entry: the last one takes its place and is moved down. -/
def tail (precedes : α → α → Bool) (queue : Array α) : Array α :=
  siftDown precedes queue.size (exchange queue 0 (queue.size - 1)).pop 0

/-- Takes out as many entries as given, one after the other. -/
def takeOut (precedes : α → α → Bool) : Nat → Array α → List α
  | 0, _ => []
  | count + 1, queue =>
      match queue[0]? with
      | none => []
      | some x => x :: takeOut precedes count (tail precedes queue)

/-- Puts entries into an empty queue and takes them out again. -/
def drain (precedes : α → α → Bool) (xs : List α) : List α :=
  takeOut precedes xs.length (xs.foldl (push precedes) #[])

end IssueTrace.History.Queue
