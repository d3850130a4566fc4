import IssueTrace.Source.Tree

/-!
# Searching a tree

Depth-first search for the first node of a property. A cursor stands at a node of the tree and moves
to the first child, to the next sibling or back to the parent. A node that is not entered is passed
over with all that is below it.
-/

namespace IssueTrace.Source

namespace Tree

mutual

/-- How many nodes a tree has. -/
def size : Tree → Nat
  | .node _ _ cs => 1 + sizeAll cs

/-- How many nodes several trees have. -/
def sizeAll : List Tree → Nat
  | [] => 0
  | t :: ts => size t + sizeAll ts

end

theorem size_eq (t : Tree) : t.size = 1 + sizeAll t.children := by
  cases t
  simp [size, children]

theorem sizeAll_append (ts us : List Tree) :
    sizeAll (ts ++ us) = sizeAll ts + sizeAll us := by
  induction ts with
  | nil => simp [sizeAll]
  | cons t ts ih => simp [sizeAll, ih, Nat.add_assoc]

end Tree

/-- A way down from a node: the node, and the children behind the one on the way. -/
structure Branch where
  parent : Tree
  later : List Tree

/-- A node of a tree, and the way that leads down to it, its last branch first. -/
structure Cursor where
  node : Tree
  above : List Branch

namespace Cursor

/-- The cursor at the root of a tree. It does not leave the tree. -/
def atRoot (t : Tree) : Cursor := ⟨t, []⟩

def firstChild? (c : Cursor) : Option Cursor :=
  match c.node.children with
  | [] => none
  | first :: later => some ⟨first, ⟨c.node, later⟩ :: c.above⟩

def nextSibling? (c : Cursor) : Option Cursor :=
  match c.above with
  | ⟨parent, next :: later⟩ :: above => some ⟨next, ⟨parent, later⟩ :: above⟩
  | _ => none

def parent? (c : Cursor) : Option Cursor :=
  match c.above with
  | [] => none
  | branch :: above => some ⟨branch.parent, above⟩

/-- The trees behind the node of a cursor in document order, which hold all that comes after the
node and what is below it. -/
def pending (c : Cursor) : List Tree := c.above.flatMap Branch.later

theorem length_above_of_parent? {c up : Cursor} (h : c.parent? = some up) :
    up.above.length < c.above.length := by
  obtain ⟨node, above⟩ := c
  cases above with
  | nil => cases h
  | cons branch above =>
      obtain rfl : (⟨branch.parent, above⟩ : Cursor) = up := Option.some.inj h
      exact Nat.lt_succ_self above.length

/-- Moves on past all that is below the node: to the next sibling, or else to that of the nearest
node above that has one. -/
def onward? (c : Cursor) : Option Cursor :=
  match c.nextSibling? with
  | some next => some next
  | none =>
      match _ : c.parent? with
      | some up => up.onward?
      | none => none
termination_by c.above.length
decreasing_by exact length_above_of_parent? ‹_›

theorem pending_of_nextSibling? {c next : Cursor} (h : c.nextSibling? = some next) :
    c.pending = next.node :: next.pending := by
  obtain ⟨node, above⟩ := c
  match above, h with
  | ⟨parent, sibling :: later⟩ :: above, h =>
      obtain rfl : (⟨sibling, ⟨parent, later⟩ :: above⟩ : Cursor) = next := Option.some.inj h
      simp [pending]

/-- Where there is no next sibling, what is pending is pending at the parent. -/
theorem pending_of_nextSibling?_eq_none {c up : Cursor} (h : c.nextSibling? = none)
    (hup : c.parent? = some up) : c.pending = up.pending := by
  obtain ⟨node, above⟩ := c
  match above, h with
  | ⟨parent, []⟩ :: above, h =>
      obtain rfl : (⟨parent, above⟩ : Cursor) = up := Option.some.inj hup
      simp [pending]

/-- The next of the pending trees is where the cursor moves on to. -/
theorem pending_of_onward? {c next : Cursor} (h : c.onward? = some next) :
    c.pending = next.node :: next.pending := by
  fun_induction onward? c with
  | case1 c sibling hsibling =>
      obtain rfl := Option.some.inj h
      exact pending_of_nextSibling? hsibling
  | case2 c hsibling up hup ih =>
      rw [pending_of_nextSibling?_eq_none hsibling hup]
      exact ih h
  | case3 c hsibling hup => cases h

theorem pending_of_firstChild? {c child : Cursor} (h : c.firstChild? = some child) :
    c.node.children ++ c.pending = child.node :: child.pending := by
  obtain ⟨⟨info, flawed, children⟩, above⟩ := c
  cases children with
  | nil => cases h
  | cons first later =>
      obtain rfl := Option.some.inj h
      simp [pending, Tree.children]

/-- One round of a search: to the first child if the node is entered and has one, and else on past what
is below the node. -/
def advance? (enter : Tree → Bool) (c : Cursor) : Option Cursor :=
  match if enter c.node then c.firstChild? else none with
  | some child => some child
  | none => c.onward?

/-- How many nodes are before a search: the node of the cursor, those below it and those behind. -/
def remaining (c : Cursor) : Nat := Tree.sizeAll (c.node :: c.pending)

theorem remaining_of_advance? {enter : Tree → Bool} {c next : Cursor}
    (h : c.advance? enter = some next) : next.remaining < c.remaining := by
  have hsize : c.remaining = 1 + Tree.sizeAll c.node.children + Tree.sizeAll c.pending := by
    rw [remaining, Tree.sizeAll, Tree.size_eq]
  rw [advance?] at h
  split at h
  · rename_i child hchild
    obtain rfl := Option.some.inj h
    have hmove : c.firstChild? = some child := by
      split at hchild
      · exact hchild
      · cases hchild
    rw [remaining, ← pending_of_firstChild? hmove, Tree.sizeAll_append]
    omega
  · rw [remaining, ← pending_of_onward? h]
    omega

/-- The first node with a property, of the node of a cursor and those behind it. It ends because there
is less before the cursor after every round. -/
def search (enter found : Tree → Bool) (c : Cursor) : Option Tree :=
  if found c.node then some c.node
  else
    match _ : c.advance? enter with
    | some next => next.search enter found
    | none => none
termination_by c.remaining
decreasing_by exact remaining_of_advance? ‹_›

end Cursor

namespace Tree

/-- The first node of one of the given kinds. -/
def firstOfKind (kinds : List String) (t : Tree) : Option Tree :=
  (Cursor.atRoot t).search (fun _ => true) fun u => kinds.contains u.kind

/-- The first flaw. Only nodes whose flag is set are entered. -/
def firstFlaw (t : Tree) : Option Tree := (Cursor.atRoot t).search flawed isFlaw

end Tree

end IssueTrace.Source
