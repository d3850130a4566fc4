import IssueTrace.Source.Search
import Mathlib.Data.List.Basic

/-!
# Document order of nodes

The nodes of a tree in document order are the node itself and then those of its children, one child
after another.  The flags of a tree are exact if they tell of each node whether there is a flaw in it or
below it.
-/

namespace IssueTrace.Source.Tree

variable {t n m : Tree} {ts us : List Tree} {found : Tree → Bool}

/-! ## The nodes of a tree -/

theorem preorder_eq (t : Tree) : t.preorder = t :: preorderAll t.children := by
  cases t with
  | node info flawed nodes => rw [preorder]; rfl

@[simp]
theorem preorderAll_nil : preorderAll [] = [] := by
  rw [preorderAll]

@[simp]
theorem preorderAll_cons : preorderAll (t :: ts) = t.preorder ++ preorderAll ts := by
  rw [preorderAll]

theorem preorderAll_append : preorderAll (ts ++ us) = preorderAll ts ++ preorderAll us := by
  induction ts with
  | nil => simp
  | cons t ts ih => simp [ih]

theorem mem_preorder_self (t : Tree) : t ∈ t.preorder := by
  rw [preorder_eq]
  exact List.mem_cons_self

theorem mem_preorderAll : n ∈ preorderAll ts ↔ ∃ t ∈ ts, n ∈ t.preorder := by
  induction ts with
  | nil => simp
  | cons t ts ih => simp [ih]

/-- A node is the tree itself or a node of one of its children. -/
theorem mem_preorder_iff : n ∈ t.preorder ↔ n = t ∨ ∃ u ∈ t.children, n ∈ u.preorder := by
  rw [preorder_eq, List.mem_cons, mem_preorderAll]

theorem size_lt_of_mem_children (h : n ∈ t.children) : n.size < t.size := by
  obtain ⟨before, behind, hchildren⟩ := List.append_of_mem h
  rw [size_eq t, hchildren, sizeAll_append, sizeAll]
  omega

/-- What holds of a node if it holds of its children holds of every tree. -/
@[elab_as_elim]
theorem induction_on_children {motive : Tree → Prop} (t : Tree)
    (step : ∀ t, (∀ c ∈ t.children, motive c) → motive t) : motive t :=
  step t fun c _ => induction_on_children c step
termination_by t.size
decreasing_by exact size_lt_of_mem_children ‹_›

/-- A node of a node of a tree is a node of the tree. -/
theorem mem_preorder_trans (hn : n ∈ t.preorder) (hm : m ∈ n.preorder) : m ∈ t.preorder := by
  induction t using induction_on_children with
  | step t ih =>
      rcases mem_preorder_iff.mp hn with rfl | ⟨u, hu, hn⟩
      · exact hm
      · exact mem_preorder_iff.mpr (.inr ⟨u, hu, ih u hu hn⟩)

theorem mem_preorder_of_mem_children (h : n ∈ t.children) : n ∈ t.preorder :=
  mem_preorder_iff.mpr (.inr ⟨n, h, mem_preorder_self n⟩)

/-- The first node of a tree, in document order, that has a property. -/
def IsFirst (p : Tree → Prop) (t n : Tree) : Prop :=
  ∃ before behind, t.preorder = before ++ n :: behind ∧ p n ∧ ∀ m ∈ before, ¬ p m

theorem find?_eq_some_iff_isFirst :
    t.preorder.find? found = some n ↔ t.IsFirst (fun m => found m = true) n := by
  rw [List.find?_eq_some_iff_append, IsFirst]
  constructor
  · rintro ⟨hfound, before, behind, hsplit, hbefore⟩
    exact ⟨before, behind, hsplit, hfound, fun m hm => by simpa using hbefore m hm⟩
  · rintro ⟨before, behind, hsplit, hfound, hbefore⟩
    exact ⟨hfound, before, behind, hsplit, fun m hm => by simpa using hbefore m hm⟩

/-! ## Flags -/

/-- The flag of each node tells whether there is a flaw in it or below it. -/
def FlagsExact (t : Tree) : Prop :=
  ∀ n ∈ t.preorder, (n.flawed = true ↔ ∃ m ∈ n.preorder, m.isFlaw = true)

instance (t : Tree) : Decidable t.FlagsExact :=
  inferInstanceAs (Decidable (∀ n ∈ t.preorder, _ ↔ _))

theorem FlagsExact.flawed_eq_false_iff (h : t.FlagsExact) :
    t.flawed = false ↔ ∀ n ∈ t.preorder, n.isFlaw = false := by
  rw [← Bool.not_eq_true, h t (mem_preorder_self t)]
  simp

end IssueTrace.Source.Tree
