import IssueTrace.Proofs.Source.DocumentOrder
import Mathlib.Data.List.Chain

/-!
# Siblings that do not overlap

A definition ends before the next statement begins.  In an outline this shows in the lines alone: a
function or a class starts before its next sibling, and so does everything in its body.  The extent
of a declaration then reaches from its own line to the line before the next sibling, and behind the
last sibling to where the extent of the enclosing class ends.
-/

namespace IssueTrace.Source

/-- A function or a class. -/
def Declaration.isDefinition : Declaration → Bool
  | .other _ _ => false
  | _ => true

/-- The second of two declarations may be the next sibling of the first. -/
@[mk_iff]
structure Declaration.Precedes (d next : Declaration) : Prop where
  line_le : d.line ≤ next.line
  line_lt : d.isDefinition = true → d.line < next.line
  member_lt : ∀ member ∈ d.body, member.line < next.line

/-- Each declaration of a list may be followed by the next one, at this level and at those inside. -/
inductive Separate : List Declaration → Prop
  | intro {ds : List Declaration} :
      ds.IsChain Declaration.Precedes →
      (∀ d ∈ ds, Separate d.body) →
      Separate ds

theorem Separate.nil : Separate [] :=
  .intro .nil (by simp)

theorem Separate.isChain {ds : List Declaration} (h : Separate ds) :
    ds.IsChain Declaration.Precedes := by
  cases h with
  | intro hchain _ => exact hchain

theorem Separate.body {ds : List Declaration} (h : Separate ds) {d : Declaration} (hd : d ∈ ds) :
    Separate d.body := by
  cases h with
  | intro _ hbody => exact hbody d hd

theorem Separate.precedes {ds : List Declaration} (h : Separate ds) {i : Nat}
    {d next : Declaration} (hd : ds[i]? = some d) (hnext : ds[i + 1]? = some next) :
    d.Precedes next := by
  obtain ⟨hi, rfl⟩ := List.getElem?_eq_some_iff.mp hd
  obtain ⟨hi', rfl⟩ := List.getElem?_eq_some_iff.mp hnext
  exact h.isChain.getElem i hi'

theorem Separate.ascending {ds : List Declaration} (h : Separate ds) : Ascending ds := by
  induction h with
  | @intro ds hchain _ ih =>
      have hlines : ds.IsChain fun d e => d.line ≤ e.line := hchain.imp fun _ _ h => h.line_le
      have htrans : Trans (fun d e : Declaration => d.line ≤ e.line)
          (fun d e : Declaration => d.line ≤ e.line) fun d e : Declaration => d.line ≤ e.line :=
        ⟨Nat.le_trans⟩
      exact .intro hlines.pairwise ih

/-! ## Extents -/

/-- The line at which the extent of a declaration ends, given the one at which that of the enclosing
class ends.  There is none where the extent reaches to the end of the file. -/
def endOf? (siblings : List Declaration) (outer : Option Nat) (i : Nat) : Option Nat :=
  (siblings[i + 1]?.map Declaration.line).or outer

/-- The line lies in the extent of the declaration at a place among its siblings. -/
def InExtent (siblings : List Declaration) (outer : Option Nat) (i line : Nat) : Prop :=
  (∃ d, siblings[i]? = some d ∧ d.line ≤ line) ∧ ∀ bound ∈ endOf? siblings outer i, line < bound

/-- A line before the next sibling and before the end of the enclosing class is before the end. -/
theorem lt_of_mem_endOf? {siblings : List Declaration} {outer : Option Nat} {i line : Nat}
    (hnext : ∀ next, siblings[i + 1]? = some next → line < next.line)
    (houter : ∀ bound ∈ outer, line < bound) : ∀ bound ∈ endOf? siblings outer i, line < bound := by
  intro bound hbound
  unfold endOf? at hbound
  cases hget : siblings[i + 1]? with
  | none =>
      rw [hget] at hbound
      exact houter bound hbound
  | some next =>
      rw [hget] at hbound
      obtain rfl : next.line = bound := Option.some.inj hbound
      exact hnext next hget

end IssueTrace.Source
