import IssueTrace.Proofs.Source.Levels
import IssueTrace.Source.Read

/-!
# Document order

A parser lays the nodes of a tree out in the order of the text.  This file carries that order over
to outlines: where the children of every node begin on lines that do not descend, neither do the
lines of the declarations at any level of the outline.
-/

namespace IssueTrace.Source

/-- The children of every node begin on lines that do not descend. -/
inductive Tree.InOrder : Tree → Prop
  | node {info : NodeInfo} {flawed : Bool} {children : List Tree} :
      children.Pairwise (fun t u => t.line ≤ u.line) →
      (∀ t ∈ children, Tree.InOrder t) →
      Tree.InOrder (.node info flawed children)

@[simp]
theorem Tree.make_line (info : NodeInfo) (children : List Tree) :
    (Tree.make info children).line = info.start.row + 1 := rfl

@[simp]
theorem Tree.inOrder_make_iff {info : NodeInfo} {children : List Tree} :
    (Tree.make info children).InOrder ↔
      children.Pairwise (fun t u => t.line ≤ u.line) ∧ ∀ t ∈ children, t.InOrder := by
  constructor
  · intro h
    cases h with
    | node hlines hchildren => exact ⟨hlines, hchildren⟩
  · rintro ⟨hlines, hchildren⟩
    exact .node hlines hchildren

/-- A parser that lays out every text in order. -/
def Parser.KeepsOrder (parser : Parser) : Prop :=
  ∀ text, (parser text).InOrder

/-- The declarations of a list and, level by level, those inside them start on lines that do not
descend. -/
inductive Ascending : List Declaration → Prop
  | intro {ds : List Declaration} :
      ds.Pairwise (fun d e => d.line ≤ e.line) →
      (∀ d ∈ ds, Ascending d.body) →
      Ascending ds

theorem Ascending.pairwise {ds : List Declaration} (h : Ascending ds) :
    ds.Pairwise fun d e => d.line ≤ e.line := by
  cases h with
  | intro hpairwise _ => exact hpairwise

theorem Ascending.body {ds : List Declaration} (h : Ascending ds)
    {d : Declaration} (hd : d ∈ ds) : Ascending d.body := by
  cases h with
  | intro _ hbody => exact hbody d hd

theorem Ascending.nil : Ascending [] :=
  .intro .nil (by simp)

namespace Tree

theorem InOrder.mem_preorder {t n : Tree} (h : t.InOrder) (hn : n ∈ t.preorder) : n.InOrder := by
  induction h with
  | @node info flawed children hlines hchildren ih =>
      rcases mem_preorder_iff.mp hn with rfl | ⟨c, hc, hn⟩
      · exact .node hlines hchildren
      · exact ih c hc hn

theorem InOrder.pairwise_children {t : Tree} (h : t.InOrder) :
    t.children.Pairwise fun t u => t.line ≤ u.line := by
  cases h with
  | node hlines _ => exact hlines

/-- The statements among some nodes keep their order. -/
theorem declarations_pairwise {t : Tree} (h : t.children.Pairwise fun t u => t.line ≤ u.line) :
    t.declarations.Pairwise fun d e => d.line ≤ e.line := by
  rw [declarations_eq_map, List.pairwise_map]
  simp only [declaration_line]
  exact h.sublist List.filter_sublist

theorem InOrder.declarations_ascending {t : Tree} (h : t.InOrder) : Ascending t.declarations := by
  apply declarations_induction t Ascending.nil
  intro n hn hbodies
  exact .intro (declarations_pairwise (h.mem_preorder hn).pairwise_children) hbodies

end Tree

/-! ## Outlines that were read -/

/-- What an accepted text's outline holds. -/
theorem readOutlineBy_eq_ok {parser : Parser} {text origin : String} {outline : Outline}
    (h : readOutlineBy parser text origin = .ok outline) :
    outline.declarations = (parser text).declarations ∧
      outline.lineCount = (text.toList.filter (· == '\n')).length := by
  unfold readOutlineBy Outline.ofTree at h
  cases hselect : Outline.select (parser text) Dialect.order with
  | error refusals =>
      rw [hselect] at h
      cases h
  | ok dialect =>
      rw [hselect] at h
      cases h
      exact ⟨rfl, rfl⟩

theorem Parser.KeepsOrder.ascending {parser : Parser} (hparser : parser.KeepsOrder)
    {text origin : String} {outline : Outline}
    (h : readOutlineBy parser text origin = .ok outline) : Ascending outline.declarations := by
  rw [(readOutlineBy_eq_ok h).1]
  exact (hparser text).declarations_ascending

end IssueTrace.Source
