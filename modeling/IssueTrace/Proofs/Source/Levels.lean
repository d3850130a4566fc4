import IssueTrace.Proofs.Source.Preorder
import IssueTrace.Source.Outline

/-!
# The levels of an outline

An outline has a list of declarations for the text and one for each class in it.  Each of these lists
comes from one node of the tree: it holds one declaration for each statement below that node, in order
and on the statement's line.
-/

namespace IssueTrace.Source

/-- One of the lists of an outline: that of the text, or that of a class in one of them. -/
inductive IsLevel (top : List Declaration) : List Declaration → Prop
  | top : IsLevel top top
  | body {ds : List Declaration} {d : Declaration} :
      IsLevel top ds → d ∈ ds → IsLevel top d.body

namespace Tree

variable {t : Tree}

/-! ## Statements -/

/-- A named node other than a comment. -/
def isStatement (t : Tree) : Bool := t.info.isNamed && t.kind != "comment"

def statements (t : Tree) : List Tree := t.children.filter isStatement

theorem declarationsOf_eq_map (ts : List Tree) :
    declarationsOf ts = (ts.filter isStatement).map declaration := by
  induction ts with
  | nil => rw [declarationsOf]; rfl
  | cons t ts ih =>
      rw [declarationsOf, ih, List.filter_cons]
      unfold isStatement
      split
      · rfl
      · rfl

/-- There is one declaration for each statement, in order. -/
theorem declarations_eq_map (t : Tree) : t.declarations = t.statements.map declaration :=
  declarationsOf_eq_map t.children

/-- The statement that a declaration stands for. -/
theorem exists_statement_of_mem {d : Declaration} (h : d ∈ t.declarations) :
    ∃ c ∈ t.children, d = c.declaration := by
  rw [declarations_eq_map] at h
  obtain ⟨c, hc, rfl⟩ := List.mem_map.mp h
  exact ⟨c, (List.mem_filter.mp hc).1, rfl⟩

/-! ## The line of a declaration -/

theorem atLine_line (d : Declaration) (line : Nat) : (d.atLine line).line = line := by
  cases d <;> rfl

theorem atLine_body (d : Declaration) (line : Nat) : (d.atLine line).body = d.body := by
  cases d <;> rfl

/-- A declaration starts where its node does, a decorated one at its first decorator. -/
theorem declaration_line (t : Tree) : t.declaration.line = t.line := by
  obtain ⟨info, flawed, children⟩ := t
  unfold declaration
  dsimp only
  split
  · rfl
  · split
    · rfl
    · split
      · split
        · rw [atLine_line]
        · rfl
      · rfl

/-! ## The body of a declaration -/

theorem bodyOf_cases (ts : List Tree) :
    bodyOf ts = [] ∨ ∃ t ∈ ts, bodyOf ts = t.declarations := by
  induction ts with
  | nil => rw [bodyOf]; exact .inl rfl
  | cons t ts ih =>
      obtain ⟨info, flawed, children⟩ := t
      rw [bodyOf]
      split
      · exact .inr ⟨_, List.mem_cons_self, rfl⟩
      · exact ih.imp_right fun ⟨u, hu, hbody⟩ => ⟨u, List.mem_cons_of_mem _ hu, hbody⟩

theorem definitionOf_eq_some {ts : List Tree} {d : Declaration} (h : definitionOf ts = some d) :
    ∃ t ∈ ts, d = t.declaration := by
  induction ts with
  | nil => simp [definitionOf] at h
  | cons t ts ih =>
      rw [definitionOf] at h
      split at h
      · exact ⟨t, List.mem_cons_self, (Option.some.inj h).symm⟩
      · obtain ⟨u, hu, rfl⟩ := ih h
        exact ⟨u, List.mem_cons_of_mem t hu, rfl⟩

/-- The body of a declaration is empty, or holds the declarations of a node below its own. -/
theorem declaration_body_cases (t : Tree) :
    t.declaration.body = [] ∨
      ∃ n ∈ t.preorder, n.size < t.size ∧ t.declaration.body = n.declarations := by
  induction t using induction_on_children with
  | step t ih =>
      have hchild : ∀ c ∈ t.children, c ∈ t.preorder ∧ c.size < t.size := fun c hc =>
        ⟨mem_preorder_of_mem_children hc, size_lt_of_mem_children hc⟩
      obtain ⟨info, flawed, children⟩ := t
      unfold declaration
      dsimp only
      split
      · exact .inl rfl
      · split
        · refine (bodyOf_cases children).imp_right ?_
          rintro ⟨c, hc, hbody⟩
          exact ⟨c, (hchild c hc).1, (hchild c hc).2, hbody⟩
        · split
          · split
            · rename_i d hd
              obtain ⟨c, hc, rfl⟩ := definitionOf_eq_some hd
              rw [atLine_body]
              refine (ih c hc).imp_right ?_
              rintro ⟨n, hn, hsize, hbody⟩
              exact ⟨n, mem_preorder_trans (hchild c hc).1 hn,
                Nat.lt_trans hsize (hchild c hc).2, hbody⟩
            · exact .inl rfl
          · exact .inl rfl

/-- What is in the body of a declaration stands for a node below its own. -/
theorem exists_node_of_mem_body {d : Declaration} (h : d ∈ t.declaration.body) :
    ∃ n ∈ t.preorder, d = n.declaration := by
  rcases declaration_body_cases t with hempty | ⟨n, hn, -, hbody⟩
  · rw [hempty] at h
    simp at h
  · rw [hbody] at h
    obtain ⟨c, hc, rfl⟩ := exists_statement_of_mem h
    exact ⟨c, mem_preorder_trans hn (mem_preorder_of_mem_children hc), rfl⟩

/-- Each list of an outline is empty, or holds the declarations of a node. -/
theorem declarations_of_isLevel {ds : List Declaration} (h : IsLevel t.declarations ds) :
    ds = [] ∨ ∃ n ∈ t.preorder, ds = n.declarations := by
  induction h with
  | top => exact .inr ⟨t, mem_preorder_self t, rfl⟩
  | body _ hd ih =>
      rcases ih with rfl | ⟨n, hn, rfl⟩
      · simp at hd
      · obtain ⟨c, hc, rfl⟩ := exists_statement_of_mem hd
        refine (declaration_body_cases c).imp_right ?_
        rintro ⟨m, hm, -, hbody⟩
        exact ⟨m, mem_preorder_trans hn (mem_preorder_trans (mem_preorder_of_mem_children hc) hm),
          hbody⟩

/-- What holds of the declarations of each node, if it holds of the bodies of these declarations,
holds of the declarations of the tree. -/
theorem declarations_induction {motive : List Declaration → Prop} (t : Tree) (hnil : motive [])
    (step : ∀ n ∈ t.preorder, (∀ d ∈ n.declarations, motive d.body) → motive n.declarations) :
    motive t.declarations := by
  apply step t (mem_preorder_self t)
  intro d hd
  obtain ⟨c, hc, rfl⟩ := exists_statement_of_mem hd
  rcases declaration_body_cases c with hempty | ⟨n, hn, hsize, hown⟩
  · rw [hempty]
    exact hnil
  · have hsmaller : n.size < t.size := Nat.lt_trans hsize (size_lt_of_mem_children hc)
    have hbelow := mem_preorder_trans (mem_preorder_of_mem_children hc) hn
    rw [hown]
    exact declarations_induction n hnil fun m hm => step m (mem_preorder_trans hbelow hm)
termination_by t.size

end Tree

end IssueTrace.Source
