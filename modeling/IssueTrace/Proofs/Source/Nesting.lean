import IssueTrace.Proofs.Source.DocumentOrder
import IssueTrace.Proofs.Source.Siblings

/-!
# Order of lines at every depth

Where the nodes of a tree lie in the order of the text, each within the one above it, and definitions
end on a line before the next statement begins, the same can be read off the lines of an outline: at
every level the lines ascend, and what lies inside a class stands between the line of the class and
that of its next sibling.
-/

namespace IssueTrace.Source

variable {t n : Tree} {d next member : Declaration} {ds : List Declaration}

/-! ## Trees laid out in lines -/

namespace Tree

/-- A function, a class, or one of these behind its decorators. -/
def IsDefinition (t : Tree) : Prop :=
  t.kind = "function_definition" ∨ t.kind = "class_definition" ∨ t.kind = "decorated_definition"

instance (t : Tree) : Decidable t.IsDefinition := inferInstanceAs (Decidable (_ ∨ _ ∨ _))

/-- How the lines of a node and those of its children lie. -/
@[mk_iff]
structure LaidOut (t : Tree) : Prop where
  start_le_stop : t.info.start.row ≤ t.info.stop.row
  /-- The children lie within the node. -/
  within : ∀ c ∈ t.children,
    t.info.start.row ≤ c.info.start.row ∧ c.info.stop.row ≤ t.info.stop.row
  /-- They follow one another. -/
  inOrder : t.children.Pairwise fun c c' => c.info.start.row ≤ c'.info.start.row
  /-- A definition ends on a line before the next one of them, comments left out, begins. -/
  apart : (t.children.filter (·.kind != "comment")).IsChain fun c c' =>
    c.IsDefinition → c.info.stop.row < c'.info.start.row

instance (t : Tree) : Decidable t.LaidOut := decidable_of_iff' _ (laidOut_iff t)

/-- Every node of the tree is laid out in lines. -/
def Placed (t : Tree) : Prop := ∀ n ∈ t.preorder, n.LaidOut

instance (t : Tree) : Decidable t.Placed := inferInstanceAs (Decidable (∀ n ∈ t.preorder, _))

theorem Placed.of_mem (h : t.Placed) (hn : n ∈ t.preorder) : n.Placed :=
  fun _ hm => h _ (mem_preorder_trans hn hm)

theorem Placed.child (h : t.Placed) (hn : n ∈ t.children) : n.Placed :=
  h.of_mem (mem_preorder_of_mem_children hn)

theorem Placed.laidOut (h : t.Placed) : t.LaidOut := h t (mem_preorder_self t)

theorem Placed.bounds (h : t.Placed) (hn : n ∈ t.preorder) :
    t.line ≤ n.line ∧ n.info.start.row ≤ t.info.stop.row := by
  induction t using induction_on_children with
  | step t ih =>
      rcases mem_preorder_iff.mp hn with rfl | ⟨c, hc, hn⟩
      · exact ⟨Nat.le_refl _, h.laidOut.start_le_stop⟩
      · obtain ⟨hstart, hstop⟩ := h.laidOut.within c hc
        obtain ⟨hlow, hhigh⟩ := ih c hc (h.child hc) hn
        exact ⟨(Nat.add_le_add_right hstart 1).trans hlow, hhigh.trans hstop⟩

/-- Among nodes in order, a definition that ends before the next one begins ends before all others. -/
theorem pairwise_of_isChain {cs : List Tree}
    (hsorted : cs.Pairwise fun c c' => c.info.start.row ≤ c'.info.start.row)
    (hapart : cs.IsChain fun c c' => c.IsDefinition → c.info.stop.row < c'.info.start.row) :
    cs.Pairwise fun c c' => c.IsDefinition → c.info.stop.row < c'.info.start.row := by
  induction cs with
  | nil => exact .nil
  | cons c cs ih =>
      have hrest := (List.pairwise_cons.mp hsorted).2
      refine List.pairwise_cons.mpr ⟨?_, ih hrest hapart.tail⟩
      intro c' hc' hdefinition
      cases cs with
      | nil => simp at hc'
      | cons first cs =>
          have hnext := hapart.rel hdefinition
          rcases List.mem_cons.mp hc' with rfl | hc'
          · exact hnext
          · exact hnext.trans_le ((List.pairwise_cons.mp hrest).1 c' hc')

/-- The statements below a node follow one another, and a definition ends before any later one
begins. -/
theorem LaidOut.statements_pairwise (h : t.LaidOut) :
    t.statements.Pairwise fun c c' =>
      c.line ≤ c'.line ∧ (c.IsDefinition → c.info.stop.row < c'.info.start.row) := by
  have hsorted := h.inOrder.sublist (List.filter_sublist (p := fun c => c.kind != "comment"))
  have hsublist : t.statements.Sublist (t.children.filter (·.kind != "comment")) := by
    have hboth : t.statements =
        (t.children.filter (·.kind != "comment")).filter (·.info.isNamed) := by
      unfold statements isStatement
      rw [List.filter_filter]
    rw [hboth]
    exact List.filter_sublist
  refine List.Pairwise.sublist hsublist (hsorted.imp₂ ?_ (pairwise_of_isChain hsorted h.apart))
  intro c c' hstart hstop
  exact ⟨Nat.add_le_add_right hstart 1, hstop⟩

theorem isDefinition_of_declaration (h : t.declaration.isDefinition = true) : t.IsDefinition := by
  obtain ⟨info, flawed, children⟩ := t
  unfold declaration at h
  dsimp only at h
  unfold IsDefinition
  split at h
  · exact .inl ‹_›
  · split at h
    · exact .inr (.inl ‹_›)
    · split at h
      · exact .inr (.inr ‹_›)
      · cases h

end Tree

/-! ## What lies inside a declaration -/

namespace Declaration

/-- A declaration in the body of another, or inside one in that body. -/
inductive IsInside (member : Declaration) : Declaration → Prop
  | member {d : Declaration} : member ∈ d.body → IsInside member d
  | deeper {d e : Declaration} : IsInside member e → e ∈ d.body → IsInside member d

theorem IsInside.isDefinition (h : member.IsInside d) : d.isDefinition = true := by
  have hbody : d.body ≠ [] := by
    cases h with
    | member hmember => exact List.ne_nil_of_mem hmember
    | deeper _ he => exact List.ne_nil_of_mem he
  cases d with
  | other kind line => exact absurd rfl hbody
  | function name line => rfl
  | classDef name line body => rfl

theorem IsInside.exists_node (h : member.IsInside d) {t : Tree} (hd : d = t.declaration) :
    ∃ n ∈ t.preorder, member.line = n.line := by
  induction h generalizing t with
  | member hmember =>
      subst hd
      obtain ⟨c, hc, rfl⟩ := Tree.exists_node_of_mem_body hmember
      exact ⟨c, hc, c.declaration_line⟩
  | deeper _ he ih =>
      subst hd
      obtain ⟨c, hc, rfl⟩ := Tree.exists_node_of_mem_body he
      obtain ⟨n, hn, hline⟩ := ih rfl
      exact ⟨n, Tree.mem_preorder_trans hc hn, hline⟩

end Declaration

namespace Tree

theorem Placed.inside_bounds (h : t.Placed) (hmember : member.IsInside t.declaration) :
    t.line ≤ member.line ∧ member.line ≤ t.info.stop.row + 1 := by
  obtain ⟨n, hn, hline⟩ := hmember.exists_node rfl
  obtain ⟨hlow, hhigh⟩ := h.bounds hn
  rw [hline]
  exact ⟨hlow, Nat.add_le_add_right hhigh 1⟩

/-- What two declarations of a node that follow one another, and what is inside the first, have to do
with one another. -/
theorem Placed.declarations_pairwise (h : t.Placed) :
    t.declarations.Pairwise fun d next =>
      d.line ≤ next.line ∧ (d.isDefinition = true → d.line < next.line) ∧
        ∀ member : Declaration, member.IsInside d → member.line < next.line := by
  rw [declarations_eq_map, List.pairwise_map]
  refine h.laidOut.statements_pairwise.imp_of_mem ?_
  rintro c c' hc - ⟨hline, hapart⟩
  have hplaced : c.Placed := h.child (List.mem_filter.mp hc).1
  simp only [declaration_line]
  refine ⟨hline, ?_, ?_⟩
  · intro hdefinition
    have hstop := hapart (isDefinition_of_declaration hdefinition)
    exact Nat.add_lt_add_right (hplaced.laidOut.start_le_stop.trans_lt hstop) 1
  · intro member hmember
    have hstop := hapart (isDefinition_of_declaration hmember.isDefinition)
    exact (hplaced.inside_bounds hmember).2.trans_lt (Nat.add_lt_add_right hstop 1)

/-- Declarations of a tree laid out in lines may follow one another at every level. -/
theorem Placed.separate (h : t.Placed) : Separate t.declarations := by
  apply declarations_induction t Separate.nil
  intro n hn hbodies
  refine .intro ((h.of_mem hn).declarations_pairwise.isChain.imp ?_) hbodies
  rintro d next ⟨hline, hdefinition, hinside⟩
  exact ⟨hline, hdefinition, fun member hmember => hinside member (.member hmember)⟩

/-- The declarations of any node of a tree laid out in lines stand for its named children other than
comments, in order and on their lines.  At every level the lines ascend, a function or a class begins
before its next sibling, and what is inside a declaration, at any depth, begins no earlier than the
declaration and before its next sibling. -/
theorem Placed.lines_in_order (h : t.Placed) (hn : n ∈ t.preorder) :
    n.declarations =
        (n.children.filter fun c => c.info.isNamed && c.kind != "comment").map declaration ∧
      (∀ c ∈ n.children, c.declaration.line = c.info.start.row + 1) ∧
      ∀ ds, IsLevel n.declarations ds →
        ds.Pairwise (fun d e => d.line ≤ e.line) ∧
        ∀ i d, ds[i]? = some d →
          (∀ member : Declaration, member.IsInside d → d.line ≤ member.line) ∧
          ∀ next, ds[i + 1]? = some next →
            (d.isDefinition = true → d.line < next.line) ∧
              ∀ member : Declaration, member.IsInside d → member.line < next.line := by
  refine ⟨declarations_eq_map n, fun c _ => c.declaration_line, ?_⟩
  intro ds hlevel
  rcases declarations_of_isLevel hlevel with rfl | ⟨m, hm, rfl⟩
  · simp
  · have hplaced := h.of_mem (mem_preorder_trans hn hm)
    have hpairs := hplaced.declarations_pairwise
    refine ⟨hpairs.imp And.left, ?_⟩
    intro i d hd
    constructor
    · intro member hmember
      obtain ⟨c, hc, rfl⟩ := exists_statement_of_mem (List.mem_of_getElem? hd)
      rw [declaration_line]
      exact ((hplaced.child hc).inside_bounds hmember).1
    · intro next hnext
      obtain ⟨hi, rfl⟩ := List.getElem?_eq_some_iff.mp hd
      obtain ⟨hi', rfl⟩ := List.getElem?_eq_some_iff.mp hnext
      exact (List.pairwise_iff_getElem.mp hpairs i (i + 1) hi hi' (Nat.lt_succ_self i)).2

/-! A decorated class with a decorated method and a class in it, between a comment and a function. -/

/-- A node in a field of its parent, on the lines from one row to another. -/
def partOn (field : Option String) (kind : String) (first last : Nat) (children : List Tree) : Tree :=
  .make { kind, isNamed := true, start := ⟨first, 0⟩, stop := ⟨last, 80⟩, field } children

def functionOn (field : Option String) (first last : Nat) : Tree :=
  partOn field "function_definition" first last
    [partOn (some "body") "block" first last [partOn none "pass_statement" last last []]]

def decoratedMethod : Tree :=
  partOn none "decorated_definition" 3 4
    [partOn none "decorator" 3 3 [], functionOn (some "definition") 4 4]

def innerClass : Tree :=
  partOn none "class_definition" 6 7 [partOn (some "body") "block" 7 7 [functionOn none 7 7]]

def decoratedClass : Tree :=
  partOn none "decorated_definition" 1 7
    [partOn none "decorator" 1 1 [],
      partOn (some "definition") "class_definition" 2 7
        [partOn (some "body") "block" 3 7
          [decoratedMethod, partOn none "comment" 5 5 [], innerClass]]]

def nestedTree : Tree :=
  partOn none "module" 0 9 [partOn none "comment" 0 0 [], decoratedClass, functionOn none 8 8]

/-- The class counts from its decorator on; the method of the class in it lies between the two, and
before the function. -/
theorem lines_in_order_of_nested :
    nestedTree.Placed ∧ nestedTree.declarations.map Declaration.line = [2, 9] ∧
      decoratedClass.declaration.body.map Declaration.line = [4, 7] ∧
      (functionOn none 7 7).declaration.IsInside decoratedClass.declaration ∧
      decoratedClass.declaration.line ≤ (functionOn none 7 7).declaration.line ∧
      (functionOn none 7 7).declaration.line < (functionOn none 8 8).declaration.line := by
  have hplaced : nestedTree.Placed := by decide +kernel
  have hinner : innerClass.declaration ∈ decoratedClass.declaration.body :=
    List.mem_of_getElem? (i := 1) rfl
  have hinside : (functionOn none 7 7).declaration.IsInside decoratedClass.declaration :=
    .deeper (.member (List.mem_of_getElem? (i := 0) rfl)) hinner
  obtain ⟨-, -, hlevels⟩ := hplaced.lines_in_order (mem_preorder_self nestedTree)
  obtain ⟨-, hplaces⟩ := hlevels nestedTree.declarations .top
  obtain ⟨hbelow, hnext⟩ := hplaces 0 decoratedClass.declaration rfl
  exact ⟨hplaced, by decide +kernel, by decide +kernel, hinside, hbelow _ hinside,
    (hnext (functionOn none 8 8).declaration rfl).2 _ hinside⟩

end Tree

end IssueTrace.Source
