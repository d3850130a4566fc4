import IssueTrace.Proofs.Source.Preorder
import IssueTrace.Source.Dialect

/-!
# Searching with a cursor

A cursor has the nodes ahead of it in document order: its node, what is below it, and what is behind.
One round of a search leaves of these the nodes behind the one looked at, less those below a node that
is passed over.  So the loops of a search, which only move a cursor about, find the first node in
document order, as long as nothing that is looked for lies below a node passed over.
-/

namespace IssueTrace.Source

open IssueTrace.Source.Tree (preorderAll preorderAll_append preorderAll_cons preorder_eq)

namespace Cursor

variable {c next : Cursor} {enter found : Tree → Bool}

/-- The node of a cursor and all nodes that follow it in document order. -/
def ahead (c : Cursor) : List Tree := preorderAll (c.node :: c.pending)

theorem ahead_eq_node_cons (c : Cursor) :
    c.ahead = c.node :: (preorderAll c.node.children ++ preorderAll c.pending) := by
  rw [ahead, preorderAll_cons, preorder_eq, List.cons_append]

theorem node_mem_ahead (c : Cursor) : c.node ∈ c.ahead := by
  rw [ahead_eq_node_cons]
  exact List.mem_cons_self

theorem pending_of_onward?_eq_none (h : c.onward? = none) : c.pending = [] := by
  fun_induction onward? c with
  | case1 c sibling hsibling => cases h
  | case2 c hsibling up hup ih =>
      rw [pending_of_nextSibling?_eq_none hsibling hup]
      exact ih h
  | case3 c hsibling hup =>
      obtain ⟨node, above⟩ := c
      cases above with
      | nil => rfl
      | cons branch above => cases hup

theorem children_of_firstChild?_eq_none (h : c.firstChild? = none) : c.node.children = [] := by
  rw [firstChild?] at h
  split at h
  · assumption
  · cases h

/-- Moving on leaves what is pending ahead. -/
theorem preorderAll_pending (c : Cursor) :
    preorderAll c.pending = c.onward?.elim [] ahead := by
  cases h : c.onward? with
  | none => rw [pending_of_onward?_eq_none h, Tree.preorderAll_nil, Option.elim_none]
  | some next => rw [pending_of_onward? h, Option.elim_some, ahead]

/-- One round looks at the node, passes over what is below it unless the node is entered, and leaves
the rest ahead. -/
theorem ahead_eq_advance (enter : Tree → Bool) (c : Cursor) :
    c.ahead = c.node :: ((if enter c.node then [] else preorderAll c.node.children) ++
      (c.advance? enter).elim [] ahead) := by
  rw [ahead_eq_node_cons, advance?]
  by_cases henter : enter c.node = true
  · rw [if_pos henter, if_pos henter]
    cases hchild : c.firstChild? with
    | none =>
        dsimp only
        rw [children_of_firstChild?_eq_none hchild, Tree.preorderAll_nil, preorderAll_pending]
    | some child =>
        dsimp only
        rw [← preorderAll_append, pending_of_firstChild? hchild, List.nil_append,
          Option.elim_some, ahead]
  · rw [if_neg henter, if_neg henter]
    dsimp only
    rw [preorderAll_pending]

theorem ahead_suffix (h : c.advance? enter = some next) : next.ahead <:+ c.ahead := by
  rw [ahead_eq_advance enter c, h, Option.elim_some, ← List.cons_append]
  exact List.suffix_append _ _

/-- Nothing that is looked for lies below a node that is passed over. -/
def PassesOverNone (enter found : Tree → Bool) (nodes : List Tree) : Prop :=
  ∀ n ∈ nodes, enter n = false → ∀ m ∈ preorderAll n.children, found m = false

theorem PassesOverNone.find?_skipped (h : PassesOverNone enter found c.ahead) :
    (if enter c.node then [] else preorderAll c.node.children).find? found = none := by
  by_cases henter : enter c.node = true
  · rw [if_pos henter, List.find?_nil]
  · rw [if_neg henter, List.find?_eq_none]
    intro m hm
    simpa using h c.node c.node_mem_ahead (by simpa using henter) m hm

/-- A search finds the first node ahead, if it passes over nothing that it looks for. -/
theorem search_eq_find? (h : PassesOverNone enter found c.ahead) :
    c.search enter found = c.ahead.find? found := by
  fun_induction search enter found c with
  | case1 c hfound => rw [ahead_eq_node_cons, List.find?_cons_of_pos hfound]
  | case2 c hfound next hnext ih =>
      rw [ih fun n hn => h n ((ahead_suffix hnext).subset hn), ahead_eq_advance enter c,
        List.find?_cons_of_neg hfound, List.find?_append, h.find?_skipped, hnext, Option.none_or,
        Option.elim_some]
  | case3 c hfound hnext =>
      rw [ahead_eq_advance enter c, List.find?_cons_of_neg hfound, List.find?_append,
        h.find?_skipped, hnext, Option.none_or, Option.elim_none, List.find?_nil]

theorem ahead_atRoot (t : Tree) : (atRoot t).ahead = t.preorder := by
  rw [ahead, preorderAll_cons, atRoot, pending, List.flatMap_nil, Tree.preorderAll_nil,
    List.append_nil]

end Cursor

namespace Tree

variable {t : Tree}

/-- A search that enters every node passes over none. -/
theorem firstOfKind_eq_find? (kinds : List String) (t : Tree) :
    t.firstOfKind kinds = t.preorder.find? fun n => kinds.contains n.kind := by
  rw [firstOfKind, Cursor.search_eq_find?, Cursor.ahead_atRoot]
  intro n _ henter
  cases henter

/-- With exact flags the first flaw is found, though nodes without one below them are not entered. -/
theorem FlagsExact.firstFlaw_eq_find? (h : t.FlagsExact) :
    t.firstFlaw = t.preorder.find? isFlaw := by
  rw [firstFlaw, Cursor.search_eq_find?, Cursor.ahead_atRoot]
  intro n hn hflawed m hm
  rw [Cursor.ahead_atRoot] at hn
  have hbelow : m ∈ n.preorder := by
    rw [preorder_eq]
    exact List.mem_cons_of_mem n hm
  by_contra hflaw
  rw [(h n hn).mpr ⟨m, hbelow, by simpa using hflaw⟩] at hflawed
  cases hflawed

/-- A tree whose flag is set has a first flaw. -/
theorem FlagsExact.exists_firstFlaw (h : t.FlagsExact) (hflawed : t.flawed = true) :
    ∃ n, t.firstFlaw = some n := by
  obtain ⟨m, hm, hflaw⟩ := (h t t.mem_preorder_self).mp hflawed
  rw [h.firstFlaw_eq_find?, ← Option.isSome_iff_exists, List.find?_isSome]
  exact ⟨m, hm, hflaw⟩

theorem refusal?_of_firstFlaw {n : Tree} (d : Dialect) (hflawed : t.flawed = true)
    (hn : t.firstFlaw = some n) :
    d.refusal? t = some (.syntaxError (n.info.start.row + 1) (n.info.start.column + 1)) := by
  rw [Dialect.refusal?, if_pos hflawed, hn]

/-- Every search of a tree by a cursor ends.  The search for kinds gives the first node in document
order of one of the kinds, and nothing exactly if there is none.  If the flags are exact, the search
for a flaw, which passes over what is below a node without the flag, gives what a search of all nodes
gives; where the flag of the whole tree is set it gives a node, and every dialect names the place of
that node, counted from one. -/
theorem searches_in_document_order (t : Tree) (kinds : List String) :
    t.firstOfKind kinds = t.preorder.find? (fun n => kinds.contains n.kind) ∧
    (∀ n, t.firstOfKind kinds = some n ↔ t.IsFirst (fun m => m.kind ∈ kinds) n) ∧
    (t.firstOfKind kinds = none ↔ ∀ n ∈ t.preorder, n.kind ∉ kinds) ∧
    (t.FlagsExact →
      t.firstFlaw = t.preorder.find? isFlaw ∧
      (t.flawed = true → ∃ n, t.firstFlaw = some n ∧ t.IsFirst (fun m => m.isFlaw = true) n ∧
        ∀ d : Dialect, d.refusal? t =
          some (.syntaxError (n.info.start.row + 1) (n.info.start.column + 1))) ∧
      ∀ (d : Dialect) line column, d.refusal? t = some (.syntaxError line column) →
        0 < line ∧ 0 < column) := by
  refine ⟨firstOfKind_eq_find? kinds t, ?_, ?_, ?_⟩
  · intro n
    rw [firstOfKind_eq_find?, find?_eq_some_iff_isFirst]
    simp only [List.contains_iff_mem]
  · rw [firstOfKind_eq_find?, List.find?_eq_none]
    simp only [List.contains_iff_mem]
  · intro hflags
    refine ⟨hflags.firstFlaw_eq_find?, ?_, ?_⟩
    · intro hflawed
      obtain ⟨n, hn⟩ := hflags.exists_firstFlaw hflawed
      refine ⟨n, hn, ?_, fun d => refusal?_of_firstFlaw d hflawed hn⟩
      rw [← find?_eq_some_iff_isFirst, ← hflags.firstFlaw_eq_find?, hn]
    · intro d line column hrefusal
      by_cases hflawed : t.flawed = true
      · obtain ⟨n, hn⟩ := hflags.exists_firstFlaw hflawed
        rw [refusal?_of_firstFlaw d hflawed hn, Option.some.injEq, Refusal.syntaxError.injEq]
          at hrefusal
        omega
      · rw [Dialect.refusal?, if_neg hflawed, Option.map_eq_some_iff] at hrefusal
        obtain ⟨n, -, hn⟩ := hrefusal
        cases hn

/-- The tree of a text with a name on its first line and a sign out of place on its second. -/
def strayTree : Tree :=
  .make { kind := "module", isNamed := true, start := ⟨0, 0⟩, stop := ⟨2, 0⟩ }
    [.make { kind := "expression_statement", isNamed := true, start := ⟨0, 0⟩, stop := ⟨0, 1⟩ }
      [.make { kind := "identifier", isNamed := true, start := ⟨0, 0⟩, stop := ⟨0, 1⟩, text := "x" }
        []],
      .make
        { kind := "ERROR", isNamed := true, flaw := some .error, start := ⟨1, 0⟩, stop := ⟨1, 1⟩ }
        [.make { kind := "$", isNamed := false, start := ⟨1, 0⟩, stop := ⟨1, 1⟩ } []]]

/-- The statement on the first line is passed over, and the flaw behind it is found. -/
theorem searches_in_document_order_of_stray :
    strayTree.FlagsExact ∧ strayTree.flawed = true ∧
      strayTree.firstFlaw = strayTree.preorder.find? isFlaw ∧
      ∃ n, strayTree.firstFlaw = some n ∧ strayTree.IsFirst (fun m => m.isFlaw = true) n ∧
        ∀ d : Dialect, d.refusal? strayTree =
          some (.syntaxError (n.info.start.row + 1) (n.info.start.column + 1)) := by
  have hflags : strayTree.FlagsExact := by decide +kernel
  have hflawed : strayTree.flawed = true := by decide +kernel
  obtain ⟨-, -, -, hfirst⟩ := searches_in_document_order strayTree []
  obtain ⟨hsame, hfound, -⟩ := hfirst hflags
  exact ⟨hflags, hflawed, hsame, hfound hflawed⟩

end Tree

end IssueTrace.Source
