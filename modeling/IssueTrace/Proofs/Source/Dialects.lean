import IssueTrace.Proofs.Source.Cursor
import IssueTrace.Source.Read

/-!
# Which dialect takes a text

A dialect takes a tree that has no flaw and no node of a kind it does not know, and otherwise names one
node of the tree.  The first dialect has the first word: the second one is taken only if the first
refuses, and if both refuse, the failure holds what each of them named.
-/

namespace IssueTrace.Source

open IssueTrace.Source.Tree (FlagsExact)

variable {d : Dialect} {t : Tree} {r : Refusal}

namespace Dialect

/-- The node is one that the dialect does not take: a flaw, or of a kind that it does not know. -/
def Rejects (d : Dialect) (n : Tree) : Prop := n.isFlaw = true ∨ n.kind ∈ d.foreignKinds

instance (d : Dialect) (n : Tree) : Decidable (d.Rejects n) := inferInstanceAs (Decidable (_ ∨ _))

/-- What a dialect names in a tree that it refuses: the first flaw if there is one, and else the first
node of a kind that it does not know. -/
inductive Names (d : Dialect) (t : Tree) : Refusal → Prop
  | syntaxError {n : Tree} : t.IsFirst (fun m => m.isFlaw = true) n →
      Names d t (.syntaxError (n.info.start.row + 1) (n.info.start.column + 1))
  | unsupported {n : Tree} : (∀ m ∈ t.preorder, m.isFlaw = false) →
      t.IsFirst (fun m => m.kind ∈ d.foreignKinds) n → Names d t (.unsupported n.kind n.line)

/-- A dialect says nothing against a tree exactly if it rejects no node of it. -/
theorem refusal?_eq_none_iff (h : t.FlagsExact) :
    d.refusal? t = none ↔ ∀ n ∈ t.preorder, ¬ d.Rejects n := by
  unfold refusal? Rejects
  by_cases hflawed : t.flawed = true
  · obtain ⟨n, hn, hflaw⟩ := (h t t.mem_preorder_self).mp hflawed
    rw [if_pos hflawed]
    constructor
    · intro hnone
      split at hnone
      · cases hnone
      · cases hnone
    · intro hall
      exact absurd (.inl hflaw) (hall n hn)
  · have hsound := h.flawed_eq_false_iff.mp (by simpa using hflawed)
    rw [if_neg hflawed, Option.map_eq_none_iff, Tree.firstOfKind_eq_find?, List.find?_eq_none]
    constructor
    · intro hkinds n hn hrejected
      rcases hrejected with hflaw | hkind
      · rw [hsound n hn] at hflaw
        cases hflaw
      · exact hkinds n hn (by simpa using hkind)
    · intro hall n hn hkind
      exact hall n hn (.inr (by simpa using hkind))

theorem names_of_refusal? (h : t.FlagsExact) (hr : d.refusal? t = some r) : d.Names t r := by
  unfold refusal? at hr
  by_cases hflawed : t.flawed = true
  · rw [if_pos hflawed, h.firstFlaw_eq_find?] at hr
    cases hfind : t.preorder.find? Tree.isFlaw with
    | some n =>
        rw [hfind] at hr
        rw [← Option.some.inj hr]
        exact .syntaxError (Tree.find?_eq_some_iff_isFirst.mp hfind)
    | none =>
        obtain ⟨n, hn, hflaw⟩ := (h t t.mem_preorder_self).mp hflawed
        exact absurd hflaw (List.find?_eq_none.mp hfind n hn)
  · rw [if_neg hflawed, Option.map_eq_some_iff] at hr
    obtain ⟨n, hn, rfl⟩ := hr
    rw [Tree.firstOfKind_eq_find?] at hn
    have hfirst := Tree.find?_eq_some_iff_isFirst.mp hn
    simp only [List.contains_iff_mem] at hfirst
    exact .unsupported (h.flawed_eq_false_iff.mp (by simpa using hflawed)) hfirst

end Dialect

/-! ## Both dialects -/

theorem Outline.select_order (t : Tree) :
    Outline.select t Dialect.order =
      match Dialect.legacy.refusal? t, Dialect.modern.refusal? t with
      | none, _ => .ok .legacy
      | some _, none => .ok .modern
      | some r, some r' => .error [(.legacy, r), (.modern, r')] := by
  unfold Dialect.order
  rw [Outline.select, Outline.select, Outline.select]
  cases Dialect.legacy.refusal? t with
  | none => rfl
  | some r =>
      cases Dialect.modern.refusal? t with
      | none => rfl
      | some r' => rfl

/-- The outline of a text in a dialect: its declarations and the number of its line feeds. -/
def outlineIn (d : Dialect) (text : String) (t : Tree) : Outline :=
  ⟨d, t.declarations, text.toList.count '\n'⟩

theorem readOutlineBy_eq (parser : Parser) (text origin : String) :
    readOutlineBy parser text origin =
      match Dialect.legacy.refusal? (parser text), Dialect.modern.refusal? (parser text) with
      | none, _ => .ok (outlineIn .legacy text (parser text))
      | some _, none => .ok (outlineIn .modern text (parser text))
      | some r, some r' => .error (.parseFailure origin
          [Dialect.legacy.refusalMessage r, Dialect.modern.refusalMessage r']) := by
  have hfeeds : (text.toList.filter (· == '\n')).length = text.toList.count '\n' :=
    List.count_eq_length_filter.symm
  unfold readOutlineBy Outline.ofTree
  rw [Outline.select_order, hfeeds]
  cases Dialect.legacy.refusal? (parser text) with
  | none => rfl
  | some r =>
      cases Dialect.modern.refusal? (parser text) with
      | none => rfl
      | some r' => rfl

/-- A text is read in the first dialect that rejects no node of its tree. -/
theorem readOutlineBy_eq_ok_iff {parser : Parser} {text origin : String}
    (h : (parser text).FlagsExact) {outline : Outline} :
    readOutlineBy parser text origin = .ok outline ↔
      outline = outlineIn .legacy text (parser text) ∧
          (∀ n ∈ (parser text).preorder, ¬ Dialect.legacy.Rejects n) ∨
        outline = outlineIn .modern text (parser text) ∧
          (∃ n ∈ (parser text).preorder, Dialect.legacy.Rejects n) ∧
          ∀ n ∈ (parser text).preorder, ¬ Dialect.modern.Rejects n := by
  have hsome : (∃ n ∈ (parser text).preorder, Dialect.legacy.Rejects n) ↔
      ¬ ∀ n ∈ (parser text).preorder, ¬ Dialect.legacy.Rejects n := by
    simp
  rw [hsome, readOutlineBy_eq, ← Dialect.refusal?_eq_none_iff h, ← Dialect.refusal?_eq_none_iff h]
  cases Dialect.legacy.refusal? (parser text) with
  | none => simp [eq_comm]
  | some r =>
      cases Dialect.modern.refusal? (parser text) with
      | none => simp [eq_comm]
      | some r' => simp

/-- A text of which each dialect rejects a node is refused, with what both of them name. -/
theorem exists_readOutlineBy_eq_error {parser : Parser} {text : String} (origin : String)
    (h : (parser text).FlagsExact)
    (hlegacy : ∃ n ∈ (parser text).preorder, Dialect.legacy.Rejects n)
    (hmodern : ∃ n ∈ (parser text).preorder, Dialect.modern.Rejects n) :
    ∃ r r', Dialect.legacy.Names (parser text) r ∧ Dialect.modern.Names (parser text) r' ∧
      readOutlineBy parser text origin = .error (.parseFailure origin
        [Dialect.legacy.refusalMessage r, Dialect.modern.refusalMessage r']) := by
  have hrefused : ∀ d : Dialect, (∃ n ∈ (parser text).preorder, d.Rejects n) →
      ∃ r, d.refusal? (parser text) = some r := by
    rintro d ⟨n, hn, hrejected⟩
    rw [← Option.ne_none_iff_exists', ne_eq, Dialect.refusal?_eq_none_iff h]
    exact fun hall => hall n hn hrejected
  obtain ⟨r, hr⟩ := hrefused .legacy hlegacy
  obtain ⟨r', hr'⟩ := hrefused .modern hmodern
  refine ⟨r, r', Dialect.names_of_refusal? h hr, Dialect.names_of_refusal? h hr', ?_⟩
  rw [readOutlineBy_eq, hr, hr']

/-- A text is read in the older dialect exactly if its tree has no flaw and no node of a kind of the
newer one, and in the newer dialect exactly if it has no flaw, a node of a kind of the newer one and
none of the older.  The outline holds the declarations of the tree and the number of line feeds.  Any
other text is refused, with what each dialect names: the first flaw of the tree if it has one, and
else the first node of a kind of the other dialect. -/
theorem readOutlineBy_selects {parser : Parser} {text : String} (origin : String)
    (h : (parser text).FlagsExact) :
    ((∃ outline, readOutlineBy parser text origin = .ok outline ∧ outline.dialect = .legacy) ↔
      (∀ n ∈ (parser text).preorder, n.isFlaw = false) ∧
        ∀ n ∈ (parser text).preorder, n.kind ∉ modernKinds) ∧
    ((∃ outline, readOutlineBy parser text origin = .ok outline ∧ outline.dialect = .modern) ↔
      (∀ n ∈ (parser text).preorder, n.isFlaw = false) ∧
        (∃ n ∈ (parser text).preorder, n.kind ∈ modernKinds) ∧
        ∀ n ∈ (parser text).preorder, n.kind ∉ legacyKinds) ∧
    (∀ outline, readOutlineBy parser text origin = .ok outline →
      outline.declarations = (parser text).declarations ∧
        outline.lineCount = text.toList.count '\n') ∧
    ((∃ n ∈ (parser text).preorder, n.isFlaw = true) ∨
        (∃ n ∈ (parser text).preorder, n.kind ∈ modernKinds) ∧
          (∃ n ∈ (parser text).preorder, n.kind ∈ legacyKinds) →
      ∃ r r', Dialect.legacy.Names (parser text) r ∧ Dialect.modern.Names (parser text) r' ∧
        readOutlineBy parser text origin = .error (.parseFailure origin
          [Dialect.legacy.refusalMessage r, Dialect.modern.refusalMessage r'])) := by
  have hnone : ∀ d : Dialect, (∀ n ∈ (parser text).preorder, ¬ d.Rejects n) ↔
      (∀ n ∈ (parser text).preorder, n.isFlaw = false) ∧
        ∀ n ∈ (parser text).preorder, n.kind ∉ d.foreignKinds := by
    intro d
    simp only [Dialect.Rejects, not_or, Bool.not_eq_true, forall_and]
  refine ⟨?_, ?_, ?_, ?_⟩
  · rw [show modernKinds = Dialect.legacy.foreignKinds from rfl, ← hnone]
    simp only [readOutlineBy_eq_ok_iff h]
    constructor
    · rintro ⟨outline, ⟨-, hlegacy⟩ | ⟨rfl, -⟩, hdialect⟩
      · exact hlegacy
      · cases hdialect
    · intro hlegacy
      exact ⟨_, .inl ⟨rfl, hlegacy⟩, rfl⟩
  · simp only [readOutlineBy_eq_ok_iff h]
    constructor
    · rintro ⟨outline, ⟨rfl, -⟩ | ⟨-, ⟨n, hn, hrejected⟩, hmodern⟩, hdialect⟩
      · cases hdialect
      · obtain ⟨hsound, hkinds⟩ := (hnone .modern).mp hmodern
        refine ⟨hsound, ⟨n, hn, hrejected.resolve_left ?_⟩, hkinds⟩
        rw [hsound n hn]
        exact Bool.false_ne_true
    · rintro ⟨hsound, ⟨n, hn, hkind⟩, hkinds⟩
      exact ⟨_, .inr ⟨rfl, ⟨n, hn, .inr hkind⟩, (hnone .modern).mpr ⟨hsound, hkinds⟩⟩, rfl⟩
  · intro outline houtline
    rcases (readOutlineBy_eq_ok_iff h).mp houtline with ⟨rfl, -⟩ | ⟨rfl, -⟩
    · exact ⟨rfl, rfl⟩
    · exact ⟨rfl, rfl⟩
  · rintro (⟨n, hn, hflaw⟩ | ⟨⟨n, hn, hkind⟩, ⟨n', hn', hkind'⟩⟩)
    · exact exists_readOutlineBy_eq_error origin h ⟨n, hn, .inl hflaw⟩ ⟨n, hn, .inl hflaw⟩
    · exact exists_readOutlineBy_eq_error origin h ⟨n, hn, .inr hkind⟩ ⟨n', hn', .inr hkind'⟩

/-! ## Three small texts -/

/-- A named node between two places. -/
def nodeAt (kind : String) (start stop : Point) (children : List Tree) : Tree :=
  .make { kind, isNamed := true, start, stop } children

/-- A keyword or a sign. -/
def signAt (kind : String) (start stop : Point) : Tree :=
  .make { kind, isNamed := false, start, stop } []

/-- The tree of `nonlocal x`. -/
def nonlocalTree : Tree :=
  nodeAt "nonlocal_statement" ⟨0, 0⟩ ⟨0, 10⟩
    [signAt "nonlocal" ⟨0, 0⟩ ⟨0, 8⟩, nodeAt "identifier" ⟨0, 9⟩ ⟨0, 10⟩ []]

def newerTree : Tree := nodeAt "module" ⟨0, 0⟩ ⟨1, 0⟩ [nonlocalTree]

/-- The tree of `nonlocal x` and `print x` on two lines. -/
def mixedTree : Tree :=
  nodeAt "module" ⟨0, 0⟩ ⟨2, 0⟩
    [nonlocalTree,
      nodeAt "print_statement" ⟨1, 0⟩ ⟨1, 7⟩
        [signAt "print" ⟨1, 0⟩ ⟨1, 5⟩, nodeAt "identifier" ⟨1, 6⟩ ⟨1, 7⟩ []]]

/-- The first text is read in the newer dialect, and in the second each dialect rejects a statement of
the other. -/
theorem readOutlineBy_selects_of_statements :
    (∃ outline, readOutlineBy (fun _ => newerTree) "nonlocal x\n" "x.py" = .ok outline ∧
      outline.dialect = .modern) ∧
    ∃ r r', Dialect.legacy.Names mixedTree r ∧ Dialect.modern.Names mixedTree r' ∧
      readOutlineBy (fun _ => mixedTree) "nonlocal x\nprint x\n" "x.py" =
        .error (.parseFailure "x.py"
          [Dialect.legacy.refusalMessage r, Dialect.modern.refusalMessage r']) := by
  have hnewer : newerTree.FlagsExact := by decide +kernel
  have hmixed : mixedTree.FlagsExact := by decide +kernel
  have hselect := @readOutlineBy_selects (fun _ => newerTree) "nonlocal x\n" "x.py" hnewer
  have hrefuse := @readOutlineBy_selects (fun _ => mixedTree) "nonlocal x\nprint x\n" "x.py" hmixed
  refine ⟨hselect.2.1.mpr ⟨?_, ?_, ?_⟩, hrefuse.2.2.2 (.inr ⟨?_, ?_⟩)⟩
  all_goals decide +kernel

/-- The tree of `nonlocal x` and `y = $z` on two lines. -/
def faultyTree : Tree :=
  nodeAt "module" ⟨0, 0⟩ ⟨2, 0⟩
    [nonlocalTree,
      nodeAt "expression_statement" ⟨1, 0⟩ ⟨1, 6⟩
        [nodeAt "assignment" ⟨1, 0⟩ ⟨1, 6⟩
          [nodeAt "identifier" ⟨1, 0⟩ ⟨1, 1⟩ [], signAt "=" ⟨1, 2⟩ ⟨1, 3⟩,
            .make
              { kind := "ERROR", isNamed := true, flaw := some .error, start := ⟨1, 4⟩,
                stop := ⟨1, 5⟩ } [signAt "$" ⟨1, 4⟩ ⟨1, 5⟩],
            nodeAt "identifier" ⟨1, 5⟩ ⟨1, 6⟩ []]]]

/-- A flaw hides a node of a foreign kind before it: the first node that the older dialect rejects is
the statement on the first line, but what it names is the flaw on the second. -/
theorem syntaxError_hides_rejected_statement :
    faultyTree.FlagsExact ∧
      (∃ n, faultyTree.IsFirst Dialect.legacy.Rejects n ∧
        n.kind = "nonlocal_statement" ∧ n.line = 1 ∧ n.isFlaw = false) ∧
      readOutlineBy (fun _ => faultyTree) "nonlocal x\ny = $z\n" "x.py" =
        .error (.parseFailure "x.py"
          ["python2: syntax error at 2:5", "python3: syntax error at 2:5"]) := by
  have hrefusals : Dialect.legacy.refusal? faultyTree = some (.syntaxError 2 5) ∧
      Dialect.modern.refusal? faultyTree = some (.syntaxError 2 5) := by decide +kernel
  refine ⟨by decide +kernel, ?_, ?_⟩
  · refine ⟨nonlocalTree, ⟨[faultyTree], _, rfl, ?_, ?_⟩, rfl, rfl, rfl⟩
    all_goals decide +kernel
  · rw [readOutlineBy_eq, hrefusals.1, hrefusals.2]
    dsimp only
    rw [Except.error.injEq]
    decide +kernel

end IssueTrace.Source
