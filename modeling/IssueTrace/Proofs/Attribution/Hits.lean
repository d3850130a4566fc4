import IssueTrace.Proofs.Attribution.Entities
import IssueTrace.Proofs.Attribution.FloorSearch

/-!
# Declarations that a span hits

A span of lines hits a declaration that starts at or before its end, unless a sibling that starts at
or before its beginning follows.  This is said without any search; on siblings in ascending order it
is what the program looks up, and it determines which classes and methods a span touches.
-/

namespace IssueTrace

open Source (Declaration Ascending)

namespace Change

/-- The span hits the declaration: the declaration starts at or before the end of the span, and it
is the last of its siblings or the next one starts after the beginning of the span. -/
def IsHit (siblings : List Declaration) (span : LineSpan) (d : Declaration) : Prop :=
  ∃ i, siblings[i]? = some d ∧ d.line ≤ span.stop ∧
    ∀ next, siblings[i + 1]? = some next → span.start < next.line

/-- A class of that name is hit. -/
def HitsClass (siblings : List Declaration) (span : LineSpan) (name : String) : Prop :=
  ∃ line body, IsHit siblings span (.classDef name line body)

/-- A function is hit, or a function in the body of a class that is hit. -/
def HitsMethod (siblings : List Declaration) (span : LineSpan) (name : String) : Prop :=
  (∃ line, IsHit siblings span (.function name line)) ∨
    ∃ owner line body member memberLine,
      IsHit siblings span (.classDef owner line body) ∧
        IsHit body span (.function member memberLine) ∧
        name = owner ++ "." ++ member

theorem IsHit.mem {siblings : List Declaration} {span : LineSpan} {d : Declaration}
    (h : IsHit siblings span d) : d ∈ siblings := by
  obtain ⟨i, hi, -, -⟩ := h
  exact List.mem_of_getElem? hi

theorem getD_locate? {ds : List Declaration} (h : ds.Pairwise fun d e => d.line ≤ e.line)
    (line : Nat) : (locate? ds line).getD 0 = reached ds line - 1 := by
  rw [locate?_eq h]
  cases reached ds line with
  | zero => rfl
  | succ k => rfl

/-- Counted from the beginning, the declarations that the search selects are those from the last one
reached by the beginning of the span to the last one reached by its end. -/
theorem mem_covered_iff_index {ds : List Declaration}
    (h : ds.Pairwise fun d e => d.line ≤ e.line) {span : LineSpan} {d : Declaration} :
    d ∈ covered ds span ↔
      ∃ i, ds[i]? = some d ∧ i < reached ds span.stop ∧ reached ds span.start - 1 ≤ i := by
  unfold covered
  rw [getD_locate? h]
  cases hstop : locate? ds span.stop with
  | none =>
      have hzero := (locate?_eq_none_iff h).mp hstop
      simp [hzero]
  | some last =>
      have hlast := (locate?_eq_some_iff h).mp hstop
      rw [hlast]
      simp only [List.mem_iff_getElem?, List.getElem?_drop, List.getElem?_take]
      constructor
      · rintro ⟨i, hi⟩
        split at hi
        · refine ⟨reached ds span.start - 1 + i, hi, ?_, ?_⟩
          · omega
          · omega
        · simp at hi
      · rintro ⟨i, hi, hilast, hifirst⟩
        refine ⟨i - (reached ds span.start - 1), ?_⟩
        rw [Nat.add_sub_cancel' hifirst, if_pos hilast]
        exact hi

/-- Among siblings in ascending order the search selects what the span hits. -/
theorem mem_covered_iff {ds : List Declaration} (h : ds.Pairwise fun d e => d.line ≤ e.line)
    {span : LineSpan} {d : Declaration} :
    d ∈ covered ds span ↔ IsHit ds span d := by
  rw [mem_covered_iff_index h]
  constructor
  · rintro ⟨i, hi, hstop, hstart⟩
    have hend : reached ds span.start ≤ i + 1 := by omega
    exact ⟨i, hi, (line_le_iff_lt_reached h hi).mpr hstop, (forall_next_lt_iff h).mpr hend⟩
  · rintro ⟨i, hi, hstop, hnext⟩
    have hend := (forall_next_lt_iff h).mp hnext
    exact ⟨i, hi, (line_le_iff_lt_reached h hi).mp hstop, by omega⟩

/-! ## The last declaration that starts at or before a line -/

/-- The last declaration of a list that starts at or before a line. -/
def lastAt? (ds : List Declaration) (line : Nat) : Option Declaration :=
  (ds.filter fun d => d.line ≤ line).getLast?

theorem filter_eq_take_reached {ds : List Declaration}
    (h : ds.Pairwise fun d e => d.line ≤ e.line) (line : Nat) :
    (ds.filter fun d => d.line ≤ line) = ds.take (reached ds line) := by
  have hinitial : ds.take (reached ds line) = ds.takeWhile fun d => d.line ≤ line :=
    (List.prefix_iff_eq_take.mp (List.takeWhile_prefix _)).symm
  rw [hinitial]
  induction ds with
  | nil => rfl
  | cons e ds ih =>
      obtain ⟨hhead, htail⟩ := List.pairwise_cons.mp h
      by_cases he : e.line ≤ line
      · have hrest := ih htail (List.prefix_iff_eq_take.mp (List.takeWhile_prefix _)).symm
        simp [he, hrest]
      · have hnone : ∀ d ∈ ds, ¬ d.line ≤ line := by
          intro d hd
          have := hhead d hd
          omega
        simpa [he] using hnone

theorem lastAt?_eq_some {ds : List Declaration} (h : ds.Pairwise fun d e => d.line ≤ e.line)
    {line : Nat} {d : Declaration} (hd : lastAt? ds line = some d) :
    ∃ i, ds[i]? = some d ∧ reached ds line = i + 1 := by
  unfold lastAt? at hd
  rw [filter_eq_take_reached h, List.getLast?_take] at hd
  have hlength := reached_le_length ds line
  split at hd
  · simp at hd
  · have hget : ds[reached ds line - 1]? = some ds[reached ds line - 1] :=
      List.getElem?_eq_getElem (by omega)
    rw [hget, Option.some_or] at hd
    exact ⟨reached ds line - 1, hget.trans hd, by omega⟩

/-- A span hits the last declaration that starts at or before any of its lines. -/
theorem isHit_of_lastAt? {ds : List Declaration} (h : ds.Pairwise fun d e => d.line ≤ e.line)
    {span : LineSpan} {line : Nat} (hstart : span.start ≤ line) (hstop : line ≤ span.stop)
    {d : Declaration} (hd : lastAt? ds line = some d) : IsHit ds span d := by
  obtain ⟨i, hi, hreached⟩ := lastAt?_eq_some h hd
  have hbefore := reached_mono h hstart
  have hafter := reached_mono h hstop
  rw [← mem_covered_iff h, mem_covered_iff_index h]
  exact ⟨i, hi, by omega, by omega⟩

end Change

/-! ## What a span adds -/

namespace Entities

open Change

theorem mem_memberNames {owner name : String} {members : List Declaration} :
    name ∈ memberNames owner members ↔
      ∃ member line, Declaration.function member line ∈ members ∧
        name = owner ++ "." ++ member := by
  unfold memberNames
  rw [List.mem_filterMap]
  constructor
  · rintro ⟨d, hd, hname⟩
    cases d with
    | function member line => exact ⟨member, line, hd, by simpa using hname.symm⟩
    | classDef _ _ _ => simp at hname
    | other _ _ => simp at hname
  · rintro ⟨member, line, hmem, rfl⟩
    exact ⟨.function member line, hmem, rfl⟩

theorem mem_classes_addDeclaration {span : LineSpan} {name : String} (e : Entities)
    (d : Declaration) :
    name ∈ (addDeclaration span e d).classes ↔
      name ∈ e.classes ∨ ∃ line body, d = .classDef name line body := by
  cases d with
  | function _ _ => simp [addDeclaration]
  | classDef owner line body =>
      simp only [addDeclaration, NameSet.mem_insert, Declaration.classDef.injEq]
      constructor
      · rintro (rfl | h)
        · exact .inr ⟨line, body, rfl, rfl, rfl⟩
        · exact .inl h
      · rintro (h | ⟨_, _, rfl, _⟩)
        · exact .inr h
        · exact .inl rfl
  | other _ _ => simp [addDeclaration]

theorem mem_methods_addDeclaration {span : LineSpan} {name : String} (e : Entities)
    (d : Declaration) :
    name ∈ (addDeclaration span e d).methods ↔
      name ∈ e.methods ∨ (∃ line, d = .function name line) ∨
        ∃ owner line body member memberLine, d = .classDef owner line body ∧
          Declaration.function member memberLine ∈ covered body span ∧
          name = owner ++ "." ++ member := by
  cases d with
  | function own line =>
      simp only [addDeclaration, NameSet.mem_insert, Declaration.function.injEq]
      constructor
      · rintro (rfl | h)
        · exact .inr (.inl ⟨line, rfl, rfl⟩)
        · exact .inl h
      · rintro (h | ⟨_, rfl, _⟩ | ⟨_, _, _, _, _, h, _⟩)
        · exact .inr h
        · exact .inl rfl
        · cases h
  | classDef owner line body =>
      simp only [addDeclaration, NameSet.mem_insertAll, mem_memberNames]
      constructor
      · rintro (h | ⟨member, memberLine, hmem, rfl⟩)
        · exact .inl h
        · exact .inr (.inr ⟨owner, line, body, member, memberLine, rfl, hmem, rfl⟩)
      · rintro (h | ⟨_, h⟩ | ⟨_, _, _, member, memberLine, h, hmem, rfl⟩)
        · exact .inl h
        · cases h
        · cases h
          exact .inr ⟨member, memberLine, hmem, rfl⟩
  | other _ _ => simp [addDeclaration]

/-- The classes that a span adds are those that it hits. -/
theorem mem_classes_addSpan {ds : List Declaration} (h : Ascending ds) {name : String}
    (e : Entities) (span : LineSpan) :
    name ∈ (addSpan ds e span).classes ↔ name ∈ e.classes ∨ HitsClass ds span name := by
  unfold addSpan HitsClass
  refine (foldl_adds_iff (fun e : Entities => name ∈ e.classes)
    mem_classes_addDeclaration _ e).trans ?_
  simp only [mem_covered_iff h.pairwise]
  constructor
  · rintro (hold | ⟨_, hhit, line, body, rfl⟩)
    · exact .inl hold
    · exact .inr ⟨line, body, hhit⟩
  · rintro (hold | ⟨line, body, hhit⟩)
    · exact .inl hold
    · exact .inr ⟨_, hhit, line, body, rfl⟩

/-- The methods that a span adds are the functions that it hits, at the top and in the classes that
it hits. -/
theorem mem_methods_addSpan {ds : List Declaration} (h : Ascending ds) {name : String}
    (e : Entities) (span : LineSpan) :
    name ∈ (addSpan ds e span).methods ↔ name ∈ e.methods ∨ HitsMethod ds span name := by
  unfold addSpan HitsMethod
  refine (foldl_adds_iff (fun e : Entities => name ∈ e.methods)
    mem_methods_addDeclaration _ e).trans ?_
  simp only [mem_covered_iff h.pairwise]
  have hbody : ∀ {owner line body d}, IsHit ds span (.classDef owner line body) →
      (d ∈ covered body span ↔ IsHit body span d) := by
    intro owner line body d hhit
    exact mem_covered_iff (h.body hhit.mem).pairwise
  constructor
  · rintro (hold | ⟨_, hhit, ⟨line, rfl⟩ |
      ⟨owner, line, body, member, memberLine, rfl, hmem, hname⟩⟩)
    · exact .inl hold
    · exact .inr (.inl ⟨line, hhit⟩)
    · exact .inr (.inr ⟨owner, line, body, member, memberLine, hhit, (hbody hhit).mp hmem, hname⟩)
  · rintro (hold | ⟨line, hhit⟩ | ⟨owner, line, body, member, memberLine, hhit, hmem, hname⟩)
    · exact .inl hold
    · exact .inr ⟨_, hhit, .inl ⟨line, rfl⟩⟩
    · exact .inr ⟨_, hhit, .inr ⟨owner, line, body, member, memberLine, rfl,
        (hbody hhit).mpr hmem, hname⟩⟩

end Entities

end IssueTrace
