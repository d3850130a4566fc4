import IssueTrace.Change.Attribution
import IssueTrace.Proofs.Source.DocumentOrder
import Mathlib.Data.List.Basic

/-!
# Floor search

The search for the last declaration that starts at or before a line halves the siblings.  It is
tied here to what it looks for: among siblings in ascending order the declarations that start at or
before a line are an initial run, and the search finds the end of that run.  So it finds the floor of
a line, which two neighbours tell apart from every other place, also where several declarations start
on one line; and as a later line reaches no shorter run, it finds no earlier place for one.
-/

namespace IssueTrace.Change

open Source (Declaration)

/-! ## Halving -/

/-- If a test holds below `k` and fails from `k` on, halving an interval around `k` finds `k`. -/
theorem bisect_eq {test : Nat → Bool} {k : Nat} :
    ∀ {fuel lo span : Nat}, span ≤ fuel → lo ≤ k → k ≤ lo + span →
      (∀ i, lo ≤ i → i < lo + span → (test i = true ↔ i < k)) →
      bisect test fuel lo span = k := by
  intro fuel
  induction fuel with
  | zero =>
      intro lo span hfuel hlo hhi htest
      unfold bisect
      omega
  | succ fuel ih =>
      intro lo span hfuel hlo hhi htest
      unfold bisect
      split
      · omega
      · rename_i hspan
        have hmid := htest (lo + span / 2) (by omega) (by omega)
        dsimp only
        split
        · rename_i hpass
          have hbelow : lo + span / 2 < k := hmid.mp hpass
          apply ih (by omega) (by omega) (by omega)
          intro i hi hi'
          exact htest i (by omega) (by omega)
        · rename_i hfail
          have habove : k ≤ lo + span / 2 := by
            by_contra hlt
            exact hfail (hmid.mpr (by omega))
          apply ih (by omega) hlo habove
          intro i hi hi'
          exact htest i hi (by omega)

/-! ## The run of declarations that start at or before a line -/

/-- How many declarations at the beginning of a list start at or before a line. -/
def reached (ds : List Declaration) (line : Nat) : Nat :=
  (ds.takeWhile fun d => d.line ≤ line).length

theorem reached_le_length (ds : List Declaration) (line : Nat) :
    reached ds line ≤ ds.length :=
  (List.takeWhile_prefix _).length_le

/-- In ascending order no later declaration starts at or before the line. -/
theorem line_le_iff_lt_reached {ds : List Declaration}
    (h : ds.Pairwise fun d e => d.line ≤ e.line) {line i : Nat} {d : Declaration}
    (hd : ds[i]? = some d) : d.line ≤ line ↔ i < reached ds line := by
  induction ds generalizing i with
  | nil => simp at hd
  | cons e ds ih =>
      obtain ⟨hhead, htail⟩ := List.pairwise_cons.mp h
      by_cases he : e.line ≤ line
      · have hreached : reached (e :: ds) line = reached ds line + 1 := by
          simp [reached, he]
        rw [hreached]
        cases i with
        | zero =>
            obtain rfl : e = d := by simpa using hd
            exact ⟨fun _ => by omega, fun _ => he⟩
        | succ i =>
            rw [ih htail (by simpa using hd)]
            omega
      · have hreached : reached (e :: ds) line = 0 := by
          simp [reached, he]
        have hd' : e.line ≤ d.line := by
          rcases List.mem_cons.mp (List.mem_of_getElem? hd) with rfl | hmem
          · exact Nat.le_refl _
          · exact hhead d hmem
        rw [hreached]
        omega

theorem forall_next_lt_iff {ds : List Declaration}
    (h : ds.Pairwise fun d e => d.line ≤ e.line) {line i : Nat} :
    (∀ next, ds[i + 1]? = some next → line < next.line) ↔ reached ds line ≤ i + 1 := by
  constructor
  · intro hnext
    by_contra hbefore
    have hlt : i + 1 < ds.length := by
      have := reached_le_length ds line
      omega
    have hget : ds[i + 1]? = some ds[i + 1] := List.getElem?_eq_getElem hlt
    have hreached := (line_le_iff_lt_reached h hget).mpr (show _ < reached ds line by omega)
    have hafter := hnext _ hget
    omega
  · intro hle next hget
    have hreached : next.line ≤ line ↔ i + 1 < reached ds line := line_le_iff_lt_reached h hget
    omega

theorem reached_mono {ds : List Declaration} (h : ds.Pairwise fun d e => d.line ≤ e.line)
    {a b : Nat} (hab : a ≤ b) : reached ds a ≤ reached ds b := by
  by_contra hlt
  have hb : reached ds b < ds.length := by
    have := reached_le_length ds a
    omega
  have hd : ds[reached ds b]? = some ds[reached ds b] := List.getElem?_eq_getElem hb
  have ha := (line_le_iff_lt_reached h hd).mpr (show _ < reached ds a by omega)
  have := (line_le_iff_lt_reached h hd).mp (Nat.le_trans ha hab)
  omega

/-- The search finds the end of the run of declarations that start at or before a line. -/
theorem locate?_eq {ds : List Declaration} (h : ds.Pairwise fun d e => d.line ≤ e.line)
    (line : Nat) :
    locate? ds line =
      match reached ds line with
      | 0 => none
      | k + 1 => some k := by
  have hbisect :
      bisect (fun i => (ds.map Declaration.line).toArray.getD i 0 ≤ line)
        (ds.map Declaration.line).toArray.size 0 (ds.map Declaration.line).toArray.size =
          reached ds line := by
    apply bisect_eq (Nat.le_refl _) (Nat.zero_le _)
    · simpa using reached_le_length ds line
    · intro i _ hi
      have hi' : i < ds.length := by simpa using hi
      rw [decide_eq_true_iff, ← line_le_iff_lt_reached h (List.getElem?_eq_getElem hi')]
      simp [Array.getD, hi']
  unfold locate?
  dsimp only
  cases hreached : reached ds line with
  | zero => simp only [hbisect, hreached]
  | succ k => simp only [hbisect, hreached]

theorem locate?_eq_none_iff {ds : List Declaration}
    (h : ds.Pairwise fun d e => d.line ≤ e.line) {line : Nat} :
    locate? ds line = none ↔ reached ds line = 0 := by
  rw [locate?_eq h]
  cases reached ds line <;> simp

theorem locate?_eq_some_iff {ds : List Declaration}
    (h : ds.Pairwise fun d e => d.line ≤ e.line) {line i : Nat} :
    locate? ds line = some i ↔ reached ds line = i + 1 := by
  rw [locate?_eq h]
  cases reached ds line <;> simp

/-! ## The floor of a line -/

/-- The place of a declaration that starts at or before a line and is the last one, or is followed by
one that starts after the line. -/
def IsFloor (ds : List Declaration) (line i : Nat) : Prop :=
  ∃ d, ds[i]? = some d ∧ d.line ≤ line ∧ ∀ next, ds[i + 1]? = some next → line < next.line

section Floor

variable {ds : List Declaration} (h : ds.Pairwise fun d e => d.line ≤ e.line) {line i : Nat}

include h

theorem isFloor_iff : IsFloor ds line i ↔ reached ds line = i + 1 := by
  constructor
  · rintro ⟨d, hd, hline, hnext⟩
    have hin := (line_le_iff_lt_reached h hd).mp hline
    have hend := (forall_next_lt_iff h).mp hnext
    omega
  · intro hreached
    have hlength := reached_le_length ds line
    have hget : ds[i]? = some ds[i] := List.getElem?_eq_getElem (by omega)
    refine ⟨ds[i], hget, ?_, ?_⟩
    · exact (line_le_iff_lt_reached h hget).mpr (by omega)
    · exact (forall_next_lt_iff h).mpr (by omega)

theorem IsFloor.unique {k : Nat} (hi : IsFloor ds line i) (hk : IsFloor ds line k) : i = k := by
  rw [isFloor_iff h] at hi hk
  omega

theorem locate?_eq_some_iff_isFloor : locate? ds line = some i ↔ IsFloor ds line i := by
  rw [locate?_eq_some_iff h, isFloor_iff h]

theorem locate?_eq_none_iff_forall_lt : locate? ds line = none ↔ ∀ d ∈ ds, line < d.line := by
  rw [locate?_eq_none_iff h]
  constructor
  · intro hzero d hd
    obtain ⟨k, hk⟩ := List.mem_iff_getElem?.mp hd
    have hreached : d.line ≤ line ↔ k < reached ds line := line_le_iff_lt_reached h hk
    omega
  · intro hafter
    by_contra hpos
    have hlt : 0 < ds.length := by
      have := reached_le_length ds line
      omega
    have hfirst : ds[0]? = some ds[0] := List.getElem?_eq_getElem hlt
    have hline := (line_le_iff_lt_reached h hfirst).mpr (Nat.pos_of_ne_zero hpos)
    have := hafter ds[0] (List.getElem_mem hlt)
    omega

/-- The place that is found divides the declarations that start at or before the line from those that
start after it. -/
theorem line_le_iff_of_locate? (hi : locate? ds line = some i) {k : Nat} {d : Declaration}
    (hk : ds[k]? = some d) : d.line ≤ line ↔ k ≤ i := by
  have hreached := (locate?_eq_some_iff h).mp hi
  rw [line_le_iff_lt_reached h hk]
  omega

theorem exists_locate?_of_le {later : Nat} (hle : line ≤ later) (hi : locate? ds line = some i) :
    ∃ j, locate? ds later = some j ∧ i ≤ j ∧ j < ds.length := by
  have hreached := (locate?_eq_some_iff h).mp hi
  have hmono := reached_mono h hle
  have hlength := reached_le_length ds later
  obtain ⟨j, hj⟩ : ∃ j, reached ds later = j + 1 := ⟨reached ds later - 1, by omega⟩
  refine ⟨j, (locate?_eq_some_iff h).mpr hj, ?_, ?_⟩
  · omega
  · omega

end Floor

/-- Among declarations in ascending order, where several may start on one line, the search finds the
floor of a line.  It finds nothing exactly if every declaration starts after the line; otherwise there
is one floor and the search finds it, with nothing behind it that starts at or before the line, so of
several declarations on one line it is the last.  If something is found for a line, something is found
for every later one, at a place in the list that is not before the other. -/
theorem locate?_finds_floor {ds : List Declaration} (h : ds.Pairwise fun d e => d.line ≤ e.line) :
    (∀ line, locate? ds line = none ↔ ∀ d ∈ ds, line < d.line) ∧
    (∀ line, (∃ d ∈ ds, d.line ≤ line) → ∃! i, IsFloor ds line i) ∧
    (∀ line i, locate? ds line = some i ↔ IsFloor ds line i) ∧
    (∀ line i, locate? ds line = some i → ∀ k d, ds[k]? = some d → (d.line ≤ line ↔ k ≤ i)) ∧
    ∀ start stop, start ≤ stop → ∀ i, locate? ds start = some i →
      ∃ j, locate? ds stop = some j ∧ i ≤ j ∧ j < ds.length := by
  refine ⟨?_, ?_, ?_, ?_, ?_⟩
  · intro line
    exact locate?_eq_none_iff_forall_lt h
  · rintro line ⟨d, hd, hline⟩
    have hfound : locate? ds line ≠ none := by
      rw [Ne, locate?_eq_none_iff_forall_lt h]
      intro hafter
      exact Nat.not_lt_of_le hline (hafter d hd)
    obtain ⟨i, hi⟩ := Option.ne_none_iff_exists'.mp hfound
    have hfloor : IsFloor ds line i := (locate?_eq_some_iff_isFloor h).mp hi
    refine ⟨i, hfloor, ?_⟩
    intro k hk
    exact hk.unique h hfloor
  · intro line i
    exact locate?_eq_some_iff_isFloor h
  · intro line i hi k d hk
    exact line_le_iff_of_locate? h hi hk
  · intro start stop hle i hi
    exact exists_locate?_of_le h hle hi

/-- A class and a function on one line, with something before and behind them: a line before all of
them, the one that both start on, and one behind all of them. -/
theorem locate?_finds_floor_of_repeated :
    let ds : List Declaration :=
      [.other "import_statement" 2, .classDef "A" 5 [], .function "f" 5, .function "g" 9]
    (ds.Pairwise fun d e => d.line ≤ e.line) ∧
      locate? ds 1 = none ∧
      (∃! i, IsFloor ds 5 i) ∧
      locate? ds 5 = some 2 ∧
      (∀ k d, ds[k]? = some d → (d.line ≤ 5 ↔ k ≤ 2)) ∧
      ∃ j, locate? ds 40 = some j ∧ 2 ≤ j ∧ j < ds.length := by
  intro ds
  have hds : ds.Pairwise fun d e => d.line ≤ e.line := by
    simp [ds, Declaration.line]
  obtain ⟨hnone, hunique, hsome, hdivides, hmono⟩ := locate?_finds_floor hds
  have hbefore : locate? ds 1 = none := by
    rw [hnone]
    simp [ds, Declaration.line]
  have hfloor : IsFloor ds 5 2 := by
    refine ⟨.function "f" 5, rfl, by decide, ?_⟩
    simp [ds, Declaration.line]
  have hfound : locate? ds 5 = some 2 := (hsome 5 2).mpr hfloor
  refine ⟨hds, hbefore, ?_, hfound, hdivides 5 2 hfound, ?_⟩
  · exact hunique 5 ⟨.function "f" 5, by simp [ds], by decide⟩
  · exact hmono 5 40 (by decide) 2 hfound

end IssueTrace.Change
