import IssueTrace.History.Compare
import IssueTrace.Proofs.History.Leaves
import Mathlib.Order.Basic

/-!
# The differences of two snapshots

A comparison of sound snapshots goes over their leaves in the order of the paths.  It has one
difference for each path where they differ, but two where a leaf changed its type.  The changes that
are reported are those that leave something new at the path.
-/

namespace IssueTrace.History

open IssueTrace.Path (pieces)

/-! ## Differences at a path -/

namespace Difference

variable {before after : Option Leaf}

theorem exists_versions_iff :
    (∃ difference ∈ between before after, difference.versions?.isSome = true) ↔
      ∃ l, after = some l ∧ before ≠ some l := by
  unfold between
  split
  · simp
  · simp [versions?]
  · simp [versions?]
  · rename_i old new
    split_ifs with hsame htype
    · simp [hsame]
    · simp [versions?, hsame]
    · simp [versions?, hsame]

theorem between_pairwise :
    (between before after).Pairwise fun d e =>
      (∃ old, d = .deleted old) ∧ ∃ new, e = .added new := by
  unfold between
  split
  · exact .nil
  · exact List.pairwise_singleton _ _
  · exact List.pairwise_singleton _ _
  · split_ifs
    · exact .nil
    · exact List.pairwise_singleton _ _
    · simp

end Difference

/-! ## The change for a delta -/

namespace Delta

variable {d : Delta} {ending : String} {context : Nat}

theorem exists_fileChange_iff {path : String} :
    (∃ c, d.fileChange? ending context = some c ∧ c.path = path) ↔
      d.path = path ∧ ending.toList <:+ path.toList ∧ d.difference.versions?.isSome = true := by
  unfold fileChange?
  split
  · rename_i hnone
    simp [hnone]
  · rename_i before after hversions
    rw [hversions]
    by_cases hending : ending.toList.isSuffixOf d.path.toList = true
    · have hsuffix := List.isSuffixOf_iff_suffix.mp hending
      rw [if_pos hending]
      constructor
      · rintro ⟨c, hc, rfl⟩
        obtain rfl := Option.some.inj hc
        exact ⟨rfl, hsuffix, rfl⟩
      · rintro ⟨rfl, -, -⟩
        exact ⟨_, rfl, rfl⟩
    · rw [if_neg hending]
      constructor
      · rintro ⟨c, hc, -⟩
        cases hc
      · rintro ⟨rfl, hsuffix, -⟩
        exact absurd (List.isSuffixOf_iff_suffix.mpr hsuffix) hending

end Delta

/-! ## All differences in order -/

namespace Snapshot

variable {old new : Snapshot} {names : List String}

theorem mem_namesOfBoth (ho : old.IsSound) (hn : new.IsSound) :
    names ∈ old.namesOfBoth new ↔
      (∃ l, old.leaf? names = some l) ∨ ∃ l, new.leaf? names = some l := by
  unfold namesOfBoth
  rw [List.mem_mergeSort, List.mem_append, List.mem_filter, ho.mem_leafNames_iff,
    hn.mem_leafNames_iff]
  cases old.leaf? names with
  | none => simp
  | some l => simp

/-- Each path is gone over once, in order. -/
theorem namesOfBoth_pairwise (ho : old.IsSound) (hn : new.IsSound) :
    (old.namesOfBoth new).Pairwise fun a b => "/".intercalate a < "/".intercalate b := by
  have hnodup : (old.namesOfBoth new).Nodup := by
    unfold namesOfBoth
    rw [(List.mergeSort_perm _ _).nodup_iff]
    refine ho.nodup_leafNames.append (hn.nodup_leafNames.filter _) ?_
    intro names hold hfresh
    obtain ⟨l, hl⟩ := ho.mem_leafNames_iff.mp hold
    simp [hl] at hfresh
  have hsorted : (old.namesOfBoth new).Pairwise fun a b =>
      "/".intercalate a ≤ "/".intercalate b := by
    unfold namesOfBoth
    refine (List.pairwise_mergeSort ?_ ?_ _).imp fun h => of_decide_eq_true h
    · intro a b c hab hbc
      exact decide_eq_true (le_trans (of_decide_eq_true hab) (of_decide_eq_true hbc))
    · intro a b
      simpa using le_total ("/".intercalate a) ("/".intercalate b)
  have hpieces : ∀ names ∈ old.namesOfBoth new, pieces ("/".intercalate names) = names := by
    intro names hnames
    rcases (mem_namesOfBoth ho hn).mp hnames with ⟨l, hl⟩ | ⟨l, hl⟩
    · exact (ho.pieces_path hl).1
    · exact (hn.pieces_path hl).1
  refine (hsorted.and hnodup).imp_of_mem ?_
  rintro a b ha hb ⟨hle, hne⟩
  refine lt_of_le_of_ne hle fun heq => hne ?_
  rw [← hpieces a ha, heq, hpieces b hb]

theorem mem_deltas (ho : old.IsSound) (hn : new.IsSound) {d : Delta} :
    d ∈ old.deltas new ↔
      d.difference ∈ Difference.between (old.leaf? d.names) (new.leaf? d.names) := by
  unfold deltas
  rw [List.mem_flatMap]
  constructor
  · rintro ⟨names, -, hd⟩
    obtain ⟨difference, hdifference, rfl⟩ := List.mem_map.mp hd
    exact hdifference
  · intro hd
    refine ⟨d.names, (mem_namesOfBoth ho hn).mpr ?_, List.mem_map.mpr ⟨_, hd, rfl⟩⟩
    cases hold : old.leaf? d.names with
    | some l => exact .inl ⟨l, rfl⟩
    | none =>
        cases hnew : new.leaf? d.names with
        | some l => exact .inr ⟨l, rfl⟩
        | none => simp [hold, hnew, Difference.between] at hd

/-- The differences come in the order of their paths, one for each path, but for a leaf that is deleted
and followed by another of another type. -/
theorem deltas_pairwise (ho : old.IsSound) (hn : new.IsSound) :
    (old.deltas new).Pairwise fun d e =>
      d.path < e.path ∨
        d.names = e.names ∧ (∃ l, d.difference = .deleted l) ∧ ∃ l, e.difference = .added l := by
  unfold deltas
  rw [List.pairwise_flatMap]
  constructor
  · intro names _
    exact List.pairwise_map.mpr (Difference.between_pairwise.imp fun h => .inr ⟨rfl, h⟩)
  · refine (namesOfBoth_pairwise ho hn).imp ?_
    intro a b hab d hd e he
    obtain ⟨_, -, rfl⟩ := List.mem_map.mp hd
    obtain ⟨_, -, rfl⟩ := List.mem_map.mp he
    exact .inl hab

/-! ## Changes -/

variable {ending path : String} {context : Nat}

/-- A change is reported at the paths with the given end where there is a leaf that was not there
before. -/
theorem mem_changes_iff (ho : old.IsSound) (hn : new.IsSound) :
    path ∈ (old.changes new ending context).map FileChange.path ↔
      ending.toList <:+ path.toList ∧
        ∃ l, new.leaf? (pieces path) = some l ∧ old.leaf? (pieces path) ≠ some l := by
  rw [← Difference.exists_versions_iff, List.mem_map]
  unfold changes
  constructor
  · rintro ⟨c, hc, hpath⟩
    obtain ⟨d, hd, hchange⟩ := List.mem_filterMap.mp hc
    obtain ⟨rfl, hending, hversions⟩ := Delta.exists_fileChange_iff.mp ⟨c, hchange, hpath⟩
    have hbetween := (mem_deltas ho hn).mp hd
    obtain ⟨l, hl, -⟩ := Difference.exists_versions_iff.mp ⟨_, hbetween, hversions⟩
    have hpieces : pieces d.path = d.names := (hn.pieces_path hl).1
    rw [hpieces]
    exact ⟨hending, d.difference, hbetween, hversions⟩
  · rintro ⟨hending, difference, hbetween, hversions⟩
    obtain ⟨d, hnames, rfl⟩ : ∃ d : Delta, d.names = pieces path ∧ d.difference = difference :=
      ⟨⟨pieces path, difference⟩, rfl, rfl⟩
    have hpath : d.path = path := by
      unfold Delta.path
      rw [hnames, Path.intercalate_pieces]
    rw [← hnames] at hbetween
    obtain ⟨c, hchange, hown⟩ := Delta.exists_fileChange_iff.mpr ⟨hpath, hending, hversions⟩
    exact ⟨c, List.mem_filterMap.mpr ⟨d, (mem_deltas ho hn).mpr hbetween, hchange⟩, hown⟩

/-- The changes come in the order of their paths, each path once. -/
theorem changes_pairwise (ho : old.IsSound) (hn : new.IsSound) :
    (old.changes new ending context).Pairwise fun c c' => c.path < c'.path := by
  refine (deltas_pairwise ho hn).filterMap _ ?_
  intro d e hde c hc c' hc'
  obtain ⟨hpath, -, hversions⟩ := Delta.exists_fileChange_iff.mp ⟨c, hc, rfl⟩
  obtain ⟨hpath', -⟩ := Delta.exists_fileChange_iff.mp ⟨c', hc', rfl⟩
  rcases hde with hlt | ⟨-, ⟨l, hdeleted⟩, -⟩
  · rwa [hpath, hpath'] at hlt
  · rw [hdeleted] at hversions
    cases hversions

end Snapshot

end IssueTrace.History
