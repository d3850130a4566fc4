import IssueTrace.Proofs.History.Trees
import IssueTrace.Proofs.Storage.Parents
import Mathlib.Data.List.Nodup

/-!
# The leaves of a snapshot

In the directories of a sound tree no name stands twice, and each may stand in a path.  Then the leaves
that are listed are those that can be looked up, each is listed once, and the path of a leaf leads back
to its names.
-/

namespace IssueTrace.History

open IssueTrace.Path (IsPlain IsStep pieces)

variable {names : List String} {l : Leaf}

theorem lookup_eq_some_iff_mem {α β : Type} [BEq α] [LawfulBEq α] {entries : List (α × β)}
    (h : (entries.map Prod.fst).Nodup) {key : α} {value : β} :
    entries.lookup key = some value ↔ (key, value) ∈ entries := by
  rw [List.lookup_eq_some_iff]
  constructor
  · rintro ⟨before, behind, rfl, -⟩
    simp
  · intro hmem
    obtain ⟨before, behind, rfl⟩ := List.append_of_mem hmem
    rw [List.map_append, List.map_cons] at h
    refine ⟨before, behind, rfl, ?_⟩
    intro e he
    have hne := (List.nodup_append.mp h).2.2 e.1 (List.mem_map_of_mem he) key List.mem_cons_self
    simpa using Ne.symm hne

namespace Node

variable {n : Node}

/-- In each directory no name stands twice, and each is a step of a path. -/
inductive IsSound : Node → Prop
  | leaf (l : Leaf) : IsSound (.leaf l)
  | directory {entries : List (String × Node)} (nodup : (entries.map Prod.fst).Nodup)
      (steps : ∀ e ∈ entries, IsStep e.1) (below : ∀ e ∈ entries, IsSound e.2) :
      IsSound (.directory entries)

theorem leavesOf_eq_flatMap (entries : List (String × Node)) :
    leavesOf entries = entries.flatMap fun e => e.2.leaves.map fun p => (e.1 :: p.1, p.2) := by
  induction entries with
  | nil => rw [leavesOf]; rfl
  | cons e entries ih => rw [leavesOf, ih, List.flatMap_cons]

theorem mem_leavesOf {entries : List (String × Node)} :
    (names, l) ∈ leavesOf entries ↔
      ∃ name n rest, (name, n) ∈ entries ∧ names = name :: rest ∧ (rest, l) ∈ n.leaves := by
  rw [leavesOf_eq_flatMap, List.mem_flatMap]
  constructor
  · rintro ⟨⟨name, n⟩, he, hleaf⟩
    obtain ⟨⟨rest, l'⟩, hrest, heq⟩ := List.mem_map.mp hleaf
    obtain ⟨rfl, rfl⟩ := Prod.mk.inj heq
    exact ⟨name, n, rest, he, rfl, hrest⟩
  · rintro ⟨name, n, rest, he, rfl, hrest⟩
    exact ⟨(name, n), he, List.mem_map.mpr ⟨(rest, l), hrest, rfl⟩⟩

/-- The leaves that are listed are those that are found by their names. -/
theorem IsSound.mem_leaves_iff (h : n.IsSound) :
    (names, l) ∈ n.leaves ↔ n.at? names = some (.leaf l) := by
  induction h generalizing names with
  | leaf own =>
      rw [leaves]
      cases names with
      | nil => simp [eq_comm]
      | cons name rest => simp
  | @directory entries hnodup hsteps hbelow ih =>
      rw [leaves, mem_leavesOf]
      cases names with
      | nil => simp
      | cons name rest =>
          rw [at?_directory_cons, Option.bind_eq_some_iff]
          constructor
          · rintro ⟨first, n, more, he, heq, hleaf⟩
            obtain ⟨rfl, rfl⟩ := List.cons.inj heq
            exact ⟨n, (lookup_eq_some_iff_mem hnodup).mpr he, (ih _ he).mp hleaf⟩
          · rintro ⟨n, hn, hleaf⟩
            have he := (lookup_eq_some_iff_mem hnodup).mp hn
            exact ⟨name, n, rest, he, rfl, (ih _ he).mpr hleaf⟩

theorem IsSound.steps_of_mem_leaves (h : n.IsSound) (hleaf : (names, l) ∈ n.leaves) :
    ∀ name ∈ names, IsStep name := by
  induction h generalizing names with
  | leaf own =>
      rw [leaves, List.mem_singleton] at hleaf
      obtain ⟨rfl, -⟩ := Prod.mk.inj hleaf
      simp
  | directory hnodup hsteps hbelow ih =>
      rw [leaves] at hleaf
      obtain ⟨first, n, rest, he, rfl, hrest⟩ := mem_leavesOf.mp hleaf
      exact List.forall_mem_cons.mpr ⟨hsteps _ he, ih _ he hrest⟩

/-- No two leaves have the same names. -/
theorem IsSound.nodup_leaves (h : n.IsSound) : (n.leaves.map Prod.fst).Nodup := by
  induction h with
  | leaf own =>
      rw [leaves]
      exact List.nodup_singleton _
  | @directory entries hnodup hsteps hbelow ih =>
      have hnames : (leaves (.directory entries)).map Prod.fst =
          entries.flatMap fun e => (e.2.leaves.map Prod.fst).map (e.1 :: ·) := by
        rw [leaves, leavesOf_eq_flatMap, List.map_flatMap]
        simp [Function.comp_def]
      rw [hnames, List.nodup_flatMap]
      constructor
      · intro e he
        exact (ih e he).map fun _ _ h => (List.cons.inj h).2
      · refine (List.pairwise_map.mp hnodup).imp ?_
        intro e f hne names hnames hnames'
        obtain ⟨rest, -, rfl⟩ := List.mem_map.mp hnames
        obtain ⟨rest', -, heq⟩ := List.mem_map.mp hnames'
        exact hne (List.cons.inj heq).1.symm

end Node

namespace Snapshot

variable {s : Snapshot}

/-- The directories of the snapshot are sound. -/
def IsSound (s : Snapshot) : Prop := (Node.directory s.entries).IsSound

theorem leafNames_eq (s : Snapshot) : s.leafNames = (Node.directory s.entries).leaves.map Prod.fst := by
  rw [Node.leaves]
  rfl

theorem IsSound.mem_leafNames_iff (h : s.IsSound) :
    names ∈ s.leafNames ↔ ∃ l, s.leaf? names = some l := by
  rw [leafNames_eq]
  constructor
  · intro hmem
    obtain ⟨⟨own, l⟩, hleaf, rfl⟩ := List.mem_map.mp hmem
    exact ⟨l, leaf?_eq_some_iff.mpr (Node.IsSound.mem_leaves_iff h |>.mp hleaf)⟩
  · rintro ⟨l, hl⟩
    have hleaf := (Node.IsSound.mem_leaves_iff h).mpr (leaf?_eq_some_iff.mp hl)
    exact List.mem_map.mpr ⟨(names, l), hleaf, rfl⟩

theorem IsSound.nodup_leafNames (h : s.IsSound) : s.leafNames.Nodup := by
  rw [leafNames_eq]
  exact Node.IsSound.nodup_leaves h

theorem IsSound.pieces_path (h : s.IsSound) (hl : s.leaf? names = some l) :
    pieces ("/".intercalate names) = names ∧ IsPlain ("/".intercalate names) := by
  have hfound := leaf?_eq_some_iff.mp hl
  have hne : names ≠ [] := by
    rintro rfl
    simp at hfound
  have hsteps := Node.IsSound.steps_of_mem_leaves h ((Node.IsSound.mem_leaves_iff h).mpr hfound)
  have hpieces := Path.pieces_intercalate hne fun name hname => (hsteps name hname).1
  refine ⟨hpieces, ?_⟩
  intro piece hpiece
  rw [hpieces] at hpiece
  exact (hsteps piece hpiece).2

end Snapshot

end IssueTrace.History
