import IssueTrace.Issue.CommitMap
import Mathlib.Algebra.GroupWithZero.Nat
import Mathlib.Data.Finset.Card
import Mathlib.Data.List.Basic

/-!
# Commits grouped by issue

A map that is made from commits has the issues that their messages refer to, and for each of them the
ids of the commits that refer to it, in order.  So as many ids are entered as there are commits with
a reference.
-/

namespace IssueTrace.IssueMap

variable {issue key : String} {id : CommitId} {entries : List (String × List CommitId)}
  {m : IssueMap} {commits : List Commit} {pattern : IssuePattern}

/-! ## Entering a commit -/

theorem lookup_eq_none_of_lt (h : ∀ k ∈ entries.map Prod.fst, issue < k) :
    entries.lookup issue = none := by
  rw [List.lookup_eq_none_iff]
  intro e he
  have hlt := h e.1 (List.mem_map_of_mem he)
  simpa using String.ne_of_lt hlt

theorem lookup_cons_eq (key own : String) (ids : List CommitId)
    (rest : List (String × List CommitId)) :
    ((own, ids) :: rest).lookup key = if key = own then some ids else rest.lookup key := by
  rw [List.lookup_cons]
  by_cases hkey : key = own
  · simp [hkey]
  · have hbeq : (key == own) = false := by simpa using hkey
    rw [hbeq, if_neg hkey]

/-- Entering a commit puts it behind those of its issue and leaves the other issues alone. -/
theorem lookup_place (hascending : (entries.map Prod.fst).Pairwise (· < ·)) :
    (place issue id entries).lookup key =
      if key = issue then some ((entries.lookup issue).getD [] ++ [id]) else entries.lookup key := by
  induction entries with
  | nil => exact lookup_cons_eq key issue [id] []
  | cons e rest ih =>
      obtain ⟨own, ids⟩ := e
      obtain ⟨hbelow, hrest⟩ := List.pairwise_cons.mp hascending
      rw [place]
      by_cases hlt : issue < own
      · have hnone : ((own, ids) :: rest).lookup issue = none := by
          apply lookup_eq_none_of_lt
          intro k hk
          rcases List.mem_cons.mp hk with rfl | hk
          · exact hlt
          · exact String.lt_trans hlt (hbelow k hk)
        rw [if_pos hlt, hnone, lookup_cons_eq]
        rfl
      · rw [if_neg hlt]
        by_cases hgt : own < issue
        · have hne : issue ≠ own := (String.ne_of_lt hgt).symm
          rw [if_pos hgt, lookup_cons_eq, lookup_cons_eq, lookup_cons_eq, if_neg hne, ih hrest]
          by_cases hown : key = own
          · rw [if_pos hown, if_pos hown, if_neg (hown ▸ hne.symm)]
          · rw [if_neg hown, if_neg hown]
        · obtain rfl := NameSet.eq_of_not_lt hlt hgt
          rw [if_neg hgt, lookup_cons_eq, lookup_cons_eq, lookup_cons_eq, if_pos rfl]
          by_cases hkey : key = issue
          · rw [if_pos hkey, if_pos hkey]
            rfl
          · rw [if_neg hkey, if_neg hkey, if_neg hkey]

theorem commits_insert :
    (m.insert issue id).commits key =
      if key = issue then m.commits issue ++ [id] else m.commits key := by
  unfold commits insert
  rw [lookup_place m.ascending]
  split
  · rfl
  · rfl

/-- How many ids are entered. -/
def linkCount (m : IssueMap) : Nat := (m.entries.map fun e => e.2.length).sum

theorem linkCount_insert : (m.insert issue id).linkCount = m.linkCount + 1 := by
  have hplace : ∀ entries : List (String × List CommitId),
      ((place issue id entries).map fun e => e.2.length).sum =
        (entries.map fun e => e.2.length).sum + 1 := by
    intro entries
    induction entries with
    | nil => simp [place]
    | cons e rest ih =>
        obtain ⟨own, ids⟩ := e
        rw [place]
        split
        · simp
          omega
        · split
          · simp [ih]
            omega
          · simp
            omega
  exact hplace m.entries

theorem mem_keys_insert :
    key ∈ (m.insert issue id).entries.map Prod.fst ↔
      key = issue ∨ key ∈ m.entries.map Prod.fst := by
  change key ∈ (place issue id m.entries).map Prod.fst ↔ _
  rw [keys_place]
  exact NameSet.mem_place

/-! ## The map of commits -/

theorem ofCommits_concat (commits : List Commit) (c : Commit) (pattern : IssuePattern) :
    ofCommits (commits ++ [c]) pattern =
      match pattern.issueId? c.message with
      | some issue => (ofCommits commits pattern).insert issue c.id
      | none => ofCommits commits pattern := by
  unfold ofCommits
  rw [List.foldl_append]
  rfl

/-- The issues are those that the messages refer to. -/
theorem mem_keys_ofCommits :
    issue ∈ (ofCommits commits pattern).entries.map Prod.fst ↔
      issue ∈ commits.filterMap fun c => pattern.issueId? c.message := by
  induction commits using List.reverseRecOn with
  | nil => rfl
  | append_singleton commits c ih =>
      rw [ofCommits_concat, List.filterMap_append, List.mem_append, ← ih]
      cases hissue : pattern.issueId? c.message with
      | none => simp [hissue]
      | some own =>
          dsimp only
          rw [mem_keys_insert, or_comm]
          simp [hissue]

/-- The ids of an issue are those of the commits that refer to it. -/
theorem commits_ofCommits :
    (ofCommits commits pattern).commits issue =
      (commits.filter fun c => pattern.issueId? c.message = some issue).map Commit.id := by
  induction commits using List.reverseRecOn with
  | nil => rfl
  | append_singleton commits c ih =>
      rw [ofCommits_concat, List.filter_append, List.map_append, ← ih]
      cases hissue : pattern.issueId? c.message with
      | none => simp [hissue]
      | some own =>
          dsimp only
          rw [commits_insert]
          by_cases howner : issue = own
          · simp [hissue, howner]
          · simp [hissue, howner, Ne.symm howner]

/-- As many ids are entered as commits refer to an issue. -/
theorem linkCount_ofCommits :
    (ofCommits commits pattern).linkCount =
      commits.countP fun c => (pattern.issueId? c.message).isSome := by
  induction commits using List.reverseRecOn with
  | nil => rfl
  | append_singleton commits c ih =>
      rw [ofCommits_concat, List.countP_append, ← ih]
      cases hissue : pattern.issueId? c.message with
      | none => simp [hissue]
      | some own =>
          dsimp only
          rw [linkCount_insert]
          simp [hissue]

theorem nodup_keys (m : IssueMap) : (m.entries.map Prod.fst).Nodup :=
  m.ascending.imp fun h => String.ne_of_lt h

theorem toFinset_keys_ofCommits :
    ((ofCommits commits pattern).entries.map Prod.fst).toFinset =
      (commits.filterMap fun c => pattern.issueId? c.message).toFinset := by
  ext issue
  rw [List.mem_toFinset, List.mem_toFinset, mem_keys_ofCommits]

/-- There are as many issues as different numbers in the messages. -/
theorem size_ofCommits :
    (ofCommits commits pattern).size =
      (commits.filterMap fun c => pattern.issueId? c.message).toFinset.card := by
  rw [← toFinset_keys_ofCommits, List.toFinset_card_of_nodup (nodup_keys _), List.length_map]
  rfl

/-- Entries are counted by their issues. -/
theorem countP_keys (m : IssueMap) (test : String → Bool) :
    (m.entries.countP fun e => test e.1) =
      ((m.entries.map Prod.fst).toFinset.filter fun issue => test issue = true).card := by
  have hcount : (m.entries.countP fun e => test e.1) = ((m.entries.map Prod.fst).filter test).length := by
    rw [← List.countP_eq_length_filter, List.countP_map]
    rfl
  rw [hcount, ← List.toFinset_card_of_nodup (m.nodup_keys.filter test), List.toFinset_filter]

/-- An entry holds the ids of its issue. -/
theorem commits_of_mem {e : String × List CommitId} (he : e ∈ m.entries) :
    m.commits e.1 = e.2 := by
  obtain ⟨before, behind, hentries⟩ := List.append_of_mem he
  have hnodup := m.nodup_keys
  have hfirst : ∀ other ∈ before, (e.1 != other.1) = true := by
    intro other hother
    rw [hentries, List.map_append, List.map_cons] at hnodup
    have hdisjoint := (List.nodup_append.mp hnodup).2.2 other.1 (List.mem_map_of_mem hother) e.1
      List.mem_cons_self
    simpa using Ne.symm hdisjoint
  have hlookup : m.entries.lookup e.1 = some e.2 :=
    List.lookup_eq_some_iff.mpr ⟨before, behind, hentries, hfirst⟩
  unfold commits
  rw [hlookup]
  rfl

theorem commits_of_not_mem (h : issue ∉ m.entries.map Prod.fst) : m.commits issue = [] := by
  have hlookup : m.entries.lookup issue = none := by
    rw [List.lookup_eq_none_iff]
    intro e he
    have hne : issue ≠ e.1 := by
      rintro rfl
      exact h (List.mem_map_of_mem he)
    simpa using hne
  unfold commits
  rw [hlookup]
  rfl

end IssueTrace.IssueMap
