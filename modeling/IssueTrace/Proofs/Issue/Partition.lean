import IssueTrace.Proofs.Issue.Grouping
import IssueTrace.Proofs.Text.ByteOrder

/-!
# Nothing is lost by grouping

The lists of a map that is made from commits are the commits with a reference, sorted out by issue:
each of them stands in the list of its own issue and in no other, and the order is kept.  The issues
themselves stand in the order of their bytes.
-/

namespace IssueTrace.IssueMap

variable {issue : String} {commits more : List Commit} {pattern : IssuePattern}

theorem ascending_encode (m : IssueMap) :
    (m.entries.map fun e => Text.encode e.1).Pairwise (· < ·) := by
  have hissues := m.ascending
  rw [List.pairwise_map] at hissues ⊢
  exact hissues.imp Text.encode_lt_encode

theorem mem_keys_ofCommits_iff :
    issue ∈ (ofCommits commits pattern).entries.map Prod.fst ↔
      ∃ c ∈ commits, pattern.issueId? c.message = some issue := by
  rw [mem_keys_ofCommits, List.mem_filterMap]

theorem ids_ne_nil_of_mem {e : String × List CommitId}
    (he : e ∈ (ofCommits commits pattern).entries) : e.2 ≠ [] := by
  obtain ⟨c, hc, hissue⟩ := mem_keys_ofCommits_iff.mp (List.mem_map_of_mem he)
  have hid : c.id ∈ (ofCommits commits pattern).commits e.1 := by
    rw [commits_ofCommits]
    exact List.mem_map_of_mem (List.mem_filter.mpr ⟨hc, decide_eq_true hissue⟩)
  rw [commits_of_mem he] at hid
  exact List.ne_nil_of_mem hid

/-- Commits that come later are entered behind those of the same issue. -/
theorem commits_ofCommits_append :
    (ofCommits (commits ++ more) pattern).commits issue =
      (ofCommits commits pattern).commits issue ++ (ofCommits more pattern).commits issue := by
  rw [commits_ofCommits, commits_ofCommits, commits_ofCommits, List.filter_append, List.map_append]

/-- An issue has the ids of the commits that refer to it, in order and as often as they occur.  The
issues of the map are those that some commit refers to, in the order of their bytes, each with its
list, which is not empty.  The lists hold as many ids together as there are commits with a reference,
and the lists of commits put behind others are put behind theirs. -/
theorem ofCommits_groups (commits : List Commit) (pattern : IssuePattern) :
    (∀ issue, (ofCommits commits pattern).commits issue =
      (commits.filter fun c => pattern.issueId? c.message = some issue).map Commit.id) ∧
    (∀ issue, issue ∈ (ofCommits commits pattern).entries.map Prod.fst ↔
      ∃ c ∈ commits, pattern.issueId? c.message = some issue) ∧
    ((ofCommits commits pattern).entries.map fun e => Text.encode e.1).Pairwise (· < ·) ∧
    (∀ e ∈ (ofCommits commits pattern).entries,
      (ofCommits commits pattern).commits e.1 = e.2 ∧ e.2 ≠ []) ∧
    ((ofCommits commits pattern).entries.map fun e => e.2.length).sum =
      commits.countP (fun c => (pattern.issueId? c.message).isSome) ∧
    ∀ more issue, (ofCommits (commits ++ more) pattern).commits issue =
      (ofCommits commits pattern).commits issue ++ (ofCommits more pattern).commits issue := by
  refine ⟨?_, ?_, ?_, ?_, ?_, ?_⟩
  · intro issue
    exact commits_ofCommits
  · intro issue
    exact mem_keys_ofCommits_iff
  · exact ascending_encode _
  · intro e he
    exact ⟨commits_of_mem he, ids_ne_nil_of_mem he⟩
  · exact linkCount_ofCommits
  · intro more issue
    exact commits_ofCommits_append

/-- Commits that refer to issues whose numbers are equal in value or begin alike, and one that refers
to none. -/
def mixedCommits : List Commit :=
  [⟨⟨"a"⟩, "fix #2", []⟩, ⟨⟨"b"⟩, "no issue", []⟩, ⟨⟨"c"⟩, "Fix #10", []⟩, ⟨⟨"d"⟩, "fix #010", []⟩,
    ⟨⟨"e"⟩, "FIX #2 again", []⟩, ⟨⟨"f"⟩, "fix #٢", []⟩]

/-- Issues whose numbers are equal in value are kept apart. -/
theorem ofCommits_groups_of_mixed :
    (ofCommits mixedCommits ⟨["fix".toList]⟩).entries.map Prod.fst = ["010", "10", "2", "٢"] ∧
      ("2", [⟨"a"⟩, ⟨"e"⟩]) ∈ (ofCommits mixedCommits ⟨["fix".toList]⟩).entries ∧
      (ofCommits mixedCommits ⟨["fix".toList]⟩).commits "2" = [⟨"a"⟩, ⟨"e"⟩] := by
  have hissues : (ofCommits mixedCommits ⟨["fix".toList]⟩).entries.map Prod.fst =
      ["010", "10", "2", "٢"] := by
    decide +kernel
  have hmem : ("2", [⟨"a"⟩, ⟨"e"⟩]) ∈ (ofCommits mixedCommits ⟨["fix".toList]⟩).entries := by
    decide +kernel
  obtain ⟨-, -, -, hlists, -⟩ := ofCommits_groups mixedCommits ⟨["fix".toList]⟩
  exact ⟨hissues, hmem, (hlists _ hmem).1⟩

end IssueTrace.IssueMap
