import IssueTrace.History.Revision
import IssueTrace.Proofs.History.MergeBase
import IssueTrace.Proofs.History.Walk

/-!
# The window between two revisions

The window lists what either end descends from and the merge base does not, each commit once.  What
only one of the ends reaches is always among it.  A common ancestor is listed as well when it is not
reached from the merge base, which happens exactly if there are several best common ancestors.
-/

namespace IssueTrace.History

open scoped List

namespace Graph

variable {g : Graph} {a b x y : CommitId}

/-! ## The commits of a window -/

theorem between_subset_ids (g : Graph) (a b : CommitId) : g.between a b ⊆ g.ids := by
  intro x hx
  rcases (mem_between.mp hx).1 with hreach | hreach
  · exact hreach.2
  · exact hreach.2

theorem mem_between_of_isParent (hstep : g.IsParent x y) (hx : g.Reaches a x ∨ g.Reaches b x)
    (hy : y ∈ g.between a b) : x ∈ g.between a b := by
  obtain ⟨-, hhidden⟩ := mem_between.mp hy
  refine mem_between.mpr ⟨hx, ?_⟩
  intro base hbase hreach
  exact hhidden base hbase (hreach.trans (.of_isParent hstep (.refl hstep.parent_mem)))

/-- The way from an end to a commit between the two stays between them. -/
theorem way_between {tip : CommitId} (htip : tip = a ∨ tip = b) (hreach : g.Reaches tip x)
    (hx : x ∈ g.between a b) :
    tip ∈ g.between a b ∧
      Relation.ReflTransGen (fun c p => g.IsParent c p ∧ p ∈ g.between a b) tip x := by
  obtain ⟨hpath, -⟩ := hreach
  induction hpath with
  | refl => exact ⟨hx, .refl⟩
  | @tail c p hway hstep ih =>
      have hbefore : g.Reaches tip c := ⟨hway, hstep.child_mem⟩
      have hends : g.Reaches a c ∨ g.Reaches b c := by
        rcases htip with rfl | rfl
        · exact .inl hbefore
        · exact .inr hbefore
      obtain ⟨htipIn, hmade⟩ := ih (mem_between_of_isParent hstep hends hx)
      exact ⟨htipIn, hmade.tail ⟨hstep, hx⟩⟩

theorem between_isLed (g : Graph) (a b : CommitId) : g.IsLed (g.between a b) [b, a] := by
  intro x hx
  rcases (mem_between.mp hx).1 with hreach | hreach
  · obtain ⟨htip, hway⟩ := way_between (.inl rfl) hreach hx
    exact ⟨a, by simp, htip, hway⟩
  · obtain ⟨htip, hway⟩ := way_between (.inr rfl) hreach hx
    exact ⟨b, by simp, htip, hway⟩

/-- A window lists the commits between its ends, each once. -/
theorem window_perm (g : Graph) (a b : CommitId) : g.window a b ~ g.between a b :=
  ranked_perm (g.between_nodup a b) (g.between_subset_ids a b) (g.between_isLed a b)

end Graph

/-! ## The window of a history -/

variable {h : History}

theorem commit_of_mem {id : CommitId} (hid : id ∈ h.graph.ids) :
    ∃ c, h.toRepository.commit id = .ok c ∧ c.id = id := by
  obtain ⟨r, hr⟩ := Option.isSome_iff_exists.mp (Graph.isSome_find?_iff.mpr hid)
  have hown : r.id = id := by simpa using List.find?_some hr
  refine ⟨r.commit, ?_, hown⟩
  change (h.record id).map Record.commit = _
  unfold record
  rw [hr]
  rfl

theorem mapM_commit_eq_ok {ids : List CommitId} (hids : ids ⊆ h.graph.ids) :
    ∃ commits, ids.mapM h.toRepository.commit = .ok commits ∧ commits.map Commit.id = ids ∧
      ∀ c ∈ commits, h.toRepository.commit c.id = .ok c := by
  induction ids with
  | nil => exact ⟨[], rfl, rfl, by simp⟩
  | cons id ids ih =>
      obtain ⟨c, hc, hown⟩ := commit_of_mem (hids List.mem_cons_self)
      obtain ⟨commits, hcommits, hmap, hall⟩ :=
        ih fun x hx => hids (List.mem_cons_of_mem _ hx)
      refine ⟨c :: commits, ?_, ?_, ?_⟩
      · rw [List.mapM_cons, hc, hcommits]
        rfl
      · rw [List.map_cons, hown, hmap]
      · intro c' hc'
        rcases List.mem_cons.mp hc' with rfl | hc'
        · rwa [hown]
        · exact hall c' hc'

theorem window_of_resolve {first last : String} {start stop : CommitId}
    (hstart : resolve h first = .ok start) (hstop : resolve h last = .ok stop) :
    window h first last = (h.graph.window start stop).mapM h.toRepository.commit := by
  unfold window
  rw [hstart, hstop]
  rfl

/-- The window of two revisions lists commits of the history, each once.  It lists every commit that
just one of the two reaches, and of their common ancestors those that the merge base does not reach.
So it is the symmetric difference exactly if no two common ancestors are best. -/
theorem window_lists {first last : String} {start stop : CommitId}
    (hstart : resolve h first = .ok start) (hstop : resolve h last = .ok stop) :
    ∃ commits, window h first last = .ok commits ∧
      (commits.map Commit.id).Nodup ∧
      (∀ c ∈ commits, h.toRepository.commit c.id = .ok c) ∧
      (∀ id ∈ commits.map Commit.id, h.graph.Reaches start id ∨ h.graph.Reaches stop id) ∧
      (∀ id, h.graph.OnOneSide start stop id → id ∈ commits.map Commit.id) ∧
      (∀ id, h.graph.IsCommon start stop id →
        ∃ base, h.graph.mergeBase? start stop = some base ∧ h.graph.IsBest start stop base ∧
          (id ∈ commits.map Commit.id ↔ ¬ h.graph.Reaches base id)) ∧
      ((∀ id, id ∈ commits.map Commit.id ↔ h.graph.OnOneSide start stop id) ↔
        ∀ base base', h.graph.IsBest start stop base → h.graph.IsBest start stop base' →
          base = base') := by
  have hperm := h.graph.window_perm start stop
  have hids : h.graph.window start stop ⊆ h.graph.ids := by
    intro x hx
    exact h.graph.between_subset_ids start stop (hperm.mem_iff.mp hx)
  obtain ⟨commits, hcommits, hmap, hall⟩ := mapM_commit_eq_ok hids
  have hmem : ∀ id, id ∈ commits.map Commit.id ↔ id ∈ h.graph.between start stop := by
    intro id
    rw [hmap, hperm.mem_iff]
  refine ⟨commits, ?_, ?_, hall, ?_, ?_, ?_, ?_⟩
  · rw [window_of_resolve hstart hstop, hcommits]
  · rw [hmap, hperm.nodup_iff]
    exact h.graph.between_nodup start stop
  · intro id hid
    exact (Graph.mem_between.mp ((hmem id).mp hid)).1
  · intro id hside
    exact (hmem id).mpr hside.mem_between
  · intro id hcommon
    cases hbase : h.graph.mergeBase? start stop with
    | none => exact absurd hcommon (Graph.mergeBase?_eq_none_iff.mp hbase id)
    | some base =>
        refine ⟨base, rfl, Graph.isBest_of_mergeBase? hbase, ?_⟩
        rw [hmem, hcommon.mem_between_iff hbase]
  · simp only [hmem]
    exact Graph.between_eq_onOneSide_iff

/-! ## Two histories -/

namespace Graph.Sample

/-- An id of forty equal digits. -/
def idOf (digit : Char) : CommitId := ⟨String.ofList (List.replicate 40 digit)⟩

/-- A commit without files. -/
def recordOf (digit : Char) (parents : List Char) (time : Int) : Record :=
  ⟨idOf digit, parents.map idOf, time, [], ⟨[]⟩⟩

/-- Two commits on top of one. -/
def fork : History where
  graph :=
    { records := [recordOf '3' ['1'] 3000, recordOf '2' ['1'] 2000, recordOf '1' [] 1000] }
  references := [("refs/heads/main", .commit (idOf '2')), ("refs/heads/side", .commit (idOf '3'))]

/-- Two commits on top of one, and two merges of them. -/
def crissCross : History where
  graph :=
    { records :=
        [recordOf 'e' ['b', 'a'] 5000, recordOf 'd' ['a', 'b'] 4000, recordOf 'b' ['c'] 3000,
          recordOf 'a' ['c'] 2000, recordOf 'c' [] 1000] }
  references := [("refs/heads/main", .commit (idOf 'd')), ("refs/heads/side", .commit (idOf 'e'))]

end Graph.Sample

open Graph.Sample

/-- The window between the two sides of a fork is what just one of them reaches. -/
theorem window_lists_of_fork :
    resolve fork "main" = .ok (idOf '2') ∧ resolve fork "side" = .ok (idOf '3') ∧
    ∃ commits, window fork "main" "side" = .ok commits ∧
      ∀ id, id ∈ commits.map Commit.id ↔ fork.graph.OnOneSide (idOf '2') (idOf '3') id := by
  have hstart : resolve fork "main" = .ok (idOf '2') := by decide +kernel
  have hstop : resolve fork "side" = .ok (idOf '3') := by decide +kernel
  have hbases : fork.graph.bases (idOf '2') (idOf '3') = [idOf '1'] := by decide +kernel
  obtain ⟨commits, hcommits, -, -, -, -, -, hexact⟩ := window_lists hstart hstop
  refine ⟨hstart, hstop, commits, hcommits, hexact.mpr ?_⟩
  intro base base' hbest hbest'
  rw [← Graph.mem_bases, hbases, List.mem_singleton] at hbest hbest'
  rw [hbest, hbest']

/-- After merges in both directions, one of the two commits that were merged is in the window, though
both ends reach it. -/
theorem window_lists_common :
    ∃ commits, window crissCross "main" "side" = .ok commits ∧
      commits.map Commit.id = [idOf 'e', idOf 'd', idOf 'a'] ∧
      crissCross.graph.Reaches (idOf 'd') (idOf 'a') ∧
      crissCross.graph.Reaches (idOf 'e') (idOf 'a') := by
  refine ⟨[⟨idOf 'e', "", [idOf 'b', idOf 'a']⟩, ⟨idOf 'd', "", [idOf 'a', idOf 'b']⟩,
    ⟨idOf 'a', "", [idOf 'c']⟩], ?_, rfl, ?_, ?_⟩
  · decide +kernel
  · rw [← Graph.mem_reached_singleton]
    decide +kernel
  · rw [← Graph.mem_reached_singleton]
    decide +kernel

end IssueTrace.History
