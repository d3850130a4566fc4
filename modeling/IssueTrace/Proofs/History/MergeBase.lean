import IssueTrace.Proofs.History.Reach

/-!
# Merge bases

A common ancestor is best when no other common ancestor descends to it.  Every common ancestor is
reached from a best one, but there may be several of those, and the merge base is only one of them.
So leaving out what the merge base reaches leaves out all common ancestors exactly if there are no two
best ones.
-/

namespace IssueTrace.History.Graph

variable {g : Graph} {a b x base : CommitId}

/-- Both commits reach it. -/
def IsCommon (g : Graph) (a b x : CommitId) : Prop := g.Reaches a x ∧ g.Reaches b x

/-- A common ancestor that no other common ancestor reaches. -/
structure IsBest (g : Graph) (a b x : CommitId) : Prop where
  common : g.IsCommon a b x
  eq_of_reaches : ∀ c, g.IsCommon a b c → g.Reaches c x → c = x

theorem mem_reached_singleton : x ∈ g.reached [a] ↔ g.Reaches a x := by
  rw [mem_reached]
  simp

theorem mem_common : x ∈ g.common a b ↔ g.IsCommon a b x := by
  unfold common IsCommon
  rw [List.mem_filter, mem_reached_singleton, List.contains_iff_mem, mem_reached_singleton]

/-- Commits that are below a parent of a common ancestor are not best, and only those. -/
theorem mem_bases : x ∈ g.bases a b ↔ g.IsBest a b x := by
  have hlower : x ∈ g.reached ((g.common a b).flatMap g.parents) ↔
      ∃ c p, g.IsCommon a b c ∧ g.IsParent c p ∧ g.Reaches p x := by
    rw [mem_reached]
    simp only [List.mem_flatMap, mem_common]
    constructor
    · rintro ⟨p, ⟨c, hc, hp⟩, hreach⟩
      exact ⟨c, p, hc, hp, hreach⟩
    · rintro ⟨c, p, hc, hp, hreach⟩
      exact ⟨p, ⟨c, hc, hp⟩, hreach⟩
  unfold bases
  dsimp only
  rw [List.mem_filter, mem_common, Bool.not_eq_true', ← Bool.not_eq_true, List.contains_iff_mem,
    hlower]
  constructor
  · rintro ⟨hcommon, hnone⟩
    refine ⟨hcommon, ?_⟩
    intro c hc hreach
    rcases hreach.eq_or_isParent with heq | ⟨p, hp, hrest⟩
    · exact heq
    · exact absurd ⟨c, p, hc, hp, hrest⟩ hnone
  · intro hbest
    refine ⟨hbest.common, ?_⟩
    rintro ⟨c, p, hc, hp, hreach⟩
    obtain rfl := hbest.eq_of_reaches c hc (.of_isParent hp hreach)
    have hback : p = c := hreach.antisymm (.of_isParent hp (.refl hp.parent_mem))
    have hlt := hp.idxOf_lt
    rw [hback] at hlt
    exact Nat.lt_irrefl _ hlt

/-- Every common ancestor is reached from a best one: what another common ancestor reaches stands
behind it, so going up comes to an end. -/
theorem IsCommon.exists_isBest (h : g.IsCommon a b x) :
    ∃ base, g.IsBest a b base ∧ g.Reaches base x := by
  induction hn : g.ids.idxOf x using Nat.strong_induction_on generalizing x with
  | h n ih =>
      by_cases hbest : g.IsBest a b x
      · exact ⟨x, hbest, .refl h.1.2⟩
      · obtain ⟨c, hc, hreach, hne⟩ : ∃ c, g.IsCommon a b c ∧ g.Reaches c x ∧ c ≠ x := by
          by_contra hnone
          refine hbest ⟨h, fun c hc hreach => ?_⟩
          by_contra hne
          exact hnone ⟨c, hc, hreach, hne⟩
        have hlt := hreach.eq_or_idxOf_lt.resolve_left hne
        obtain ⟨base, hbase, habove⟩ := ih _ (hn ▸ hlt) hc rfl
        exact ⟨base, hbase, habove.trans hreach⟩

/-! ## The merge base -/

theorem foldl_latest (g : Graph) (ids : List CommitId) :
    ∀ best : CommitId, ∃ found, found ∈ best :: ids ∧
      ids.foldl
        (fun best id =>
          match best with
          | none => some id
          | some other => if g.time other < g.time id then some id else best)
        (some best) = some found := by
  induction ids with
  | nil =>
      intro best
      exact ⟨best, List.mem_cons_self, rfl⟩
  | cons id ids ih =>
      intro best
      rw [List.foldl_cons]
      dsimp only
      split
      · obtain ⟨found, hmem, hfound⟩ := ih id
        exact ⟨found, List.mem_cons_of_mem _ hmem, hfound⟩
      · obtain ⟨found, hmem, hfound⟩ := ih best
        refine ⟨found, ?_, hfound⟩
        rcases List.mem_cons.mp hmem with rfl | hmem
        · exact List.mem_cons_self
        · exact List.mem_cons_of_mem _ (List.mem_cons_of_mem _ hmem)

theorem latest?_cons (g : Graph) (id : CommitId) (ids : List CommitId) :
    ∃ found ∈ id :: ids, g.latest? (id :: ids) = some found := by
  obtain ⟨found, hmem, hfound⟩ := foldl_latest g ids id
  exact ⟨found, hmem, hfound⟩

/-- The merge base is a best common ancestor. -/
theorem isBest_of_mergeBase? (h : g.mergeBase? a b = some base) : g.IsBest a b base := by
  unfold mergeBase? at h
  rw [← mem_bases]
  cases hbases : g.bases a b with
  | nil =>
      rw [hbases] at h
      cases h
  | cons id ids =>
      obtain ⟨found, hmem, hfound⟩ := g.latest?_cons id ids
      rw [hbases, hfound] at h
      rwa [← Option.some.inj h]

/-- There is a merge base unless nothing is common. -/
theorem mergeBase?_eq_none_iff : g.mergeBase? a b = none ↔ ∀ x, ¬ g.IsCommon a b x := by
  unfold mergeBase?
  constructor
  · intro h x hx
    obtain ⟨base, hbest, -⟩ := hx.exists_isBest
    rw [← mem_bases] at hbest
    cases hbases : g.bases a b with
    | nil => simp [hbases] at hbest
    | cons id ids =>
        obtain ⟨found, -, hfound⟩ := g.latest?_cons id ids
        rw [hbases, hfound] at h
        cases h
  · intro h
    have hnil : g.bases a b = [] := by
      rw [List.eq_nil_iff_forall_not_mem]
      intro x hx
      exact h x (mem_bases.mp hx).common
    rw [hnil]
    rfl

/-! ## Between two commits -/

theorem mem_between :
    x ∈ g.between a b ↔
      (g.Reaches a x ∨ g.Reaches b x) ∧
        ∀ base, g.mergeBase? a b = some base → ¬ g.Reaches base x := by
  unfold between
  dsimp only
  rw [List.mem_filter, mem_reached, Bool.not_eq_true', ← Bool.not_eq_true, List.contains_iff_mem]
  apply and_congr
  · simp
  · cases g.mergeBase? a b with
    | none => simp
    | some base => simp [mem_reached_singleton]

theorem between_nodup (g : Graph) (a b : CommitId) : (g.between a b).Nodup :=
  (g.reached_nodup _).filter _

/-- Exactly one of the two commits reaches it. -/
def OnOneSide (g : Graph) (a b x : CommitId) : Prop :=
  g.Reaches a x ∧ ¬ g.Reaches b x ∨ g.Reaches b x ∧ ¬ g.Reaches a x

/-- What only one of the two reaches is between them. -/
theorem OnOneSide.mem_between (h : g.OnOneSide a b x) : x ∈ g.between a b := by
  rw [Graph.mem_between]
  constructor
  · rcases h with ⟨hx, -⟩ | ⟨hx, -⟩
    · exact .inl hx
    · exact .inr hx
  · intro base hbase hreach
    have hcommon := (isBest_of_mergeBase? hbase).common
    rcases h with ⟨-, hnot⟩ | ⟨-, hnot⟩
    · exact hnot (hcommon.2.trans hreach)
    · exact hnot (hcommon.1.trans hreach)

/-- A common ancestor is between the two exactly if the merge base does not reach it. -/
theorem IsCommon.mem_between_iff (h : g.IsCommon a b x) (hbase : g.mergeBase? a b = some base) :
    x ∈ g.between a b ↔ ¬ g.Reaches base x := by
  rw [Graph.mem_between, hbase]
  constructor
  · rintro ⟨-, hnot⟩
    exact hnot base rfl
  · intro hnot
    refine ⟨.inl h.1, ?_⟩
    rintro _ ⟨⟩
    exact hnot

/-- Just what one of the two reaches is between them, exactly if no two common ancestors are best. -/
theorem between_eq_onOneSide_iff :
    (∀ x, x ∈ g.between a b ↔ g.OnOneSide a b x) ↔
      ∀ base base', g.IsBest a b base → g.IsBest a b base' → base = base' := by
  have hsides : ∀ {x}, g.IsCommon a b x → ¬ g.OnOneSide a b x := by
    rintro x hx (⟨-, hnot⟩ | ⟨-, hnot⟩)
    · exact hnot hx.2
    · exact hnot hx.1
  constructor
  · intro hexact
    have hmerge : ∀ base', g.IsBest a b base' → g.mergeBase? a b = some base' := by
      intro base' hbest
      cases hbase : g.mergeBase? a b with
      | none => exact absurd hbest.common (mergeBase?_eq_none_iff.mp hbase base')
      | some base =>
          have hout : base' ∉ g.between a b := by
            rw [hexact]
            exact hsides hbest.common
          rw [hbest.common.mem_between_iff hbase, not_not] at hout
          rw [hbest.eq_of_reaches base (isBest_of_mergeBase? hbase).common hout]
    intro base base' hbest hbest'
    have heq := (hmerge base hbest).symm.trans (hmerge base' hbest')
    exact Option.some.inj heq
  · intro hunique x
    refine ⟨?_, OnOneSide.mem_between⟩
    intro hx
    by_contra hnot
    have hreached := (Graph.mem_between.mp hx).1
    have hcommon : g.IsCommon a b x := by
      unfold OnOneSide at hnot
      unfold IsCommon
      tauto
    obtain ⟨best, hbest, hreach⟩ := hcommon.exists_isBest
    cases hbase : g.mergeBase? a b with
    | none => exact mergeBase?_eq_none_iff.mp hbase x hcommon
    | some base =>
        have heq := hunique base best (isBest_of_mergeBase? hbase) hbest
        rw [← heq] at hreach
        exact (hcommon.mem_between_iff hbase).mp hx hreach

end IssueTrace.History.Graph
