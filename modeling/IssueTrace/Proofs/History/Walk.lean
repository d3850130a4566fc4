import IssueTrace.Proofs.History.Queue
import IssueTrace.Proofs.History.Reach
import Mathlib.Data.List.Perm.Subperm

/-!
# Going through commits

From the tips on, commits are taken from an agenda, and their wanted parents are entered in it unless
they were seen.  Every wanted commit to which a way of wanted commits leads is visited, and each just
once: what was seen is on the agenda or done, and the parents of what is done were seen.
-/

namespace IssueTrace.History.Graph

open scoped List

/-! ## The agenda -/

theorem eraseDups_nodup {α : Type} [BEq α] [LawfulBEq α] (xs : List α) : xs.eraseDups.Nodup := by
  induction hn : xs.length using Nat.strong_induction_on generalizing xs with
  | h n ih =>
      cases xs with
      | nil => simp
      | cons x xs =>
          rw [List.eraseDups_cons, List.nodup_cons]
          constructor
          · simp
          · refine ih _ ?_ _ rfl
            have hle := List.length_filter_le (fun y => !y == x) xs
            rw [List.length_cons] at hn
            omega

variable {g : Graph} {wanted : List CommitId}

theorem enter_perm (g : Graph) (id : CommitId) (agenda : List CommitId) :
    g.enter id agenda ~ id :: agenda := by
  induction agenda with
  | nil => exact .refl _
  | cons other rest ih =>
      unfold enter
      split
      · exact .refl _
      · exact (ih.cons other).trans (.swap id other rest)

theorem foldl_enter_perm (g : Graph) (fresh : List CommitId) :
    ∀ agenda, fresh.foldl (fun agenda p => g.enter p agenda) agenda ~ fresh ++ agenda := by
  induction fresh with
  | nil =>
      intro agenda
      exact .refl _
  | cons p fresh ih =>
      intro agenda
      rw [List.foldl_cons]
      calc fresh.foldl (fun agenda p => g.enter p agenda) (g.enter p agenda)
        _ ~ fresh ++ g.enter p agenda := ih _
        _ ~ fresh ++ p :: agenda := (g.enter_perm p agenda).append_left fresh
        _ ~ p :: (fresh ++ agenda) := List.perm_middle

/-- The parents of a commit that are wanted and were not seen. -/
def fresh (g : Graph) (wanted seen : List CommitId) (id : CommitId) : List CommitId :=
  ((g.parents id).filter (wanted.contains ·)).eraseDups.filter (!seen.contains ·)

theorem mem_fresh {seen : List CommitId} {id p : CommitId} :
    p ∈ g.fresh wanted seen id ↔ g.IsParent id p ∧ p ∈ wanted ∧ p ∉ seen := by
  unfold fresh IsParent
  rw [List.mem_filter, List.mem_eraseDups, List.mem_filter, List.contains_iff_mem,
    Bool.not_eq_true', ← Bool.not_eq_true, List.contains_iff_mem, and_assoc]

theorem fresh_nodup (g : Graph) (wanted seen : List CommitId) (id : CommitId) :
    (g.fresh wanted seen id).Nodup :=
  (eraseDups_nodup _).filter _

/-- The agenda after a commit was taken from it. -/
def refill (g : Graph) (wanted seen : List CommitId) (id : CommitId) (agenda : List CommitId) :
    List CommitId :=
  (g.fresh wanted seen id).foldl (fun agenda p => g.enter p agenda) agenda

theorem walk_cons (fuel : Nat) (id : CommitId) (agenda seen : List CommitId) :
    g.walk wanted (fuel + 1) (id :: agenda) seen =
      id :: g.walk wanted fuel (g.refill wanted seen id agenda)
        (g.fresh wanted seen id ++ seen) :=
  rfl

/-! ## One step -/

/-- How many wanted commits were not seen. -/
def unseen (wanted seen : List CommitId) : Nat := (wanted.filter (!seen.contains ·)).length

/-- What holds between any two steps: each commit of the agenda is there once and was seen, and the
steps that are left suffice. -/
structure Going (wanted : List CommitId) (fuel : Nat) (agenda seen : List CommitId) : Prop where
  nodup : agenda.Nodup
  was_seen : ∀ x ∈ agenda, x ∈ seen
  enough : agenda.length + unseen wanted seen ≤ fuel

theorem refill_perm (seen : List CommitId) (id : CommitId) (agenda : List CommitId) :
    g.refill wanted seen id agenda ~ g.fresh wanted seen id ++ agenda :=
  g.foldl_enter_perm _ agenda

theorem length_add_unseen_le (hwanted : wanted.Nodup) {seen new : List CommitId}
    (hnew : new.Nodup) (hmem : ∀ x ∈ new, x ∈ wanted ∧ x ∉ seen) :
    new.length + unseen wanted (new ++ seen) ≤ unseen wanted seen := by
  unfold unseen
  rw [← List.length_append]
  apply List.Subperm.length_le
  apply List.subperm_of_subset
  · refine List.nodup_append.mpr ⟨hnew, hwanted.filter _, ?_⟩
    rintro x hx y hy rfl
    simp [hx] at hy
  · intro x hx
    rcases List.mem_append.mp hx with hx | hx
    · simp [hmem x hx]
    · simp only [List.mem_filter, Bool.not_eq_true', ← Bool.not_eq_true, List.contains_iff_mem,
        List.mem_append, not_or] at hx ⊢
      exact ⟨hx.1, hx.2.2⟩

theorem Going.step (hwanted : wanted.Nodup) {fuel : Nat} {id : CommitId}
    {agenda seen : List CommitId} (h : Going wanted (fuel + 1) (id :: agenda) seen) :
    Going wanted fuel (g.refill wanted seen id agenda) (g.fresh wanted seen id ++ seen) := by
  obtain ⟨hid, hagenda⟩ := List.nodup_cons.mp h.nodup
  have hperm : g.refill wanted seen id agenda ~ g.fresh wanted seen id ++ agenda :=
    refill_perm seen id agenda
  constructor
  · rw [hperm.nodup_iff, List.nodup_append]
    refine ⟨g.fresh_nodup wanted seen id, hagenda, ?_⟩
    rintro x hx y hy rfl
    exact (mem_fresh.mp hx).2.2 (h.was_seen x (List.mem_cons_of_mem _ hy))
  · intro x hx
    rcases List.mem_append.mp (hperm.mem_iff.mp hx) with hx | hx
    · exact List.mem_append_left _ hx
    · exact List.mem_append_right _ (h.was_seen x (List.mem_cons_of_mem _ hx))
  · have henough := h.enough
    have hless := length_add_unseen_le hwanted (g.fresh_nodup wanted seen id)
      fun x hx => (mem_fresh.mp hx).2
    rw [hperm.length_eq, List.length_append]
    rw [List.length_cons] at henough
    omega

/-! ## The whole way -/

/-- What a walk visits: each commit once, those of the agenda and further ones that are wanted and
were not seen, and with a commit also its wanted parents unless they were seen. -/
structure Visits (g : Graph) (wanted agenda seen visited : List CommitId) : Prop where
  nodup : visited.Nodup
  agenda_mem : ∀ x ∈ agenda, x ∈ visited
  mem_or : ∀ x ∈ visited, x ∈ agenda ∨ x ∈ wanted ∧ x ∉ seen
  parent_mem : ∀ x ∈ visited, ∀ p, g.IsParent x p → p ∈ wanted → p ∈ seen ∨ p ∈ visited

theorem Visits.nil (g : Graph) (wanted seen : List CommitId) : Visits g wanted [] seen [] where
  nodup := .nil
  agenda_mem := by simp
  mem_or := by simp
  parent_mem := by simp

/-- What is visited first goes before what the refilled agenda leads to. -/
theorem Visits.cons {fuel : Nat} {id : CommitId} {agenda seen visited : List CommitId}
    (hgoing : Going wanted (fuel + 1) (id :: agenda) seen)
    (h : Visits g wanted (g.refill wanted seen id agenda) (g.fresh wanted seen id ++ seen) visited) :
    Visits g wanted (id :: agenda) seen (id :: visited) := by
  obtain ⟨hid, -⟩ := List.nodup_cons.mp hgoing.nodup
  have hseen := hgoing.was_seen id List.mem_cons_self
  have hrefill : ∀ x, x ∈ g.refill wanted seen id agenda ↔
      x ∈ g.fresh wanted seen id ∨ x ∈ agenda := by
    intro x
    rw [(refill_perm seen id agenda).mem_iff, List.mem_append]
  have hfresh : ∀ x ∈ g.fresh wanted seen id, x ∈ visited := by
    intro x hx
    exact h.agenda_mem x ((hrefill x).mpr (.inl hx))
  constructor
  · rw [List.nodup_cons]
    refine ⟨?_, h.nodup⟩
    intro hmem
    rcases h.mem_or id hmem with hagain | ⟨-, hnot⟩
    · rcases (hrefill id).mp hagain with hagain | hagain
      · exact (mem_fresh.mp hagain).2.2 hseen
      · exact hid hagain
    · exact hnot (List.mem_append_right _ hseen)
  · intro x hx
    rcases List.mem_cons.mp hx with rfl | hx
    · exact List.mem_cons_self
    · exact List.mem_cons_of_mem _ (h.agenda_mem x ((hrefill x).mpr (.inr hx)))
  · intro x hx
    rcases List.mem_cons.mp hx with rfl | hx
    · exact .inl List.mem_cons_self
    · rcases h.mem_or x hx with hagenda | ⟨hw, hnot⟩
      · rcases (hrefill x).mp hagenda with hnew | hold
        · exact .inr (mem_fresh.mp hnew).2
        · exact .inl (List.mem_cons_of_mem _ hold)
      · exact .inr ⟨hw, fun hx => hnot (List.mem_append_right _ hx)⟩
  · intro x hx p hp hw
    rcases List.mem_cons.mp hx with rfl | hx
    · by_cases hold : p ∈ seen
      · exact .inl hold
      · exact .inr (List.mem_cons_of_mem _ (hfresh p (mem_fresh.mpr ⟨hp, hw, hold⟩)))
    · rcases h.parent_mem x hx p hp hw with hknown | hvisited
      · rcases List.mem_append.mp hknown with hnew | hold
        · exact .inr (List.mem_cons_of_mem _ (hfresh p hnew))
        · exact .inl hold
      · exact .inr (List.mem_cons_of_mem _ hvisited)

theorem walk_visits (g : Graph) (hwanted : wanted.Nodup) (fuel : Nat) :
    ∀ {agenda seen : List CommitId}, Going wanted fuel agenda seen →
      Visits g wanted agenda seen (g.walk wanted fuel agenda seen) := by
  induction fuel with
  | zero =>
      intro agenda seen h
      have hnil : agenda = [] := by
        have henough := h.enough
        exact List.length_eq_zero_iff.mp (by omega)
      subst hnil
      exact .nil g wanted seen
  | succ fuel ih =>
      intro agenda seen h
      cases agenda with
      | nil => exact .nil g wanted seen
      | cons id agenda =>
          rw [walk_cons]
          exact .cons h (ih (h.step hwanted))

/-! ## Wanted commits in order -/

/-- A way of wanted commits leads from one of the tips to each wanted commit. -/
def IsLed (g : Graph) (wanted tips : List CommitId) : Prop :=
  ∀ x ∈ wanted, ∃ tip ∈ tips, tip ∈ wanted ∧
    Relation.ReflTransGen (fun c p => g.IsParent c p ∧ p ∈ wanted) tip x

/-- If ways lead to all wanted commits, those are what is listed, each once. -/
theorem ranked_perm {tips : List CommitId} (hwanted : wanted.Nodup) (hids : wanted ⊆ g.ids)
    (hled : g.IsLed wanted tips) : g.ranked wanted tips ~ wanted := by
  unfold ranked byTime
  dsimp only
  refine (Queue.drain_perm _ _).trans ?_
  have htip : ∀ x, x ∈ (tips.filter (wanted.contains ·)).eraseDups ↔ x ∈ tips ∧ x ∈ wanted := by
    intro x
    rw [List.mem_eraseDups, List.mem_filter, List.contains_iff_mem]
  have hstart : Going wanted g.records.length (tips.filter (wanted.contains ·)).eraseDups
      (tips.filter (wanted.contains ·)).eraseDups := by
    refine ⟨eraseDups_nodup _, fun _ hx => hx, ?_⟩
    have htips : ∀ x ∈ (tips.filter (wanted.contains ·)).eraseDups, x ∈ wanted ∧ x ∉ [] := by
      intro x hx
      exact ⟨((htip x).mp hx).2, List.not_mem_nil⟩
    have hless := length_add_unseen_le hwanted (eraseDups_nodup _) htips
    have hall : unseen wanted [] = wanted.length := by simp [unseen]
    have hrecords : wanted.length ≤ g.records.length := by
      have hids := (List.subperm_of_subset hwanted hids).length_le
      rwa [ids, List.length_map] at hids
    rw [List.append_nil] at hless
    omega
  have hvisits := g.walk_visits hwanted _ hstart
  refine (List.perm_ext_iff_of_nodup hvisits.nodup hwanted).mpr ?_
  intro x
  constructor
  · intro hx
    rcases hvisits.mem_or x hx with htips | ⟨hw, -⟩
    · exact ((htip x).mp htips).2
    · exact hw
  · intro hx
    obtain ⟨tip, htips, hw, hway⟩ := hled x hx
    clear hx
    induction hway with
    | refl => exact hvisits.agenda_mem tip ((htip tip).mpr ⟨htips, hw⟩)
    | tail _ hstep ih =>
        rcases hvisits.parent_mem _ ih _ hstep.1 hstep.2 with hseen | hvisited
        · exact hvisits.agenda_mem _ hseen
        · exact hvisited

end IssueTrace.History.Graph
