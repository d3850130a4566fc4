import IssueTrace.History.Graph
import Mathlib.Data.List.Infix
import Mathlib.Logic.Relation

/-!
# What commits descend from

A commit reaches itself and what its parents reach.  A commit stands before its parents, so this is
settled from the earliest commit on: one pass over the commits finds what given ones reach, each
commit once.
-/

namespace IssueTrace.History.Graph

open Relation (ReflTransGen TransGen)

/-! ## Graphs commit by commit -/

/-- The commits of a graph. -/
def ids (g : Graph) : List CommitId := g.records.map Record.id

/-- Every graph comes about commit by commit. -/
theorem induction_on_commits {motive : Graph → Prop} (empty : motive empty)
    (extend : ∀ g r (h : g.Admits r), motive g → motive (g.extend r h))
    (g : Graph) : motive g := by
  obtain ⟨records, hordered, hfull⟩ := g
  induction records with
  | nil => exact empty
  | cons r earlier ih =>
      have hboth := hordered
      unfold inOrder at hboth
      rw [Bool.and_eq_true] at hboth
      obtain ⟨hr, hearlier⟩ := List.forall_mem_cons.mp hfull
      exact extend ⟨earlier, hboth.2, hearlier⟩ r ⟨hr, hboth.1⟩ (ih hboth.2 hearlier)

variable {g : Graph} {r : Record}

theorem Admits.not_mem (h : g.Admits r) : r.id ∉ g.ids := by
  have hfollows := h.follows
  unfold mayFollow at hfollows
  rw [Bool.and_eq_true] at hfollows
  simpa [ids] using hfollows.1

theorem Admits.parent_mem (h : g.Admits r) {p : CommitId} (hp : p ∈ r.parents) : p ∈ g.ids := by
  have hfollows := h.follows
  unfold mayFollow at hfollows
  rw [Bool.and_eq_true, List.all_eq_true] at hfollows
  simpa [ids] using hfollows.2 p hp

theorem ids_extend (h : g.Admits r) : (g.extend r h).ids = r.id :: g.ids := rfl

theorem ids_nodup (g : Graph) : g.ids.Nodup := by
  induction g using induction_on_commits with
  | empty => exact .nil
  | extend g r h ih => exact List.nodup_cons.mpr ⟨h.not_mem, ih⟩

theorem isSome_find?_iff {id : CommitId} : (g.find? id).isSome = true ↔ id ∈ g.ids := by
  unfold find? ids
  rw [List.find?_isSome, List.mem_map]
  simp

/-! ## Parents -/

/-- The second commit is a parent of the first. -/
def IsParent (g : Graph) (child parent : CommitId) : Prop := parent ∈ g.parents child

theorem not_isParent_empty {c p : CommitId} : ¬ empty.IsParent c p := by
  intro h
  cases h

theorem isParent_extend (h : g.Admits r) {c p : CommitId} :
    (g.extend r h).IsParent c p ↔ if c = r.id then p ∈ r.parents else g.IsParent c p := by
  unfold IsParent parents find? extend
  by_cases hc : c = r.id
  · rw [if_pos hc, List.find?_cons_of_pos (by simp [hc])]
    rfl
  · rw [if_neg hc, List.find?_cons_of_neg (by simpa using fun heq => hc heq.symm)]

theorem IsParent.child_mem {c p : CommitId} (h : g.IsParent c p) : c ∈ g.ids := by
  rw [← isSome_find?_iff]
  unfold IsParent parents at h
  cases hfind : g.find? c with
  | none => simp [hfind] at h
  | some found => rfl

theorem IsParent.parent_mem {c p : CommitId} (h : g.IsParent c p) : p ∈ g.ids := by
  induction g using induction_on_commits with
  | empty => exact absurd h not_isParent_empty
  | extend g r hr ih =>
      rw [ids_extend]
      rw [isParent_extend] at h
      split at h
      · exact List.mem_cons_of_mem _ (hr.parent_mem h)
      · exact List.mem_cons_of_mem _ (ih h)

/-- A commit stands before its parents. -/
theorem IsParent.idxOf_lt {c p : CommitId} (h : g.IsParent c p) :
    g.ids.idxOf c < g.ids.idxOf p := by
  induction g using induction_on_commits with
  | empty => exact absurd h not_isParent_empty
  | extend g r hr ih =>
      have hnew := hr.not_mem
      rw [isParent_extend] at h
      rw [ids_extend]
      by_cases hc : c = r.id
      · rw [if_pos hc] at h
        have hp : r.id ≠ p := by
          rintro rfl
          exact hnew (hr.parent_mem h)
        rw [hc, List.idxOf_cons_self, List.idxOf_cons_ne _ hp]
        exact Nat.succ_pos _
      · rw [if_neg hc] at h
        have hp : r.id ≠ p := by
          rintro rfl
          exact hnew h.parent_mem
        rw [List.idxOf_cons_ne _ (Ne.symm hc), List.idxOf_cons_ne _ hp]
        exact Nat.succ_lt_succ (ih h)

/-! ## Descent -/

/-- A commit of the graph is the first one, or one that the first descends from. -/
def Reaches (g : Graph) (a b : CommitId) : Prop := ReflTransGen g.IsParent a b ∧ b ∈ g.ids

namespace Reaches

variable {a b c : CommitId}

theorem refl (h : a ∈ g.ids) : g.Reaches a a := ⟨.refl, h⟩

theorem trans (h : g.Reaches a b) (h' : g.Reaches b c) : g.Reaches a c :=
  ⟨h.1.trans h'.1, h'.2⟩

theorem of_isParent (h : g.IsParent a b) (h' : g.Reaches b c) : g.Reaches a c :=
  ⟨.head h h'.1, h'.2⟩

theorem eq_or_isParent (h : g.Reaches a b) : a = b ∨ ∃ p, g.IsParent a p ∧ g.Reaches p b := by
  obtain ⟨hpath, hb⟩ := h
  rcases hpath.cases_head with heq | ⟨p, hp, hrest⟩
  · exact .inl heq
  · exact .inr ⟨p, hp, hrest, hb⟩

theorem start_mem (h : g.Reaches a b) : a ∈ g.ids := by
  rcases h.eq_or_isParent with rfl | ⟨p, hp, -⟩
  · exact h.2
  · exact hp.child_mem

/-- What another commit descends from stands after it. -/
theorem eq_or_idxOf_lt (h : g.Reaches a b) : a = b ∨ g.ids.idxOf a < g.ids.idxOf b := by
  rcases Relation.reflTransGen_iff_eq_or_transGen.mp h.1 with rfl | hpath
  · exact .inl rfl
  · right
    have hlift : TransGen (· < ·) (g.ids.idxOf a) (g.ids.idxOf b) :=
      Relation.TransGen.lift g.ids.idxOf (fun _ _ hparent => IsParent.idxOf_lt hparent) _ _ hpath
    rwa [Relation.transGen_eq_self] at hlift

theorem antisymm (h : g.Reaches a b) (h' : g.Reaches b a) : a = b := by
  rcases h.eq_or_idxOf_lt with heq | hlt
  · exact heq
  · rcases h'.eq_or_idxOf_lt with heq | hlt'
    · exact heq.symm
    · omega

end Reaches

theorem not_reaches_empty {a b : CommitId} : ¬ empty.Reaches a b := by
  rintro ⟨-, hb⟩
  cases hb

theorem reaches_extend_of_ne (h : g.Admits r) {a x : CommitId} (ha : a ≠ r.id) :
    (g.extend r h).Reaches a x ↔ g.Reaches a x := by
  have hnew := h.not_mem
  constructor
  · rintro ⟨hpath, hx⟩
    have hold : ReflTransGen g.IsParent a x ∧ x ≠ r.id := by
      clear hx
      induction hpath with
      | refl => exact ⟨.refl, ha⟩
      | tail _ hstep ih =>
          rw [isParent_extend, if_neg ih.2] at hstep
          refine ⟨ih.1.tail hstep, ?_⟩
          rintro rfl
          exact hnew hstep.parent_mem
    exact ⟨hold.1, (List.mem_cons.mp hx).resolve_left hold.2⟩
  · rintro ⟨hpath, hx⟩
    refine ⟨Relation.ReflTransGen.mono (fun c p hstep => ?_) _ _ hpath, List.mem_cons_of_mem _ hx⟩
    have hc : c ≠ r.id := by
      rintro rfl
      exact hnew hstep.child_mem
    rw [isParent_extend, if_neg hc]
    exact hstep

/-- What is reached once a commit was added: what was reached before, and from that commit itself
and what its parents reach. -/
theorem reaches_extend (h : g.Admits r) {a x : CommitId} :
    (g.extend r h).Reaches a x ↔
      g.Reaches a x ∨ a = r.id ∧ (x = r.id ∨ ∃ p ∈ r.parents, g.Reaches p x) := by
  have hnew := h.not_mem
  by_cases ha : a = r.id
  · subst ha
    have hparent : ∀ p ∈ r.parents, p ≠ r.id := by
      rintro p hp rfl
      exact hnew (h.parent_mem hp)
    constructor
    · intro hreach
      rcases hreach.eq_or_isParent with rfl | ⟨p, hp, hrest⟩
      · exact .inr ⟨rfl, .inl rfl⟩
      · rw [isParent_extend, if_pos rfl] at hp
        rw [reaches_extend_of_ne h (hparent p hp)] at hrest
        exact .inr ⟨rfl, .inr ⟨p, hp, hrest⟩⟩
    · rintro (hold | ⟨-, rfl | ⟨p, hp, hrest⟩⟩)
      · exact absurd hold.start_mem hnew
      · exact .refl List.mem_cons_self
      · rw [← reaches_extend_of_ne h (hparent p hp)] at hrest
        refine .of_isParent ?_ hrest
        rw [isParent_extend, if_pos rfl]
        exact hp
  · rw [reaches_extend_of_ne h ha]
    simp [ha]

/-! ## One pass over the commits -/

theorem reached_extend (h : g.Admits r) (starts : List CommitId) :
    (g.extend r h).reached starts =
      if starts.contains r.id then r.id :: g.reached (r.parents ++ starts) else g.reached starts :=
  rfl

/-- The pass finds what the given commits reach. -/
theorem mem_reached {x : CommitId} :
    ∀ {starts : List CommitId}, x ∈ g.reached starts ↔ ∃ s ∈ starts, g.Reaches s x := by
  induction g using induction_on_commits with
  | empty =>
      intro starts
      constructor
      · intro hx
        cases hx
      · rintro ⟨s, -, hreach⟩
        exact absurd hreach not_reaches_empty
  | extend g r h ih =>
      intro starts
      rw [reached_extend]
      simp only [reaches_extend]
      by_cases hr : starts.contains r.id = true
      · rw [if_pos hr, List.mem_cons, ih]
        rw [List.contains_iff_mem] at hr
        constructor
        · rintro (rfl | ⟨s, hs, hreach⟩)
          · exact ⟨r.id, hr, .inr ⟨rfl, .inl rfl⟩⟩
          · rcases List.mem_append.mp hs with hs | hs
            · exact ⟨r.id, hr, .inr ⟨rfl, .inr ⟨s, hs, hreach⟩⟩⟩
            · exact ⟨s, hs, .inl hreach⟩
        · rintro ⟨s, hs, hreach | ⟨-, rfl | ⟨p, hp, hreach⟩⟩⟩
          · exact .inr ⟨s, List.mem_append_right _ hs, hreach⟩
          · exact .inl rfl
          · exact .inr ⟨p, List.mem_append_left _ hp, hreach⟩
      · rw [if_neg hr, ih]
        rw [List.contains_iff_mem] at hr
        constructor
        · rintro ⟨s, hs, hreach⟩
          exact ⟨s, hs, .inl hreach⟩
        · rintro ⟨s, hs, hreach | ⟨rfl, -⟩⟩
          · exact ⟨s, hs, hreach⟩
          · exact absurd hs hr

theorem reached_sublist (g : Graph) :
    ∀ starts : List CommitId, (g.reached starts).Sublist g.ids := by
  induction g using induction_on_commits with
  | empty =>
      intro starts
      exact .slnil
  | extend g r h ih =>
      intro starts
      rw [reached_extend, ids_extend]
      split
      · exact (ih _).cons_cons r.id
      · exact (ih _).cons r.id

theorem reached_nodup (g : Graph) (starts : List CommitId) : (g.reached starts).Nodup :=
  (g.reached_sublist starts).nodup g.ids_nodup

end IssueTrace.History.Graph
