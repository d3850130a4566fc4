/-!
# Sets of names

A set of names is kept as the list of its members in ascending order, so that two sets with the same
members are equal and a set is printed in order.
-/

namespace IssueTrace

/-- A finite set of names. -/
structure NameSet where
  toList : List String
  ascending : toList.Pairwise (· < ·)

namespace NameSet

/-- Puts a name at its place in an ascending list, unless it is there. -/
def place (x : String) : List String → List String
  | [] => [x]
  | y :: ys =>
      if x < y then x :: y :: ys
      else if y < x then y :: place x ys
      else y :: ys

theorem eq_of_not_lt {x y : String} (hxy : ¬ x < y) (hyx : ¬ y < x) : x = y :=
  String.le_antisymm (String.not_lt.mp hyx) (String.not_lt.mp hxy)

theorem mem_place {x z : String} {ys : List String} : z ∈ place x ys ↔ z = x ∨ z ∈ ys := by
  induction ys with
  | nil => simp [place]
  | cons y ys ih =>
      unfold place
      split
      · simp
      · rename_i hxy
        split
        · simp only [List.mem_cons, ih]
          constructor
          · rintro (h | h | h) <;> simp [h]
          · rintro (h | h | h) <;> simp [h]
        · rename_i hyx
          simp only [List.mem_cons, eq_of_not_lt hxy hyx]
          constructor
          · exact Or.inr
          · rintro (h | h)
            · exact Or.inl h
            · exact h

theorem place_ascending (x : String) {ys : List String} (h : ys.Pairwise (· < ·)) :
    (place x ys).Pairwise (· < ·) := by
  induction ys with
  | nil => simp [place]
  | cons y ys ih =>
      obtain ⟨hy, hys⟩ := List.pairwise_cons.mp h
      unfold place
      split
      · rename_i hxy
        refine List.pairwise_cons.mpr ⟨?_, h⟩
        intro z hz
        rcases List.mem_cons.mp hz with rfl | hz
        · exact hxy
        · exact String.lt_trans hxy (hy z hz)
      · split
        · rename_i hyx
          refine List.pairwise_cons.mpr ⟨?_, ih hys⟩
          intro z hz
          rcases mem_place.mp hz with rfl | hz
          · exact hyx
          · exact hy z hz
        · exact h

def empty : NameSet := ⟨[], .nil⟩

instance : EmptyCollection NameSet := ⟨empty⟩

instance : Inhabited NameSet := ⟨empty⟩

instance : Membership String NameSet := ⟨fun s x => x ∈ s.toList⟩

/-- The set with one name more. -/
def insert (s : NameSet) (x : String) : NameSet := ⟨place x s.toList, place_ascending x s.ascending⟩

/-- The set with several names more. -/
def insertAll (s : NameSet) (xs : List String) : NameSet := xs.foldl insert s

def ofList (xs : List String) : NameSet := insertAll empty xs

def union (s t : NameSet) : NameSet := s.insertAll t.toList

def isEmpty (s : NameSet) : Bool := s.toList.isEmpty

def contains (s : NameSet) (x : String) : Bool := s.toList.contains x

theorem mem_def {s : NameSet} {x : String} : x ∈ s ↔ x ∈ s.toList := Iff.rfl

@[simp]
theorem mem_insert {s : NameSet} {x y : String} : y ∈ s.insert x ↔ y = x ∨ y ∈ s := mem_place

@[simp]
theorem mem_insertAll {s : NameSet} {xs : List String} {y : String} :
    y ∈ s.insertAll xs ↔ y ∈ s ∨ y ∈ xs := by
  induction xs generalizing s with
  | nil => simp [insertAll]
  | cons x xs ih =>
      change y ∈ (s.insert x).insertAll xs ↔ _
      rw [ih, mem_insert, List.mem_cons]
      constructor
      · rintro ((h | h) | h) <;> simp [h]
      · rintro (h | h | h) <;> simp [h]

@[simp]
theorem not_mem_empty {x : String} : x ∉ (∅ : NameSet) := by
  intro h
  cases h

@[simp]
theorem mem_ofList {xs : List String} {y : String} : y ∈ ofList xs ↔ y ∈ xs := by
  unfold ofList
  rw [mem_insertAll]
  exact ⟨fun h => h.resolve_left not_mem_empty, Or.inr⟩

@[simp]
theorem mem_union {s t : NameSet} {x : String} : x ∈ s.union t ↔ x ∈ s ∨ x ∈ t := by
  unfold union
  rw [mem_insertAll, mem_def (s := t)]

/-- Sets with the same members are equal. -/
@[ext]
theorem ext {s t : NameSet} (h : ∀ x, x ∈ s ↔ x ∈ t) : s = t := by
  obtain ⟨xs, hxs⟩ := s
  obtain ⟨ys, hys⟩ := t
  have key : xs = ys := by
    induction xs generalizing ys with
    | nil =>
        cases ys with
        | nil => rfl
        | cons y ys => exact absurd ((h y).mpr List.mem_cons_self) (by simp [mem_def])
    | cons x xs ih =>
        cases ys with
        | nil => exact absurd ((h x).mp List.mem_cons_self) (by simp [mem_def])
        | cons y ys =>
            obtain ⟨hx, hxs'⟩ := List.pairwise_cons.mp hxs
            obtain ⟨hy, hys'⟩ := List.pairwise_cons.mp hys
            have hxy : x = y := by
              rcases List.mem_cons.mp ((h x).mp List.mem_cons_self) with e | hm
              · exact e
              · rcases List.mem_cons.mp ((h y).mpr List.mem_cons_self) with e | hm'
                · exact e.symm
                · exact absurd (hx y hm') (String.lt_asymm (hy x hm))
            subst hxy
            have rest : ∀ z, z ∈ (⟨xs, hxs'⟩ : NameSet) ↔ z ∈ (⟨ys, hys'⟩ : NameSet) := by
              intro z
              have hz := h z
              simp only [mem_def, List.mem_cons] at hz ⊢
              constructor
              · intro hm
                rcases hz.mp (Or.inr hm) with e | hm'
                · exact absurd (e ▸ hx z hm) (String.lt_irrefl _)
                · exact hm'
              · intro hm
                rcases hz.mpr (Or.inr hm) with e | hm'
                · exact absurd (e ▸ hy z hm) (String.lt_irrefl _)
                · exact hm'
            rw [ih hxs' ys hys' rest]
  subst key
  rfl

end NameSet

end IssueTrace
