import IssueTrace.Change.Attribution

/-!
# Sets of entities

Entities are known by their members.  Equality, union and inclusion are read member by member, and
a qualified set holds exactly the qualified names.  Loops that collect entities only ever add to
them, so what a whole loop adds is what some step of it adds.
-/

namespace IssueTrace

/-- A loop in which every step adds something to what is known adds what some step adds. -/
theorem foldl_adds_iff {α β : Type} (Known : α → Prop) {step : α → β → α} {Adds : β → Prop}
    (hstep : ∀ a b, Known (step a b) ↔ Known a ∨ Adds b) (bs : List β) (a : α) :
    Known (bs.foldl step a) ↔ Known a ∨ ∃ b ∈ bs, Adds b := by
  induction bs generalizing a with
  | nil => simp
  | cons b bs ih =>
      rw [List.foldl_cons, ih, hstep, or_assoc]
      simp only [List.mem_cons, exists_eq_or_imp]

namespace NameSet

theorem isEmpty_eq_true_iff {s : NameSet} : s.isEmpty = true ↔ ∀ x, x ∉ s := by
  unfold isEmpty
  rw [List.isEmpty_iff, List.eq_nil_iff_forall_not_mem]
  rfl

theorem isEmpty_eq_false_iff {s : NameSet} : s.isEmpty = false ↔ ∃ x, x ∈ s := by
  rw [← Bool.not_eq_true, isEmpty_eq_true_iff, Classical.not_forall_not]

end NameSet

namespace Entities

theorem ext_mem {e f : Entities} (hclasses : ∀ x, x ∈ e.classes ↔ x ∈ f.classes)
    (hmethods : ∀ x, x ∈ e.methods ↔ x ∈ f.methods) : e = f := by
  obtain ⟨classes, methods⟩ := e
  obtain ⟨classes', methods'⟩ := f
  have h₁ : classes = classes' := NameSet.ext hclasses
  have h₂ : methods = methods' := NameSet.ext hmethods
  rw [h₁, h₂]

theorem mem_classes_inModule {e : Entities} {prefixName x : String} :
    x ∈ (e.inModule prefixName).classes ↔ ∃ name ∈ e.classes, x = prefixName ++ "." ++ name := by
  unfold inModule
  rw [NameSet.mem_ofList, List.mem_map]
  simp only [← NameSet.mem_def, @eq_comm _ x]

theorem mem_methods_inModule {e : Entities} {prefixName x : String} :
    x ∈ (e.inModule prefixName).methods ↔ ∃ name ∈ e.methods, x = prefixName ++ "." ++ name := by
  unfold inModule
  rw [NameSet.mem_ofList, List.mem_map]
  simp only [← NameSet.mem_def, @eq_comm _ x]

@[simp]
theorem mem_classes_union {e f : Entities} {x : String} :
    x ∈ (e.union f).classes ↔ x ∈ e.classes ∨ x ∈ f.classes :=
  NameSet.mem_union

@[simp]
theorem mem_methods_union {e f : Entities} {x : String} :
    x ∈ (e.union f).methods ↔ x ∈ e.methods ∨ x ∈ f.methods :=
  NameSet.mem_union

@[simp]
theorem not_mem_classes_empty {x : String} : x ∉ ({} : Entities).classes :=
  NameSet.not_mem_empty

@[simp]
theorem not_mem_methods_empty {x : String} : x ∉ ({} : Entities).methods :=
  NameSet.not_mem_empty

/-! ## Unions -/

theorem union_assoc (e f g : Entities) : (e.union f).union g = e.union (f.union g) := by
  apply ext_mem
  · intro x
    simp only [mem_classes_union, or_assoc]
  · intro x
    simp only [mem_methods_union, or_assoc]

@[simp]
theorem union_empty (e : Entities) : e.union {} = e := by
  apply ext_mem
  · intro x
    simp
  · intro x
    simp

@[simp]
theorem empty_union (e : Entities) : Entities.union {} e = e := by
  apply ext_mem
  · intro x
    simp
  · intro x
    simp

/-- The union of several entities. -/
def unionAll (es : List Entities) : Entities := es.foldr union {}

@[simp]
theorem unionAll_nil : unionAll [] = {} := rfl

@[simp]
theorem unionAll_cons (e : Entities) (es : List Entities) :
    unionAll (e :: es) = e.union (unionAll es) := rfl

theorem unionAll_append (es fs : List Entities) :
    unionAll (es ++ fs) = (unionAll es).union (unionAll fs) := by
  induction es with
  | nil => simp
  | cons e es ih => rw [List.cons_append, unionAll_cons, unionAll_cons, ih, union_assoc]

theorem mem_classes_unionAll {es : List Entities} {x : String} :
    x ∈ (unionAll es).classes ↔ ∃ e ∈ es, x ∈ e.classes := by
  induction es with
  | nil => simp
  | cons e es ih => simp [ih]

theorem mem_methods_unionAll {es : List Entities} {x : String} :
    x ∈ (unionAll es).methods ↔ ∃ e ∈ es, x ∈ e.methods := by
  induction es with
  | nil => simp
  | cons e es ih => simp [ih]

end Entities

end IssueTrace
