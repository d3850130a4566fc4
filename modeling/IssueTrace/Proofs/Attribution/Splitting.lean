import IssueTrace.Proofs.Attribution.Hits
import IssueTrace.Proofs.Source.Siblings

/-!
# Parts of a span

A span that is cut in two touches what its parts touch.  A declaration is hit by the part before the
cut if it starts there, and by the part behind the cut if it does not, because its next sibling comes
later still.  For a function in a class the member decides: its class starts no later than it does,
and the next sibling of its class comes behind it, so both are hit by the same part.
-/

namespace IssueTrace

open Source (Declaration Separate)

namespace Change

variable {ds : List Declaration} {a b c : Nat}

/-! ## One declaration -/

theorem IsHit.mono {span wider : LineSpan} {d : Declaration} (h : IsHit ds span d)
    (hstart : wider.start ≤ span.start) (hstop : span.stop ≤ wider.stop) : IsHit ds wider d := by
  obtain ⟨i, hi, hline, hnext⟩ := h
  refine ⟨i, hi, Nat.le_trans hline hstop, ?_⟩
  intro next hget
  exact Nat.lt_of_le_of_lt hstart (hnext next hget)

theorem IsHit.upTo {d : Declaration} (h : IsHit ds ⟨a, c⟩ d) (hline : d.line ≤ b) :
    IsHit ds ⟨a, b⟩ d := by
  obtain ⟨i, hi, -, hnext⟩ := h
  exact ⟨i, hi, hline, hnext⟩

theorem IsHit.onFrom (hds : Separate ds) {d : Declaration} (h : IsHit ds ⟨a, c⟩ d)
    (hlater : ∀ next, d.Precedes next → b < next.line) : IsHit ds ⟨b, c⟩ d := by
  obtain ⟨i, hi, hline, -⟩ := h
  refine ⟨i, hi, hline, ?_⟩
  intro next hget
  exact hlater next (hds.precedes hi hget)

/-- A function or a class that a span hits is hit by one of its parts. -/
theorem IsHit.cut (hds : Separate ds) {d : Declaration} (h : IsHit ds ⟨a, c⟩ d)
    (hd : d.isDefinition = true) : IsHit ds ⟨a, b⟩ d ∨ IsHit ds ⟨b + 1, c⟩ d := by
  by_cases hline : d.line ≤ b
  · exact .inl (h.upTo hline)
  · right
    apply h.onFrom hds
    intro next hprecedes
    have := hprecedes.line_lt hd
    omega

/-- A function or a class that a span hits together with the class that it is a member of is hit
together with it by one of the parts. -/
theorem IsHit.cut_member (hds : Separate ds) {d member : Declaration} (h : IsHit ds ⟨a, c⟩ d)
    (hin : IsHit d.body ⟨a, c⟩ member) (hinside : ∀ m ∈ d.body, d.line ≤ m.line)
    (hmember : member.isDefinition = true) :
    IsHit ds ⟨a, b⟩ d ∧ IsHit d.body ⟨a, b⟩ member ∨
      IsHit ds ⟨b + 1, c⟩ d ∧ IsHit d.body ⟨b + 1, c⟩ member := by
  have hmem : member ∈ d.body := hin.mem
  by_cases hline : member.line ≤ b
  · have hbefore : d.line ≤ b := Nat.le_trans (hinside member hmem) hline
    exact .inl ⟨h.upTo hbefore, hin.upTo hline⟩
  · right
    constructor
    · apply h.onFrom hds
      intro next hprecedes
      have := hprecedes.member_lt member hmem
      omega
    · apply hin.onFrom (hds.body h.mem)
      intro next hprecedes
      have := hprecedes.line_lt hmember
      omega

/-! ## Cutting -/

/-- What holds of a span holds of one of its two parts, wherever it is cut, and the other way. -/
def Splits (Known : LineSpan → Prop) : Prop :=
  ∀ a b c : Nat, a ≤ b → b < c → (Known ⟨a, c⟩ ↔ Known ⟨a, b⟩ ∨ Known ⟨b + 1, c⟩)

/-- What wider spans keep is known of a span if it is known of a part. -/
theorem splits_of_mono {Known : LineSpan → Prop}
    (hmono : ∀ {span wider : LineSpan}, Known span → wider.start ≤ span.start →
      span.stop ≤ wider.stop → Known wider)
    (hcut : ∀ {a b c : Nat}, Known ⟨a, c⟩ → Known ⟨a, b⟩ ∨ Known ⟨b + 1, c⟩) : Splits Known := by
  intro a b c hab hbc
  constructor
  · exact hcut
  · rintro (hfront | hback)
    · exact hmono hfront (Nat.le_refl a) (Nat.le_of_lt hbc)
    · exact hmono hback (Nat.le_trans hab (Nat.le_succ b)) (Nat.le_refl c)

/-- Cut as often as possible, a span consists of single lines. -/
theorem Splits.iff_exists_line {Known : LineSpan → Prop} (h : Splits Known) (hac : a ≤ c) :
    Known ⟨a, c⟩ ↔ ∃ line, a ≤ line ∧ line ≤ c ∧ Known ⟨line, line⟩ := by
  induction c, hac using Nat.le_induction with
  | base =>
      constructor
      · intro hknown
        exact ⟨a, Nat.le_refl a, Nat.le_refl a, hknown⟩
      · rintro ⟨line, hstart, hstop, hknown⟩
        obtain rfl : line = a := Nat.le_antisymm hstop hstart
        exact hknown
  | succ c hac ih =>
      rw [h a c (c + 1) hac (Nat.lt_succ_self c), ih]
      constructor
      · rintro (⟨line, hstart, hstop, hknown⟩ | hknown)
        · exact ⟨line, hstart, Nat.le_succ_of_le hstop, hknown⟩
        · exact ⟨c + 1, Nat.le_succ_of_le hac, Nat.le_refl _, hknown⟩
      · rintro ⟨line, hstart, hstop, hknown⟩
        rcases Nat.le_succ_iff.mp hstop with hbefore | rfl
        · exact .inl ⟨line, hstart, hbefore, hknown⟩
        · exact .inr hknown

theorem HitsClass.mono {span wider : LineSpan} {name : String} (h : HitsClass ds span name)
    (hstart : wider.start ≤ span.start) (hstop : span.stop ≤ wider.stop) :
    HitsClass ds wider name := by
  obtain ⟨line, body, hhit⟩ := h
  exact ⟨line, body, hhit.mono hstart hstop⟩

theorem HitsMethod.mono {span wider : LineSpan} {name : String} (h : HitsMethod ds span name)
    (hstart : wider.start ≤ span.start) (hstop : span.stop ≤ wider.stop) :
    HitsMethod ds wider name := by
  rcases h with ⟨line, hhit⟩ | ⟨owner, line, body, member, memberLine, hhit, hin, hname⟩
  · exact .inl ⟨line, hhit.mono hstart hstop⟩
  · exact .inr ⟨owner, line, body, member, memberLine, hhit.mono hstart hstop,
      hin.mono hstart hstop, hname⟩

theorem splits_hitsClass (hds : Separate ds) (name : String) :
    Splits fun span => HitsClass ds span name := by
  apply splits_of_mono HitsClass.mono
  rintro a b c ⟨line, body, hhit⟩
  rcases hhit.cut hds rfl with hfront | hback
  · exact .inl ⟨line, body, hfront⟩
  · exact .inr ⟨line, body, hback⟩

theorem splits_hitsMethod (hds : Separate ds)
    (hinside : ∀ d ∈ ds, ∀ member ∈ d.body, d.line ≤ member.line) (name : String) :
    Splits fun span => HitsMethod ds span name := by
  apply splits_of_mono HitsMethod.mono
  rintro a b c (⟨line, hhit⟩ | ⟨owner, line, body, member, memberLine, hhit, hin, hname⟩)
  · rcases hhit.cut hds rfl with hfront | hback
    · exact .inl (.inl ⟨line, hfront⟩)
    · exact .inr (.inl ⟨line, hback⟩)
  · rcases hhit.cut_member hds hin (hinside _ hhit.mem) rfl with ⟨hfront, hin⟩ | ⟨hback, hin⟩
    · exact .inl (.inr ⟨owner, line, body, member, memberLine, hfront, hin, hname⟩)
    · exact .inr (.inr ⟨owner, line, body, member, memberLine, hback, hin, hname⟩)

end Change

/-! ## What the parts add -/

namespace Entities

open Change

section

variable {ds : List Declaration}

theorem mem_classes_addSpan_empty (hds : Separate ds) {span : LineSpan} {name : String} :
    name ∈ (addSpan ds {} span).classes ↔ HitsClass ds span name := by
  rw [mem_classes_addSpan hds.ascending]
  exact or_iff_right not_mem_classes_empty

theorem mem_methods_addSpan_empty (hds : Separate ds) {span : LineSpan} {name : String} :
    name ∈ (addSpan ds {} span).methods ↔ HitsMethod ds span name := by
  rw [mem_methods_addSpan hds.ascending]
  exact or_iff_right not_mem_methods_empty

theorem addSpan_eq_union (hds : Separate ds) (e : Entities) (span : LineSpan) :
    addSpan ds e span = e.union (addSpan ds {} span) := by
  apply ext_mem
  · intro x
    rw [mem_classes_addSpan hds.ascending, mem_classes_union, mem_classes_addSpan_empty hds]
  · intro x
    rw [mem_methods_addSpan hds.ascending, mem_methods_union, mem_methods_addSpan_empty hds]

theorem addSpan_split (hds : Separate ds)
    (hinside : ∀ d ∈ ds, ∀ member ∈ d.body, d.line ≤ member.line) {a b c : Nat} (hab : a ≤ b)
    (hbc : b < c) :
    addSpan ds {} ⟨a, c⟩ = (addSpan ds {} ⟨a, b⟩).union (addSpan ds {} ⟨b + 1, c⟩) := by
  apply ext_mem
  · intro x
    simp only [mem_classes_union, mem_classes_addSpan_empty hds]
    exact splits_hitsClass hds x a b c hab hbc
  · intro x
    simp only [mem_methods_union, mem_methods_addSpan_empty hds]
    exact splits_hitsMethod hds hinside x a b c hab hbc

/-- A span touches the classes and methods that its two parts touch, wherever it is cut, whether
these are collected apart or one behind the other.  So it touches what its single lines touch, and a
wider span touches no less.  The members of a class are taken to start no earlier than the class. -/
theorem addSpan_of_parts (hds : Separate ds)
    (hinside : ∀ d ∈ ds, ∀ member ∈ d.body, d.line ≤ member.line) :
    (∀ a b c, a ≤ b → b < c →
      addSpan ds {} ⟨a, c⟩ = (addSpan ds {} ⟨a, b⟩).union (addSpan ds {} ⟨b + 1, c⟩) ∧
      ∀ e, addSpan ds e ⟨a, c⟩ = addSpan ds (addSpan ds e ⟨a, b⟩) ⟨b + 1, c⟩) ∧
    (∀ a c, a ≤ c → ∀ x,
      (x ∈ (addSpan ds {} ⟨a, c⟩).classes ↔
        ∃ line, a ≤ line ∧ line ≤ c ∧ x ∈ (addSpan ds {} ⟨line, line⟩).classes) ∧
      (x ∈ (addSpan ds {} ⟨a, c⟩).methods ↔
        ∃ line, a ≤ line ∧ line ≤ c ∧ x ∈ (addSpan ds {} ⟨line, line⟩).methods)) ∧
    ∀ a c a' c', a' ≤ a → c ≤ c' → ∀ x,
      (x ∈ (addSpan ds {} ⟨a, c⟩).classes → x ∈ (addSpan ds {} ⟨a', c'⟩).classes) ∧
      (x ∈ (addSpan ds {} ⟨a, c⟩).methods → x ∈ (addSpan ds {} ⟨a', c'⟩).methods) := by
  refine ⟨?_, ?_, ?_⟩
  · intro a b c hab hbc
    have hsplit := addSpan_split hds hinside hab hbc
    refine ⟨hsplit, ?_⟩
    intro e
    calc
      addSpan ds e ⟨a, c⟩ = e.union (addSpan ds {} ⟨a, c⟩) := addSpan_eq_union hds e _
      _ = (e.union (addSpan ds {} ⟨a, b⟩)).union (addSpan ds {} ⟨b + 1, c⟩) := by
        rw [hsplit, union_assoc]
      _ = (addSpan ds e ⟨a, b⟩).union (addSpan ds {} ⟨b + 1, c⟩) := by
        rw [← addSpan_eq_union hds e]
      _ = addSpan ds (addSpan ds e ⟨a, b⟩) ⟨b + 1, c⟩ := (addSpan_eq_union hds _ _).symm
  · intro a c hac x
    simp only [mem_classes_addSpan_empty hds, mem_methods_addSpan_empty hds]
    exact ⟨(splits_hitsClass hds x).iff_exists_line hac,
      (splits_hitsMethod hds hinside x).iff_exists_line hac⟩
  · intro a c a' c' hstart hstop x
    simp only [mem_classes_addSpan_empty hds, mem_methods_addSpan_empty hds]
    constructor
    · intro hclass
      exact hclass.mono hstart hstop
    · intro hmethod
      exact hmethod.mono hstart hstop

end

/-- In a class of two functions with a function behind it, a span from the first member to the
function is cut before the second member. -/
theorem addSpan_of_parts_of_class :
    let ds : List Declaration :=
      [.classDef "A" 1 [.function "f" 2, .function "g" 5], .function "h" 8]
    Separate ds ∧ (∀ d ∈ ds, ∀ member ∈ d.body, d.line ≤ member.line) ∧
      addSpan ds {} ⟨3, 8⟩ = (addSpan ds {} ⟨3, 4⟩).union (addSpan ds {} ⟨5, 8⟩) ∧
      "A.g" ∉ (addSpan ds {} ⟨3, 4⟩).methods ∧ "A.g" ∈ (addSpan ds {} ⟨3, 8⟩).methods := by
  intro ds
  have hbody : Separate [.function "f" 2, .function "g" 5] := by
    refine .intro ?_ ?_
    · simp [Source.Declaration.precedes_iff, Declaration.line, Declaration.body]
    · simp [Declaration.body, Separate.nil]
  have hds : Separate ds := by
    refine .intro ?_ ?_
    · simp [ds, Source.Declaration.precedes_iff, Declaration.line, Declaration.body]
    · simp [ds, Declaration.body, Separate.nil, hbody]
  have hinside : ∀ d ∈ ds, ∀ member ∈ d.body, d.line ≤ member.line := by
    simp [ds, Declaration.line, Declaration.body]
  obtain ⟨hparts, hlines, -⟩ := addSpan_of_parts hds hinside
  obtain ⟨hunion, -⟩ := hparts 3 4 8 (by decide) (by decide)
  have hline : "A.g" ∈ (addSpan ds {} ⟨5, 5⟩).methods :=
    NameSet.mem_def.mpr (by decide +kernel)
  have hfront : "A.g" ∉ (addSpan ds {} ⟨3, 4⟩).methods := by
    rw [NameSet.mem_def]
    decide +kernel
  refine ⟨hds, hinside, hunion, hfront, ?_⟩
  exact (hlines 3 8 (by decide) "A.g").2.mpr ⟨5, by decide, by decide, hline⟩

end Entities

end IssueTrace
