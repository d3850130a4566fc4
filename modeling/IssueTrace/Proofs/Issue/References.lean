import IssueTrace.Issue.Pattern
import IssueTrace.Proofs.Text.Words
import Mathlib.Data.List.TakeWhile

/-!
# The numbers of references

The number that a message refers to is a run of decimal digits of some script.  No such digit is
blank, so the number of an issue is always one word.
-/

namespace IssueTrace

namespace Text

/-- The code points of the blank characters. -/
def blankCodes : List Nat :=
  List.range' 0x9 5 ++ [0x20, 0x85, 0xA0, 0x1680] ++ List.range' 0x2000 11
    ++ [0x2028, 0x2029, 0x202F, 0x205F, 0x3000]

theorem toNat_mem_blankCodes {c : Char} (h : isBlank c = true) : c.toNat ∈ blankCodes := by
  unfold isBlank at h
  simp only [Bool.or_eq_true, Bool.and_eq_true, decide_eq_true_eq] at h
  simp only [blankCodes, List.mem_append, List.mem_range'_1, List.mem_cons, List.not_mem_nil,
    or_false]
  omega

theorem not_isBlank_of_isDecimalDigit {c : Char} (h : isDecimalDigit c = true) :
    isBlank c = false := by
  have hblank : ∀ n ∈ blankCodes, isDecimalDigit (Char.ofNat n) = false := by
    decide +kernel
  by_contra hc
  rw [Bool.not_eq_false] at hc
  have hnot := hblank c.toNat (toNat_mem_blankCodes hc)
  rw [Char.ofNat_toNat, h] at hnot
  cases hnot

end Text

namespace IssuePattern

open Text (IsWord isDecimalDigit)

/-- A text that is a number: decimal digits, at least one. -/
structure IsNumber (x : List Char) : Prop where
  ne_nil : x ≠ []
  digits : ∀ c ∈ x, isDecimalDigit c = true

theorem isNumber_of_numberAfter? {keyword text digits : List Char}
    (h : numberAfter? keyword text = some digits) : IsNumber digits := by
  unfold numberAfter? at h
  dsimp only at h
  split at h
  · cases hrun : (text.drop (keyword ++ [' ', '#']).length).takeWhile isDecimalDigit with
    | nil =>
        rw [hrun] at h
        cases h
    | cons first rest =>
        rw [hrun] at h
        obtain rfl := Option.some.inj h
        refine ⟨List.cons_ne_nil first rest, ?_⟩
        intro c hc
        rw [← hrun] at hc
        exact List.mem_takeWhile_imp hc
  · cases h

theorem isNumber_of_referenceAt? {p : IssuePattern} {text digits : List Char}
    (h : p.referenceAt? text = some digits) : IsNumber digits := by
  unfold referenceAt? at h
  obtain ⟨keyword, -, hnumber⟩ := List.exists_of_findSome?_eq_some h
  exact isNumber_of_numberAfter? hnumber

theorem isNumber_of_firstReference? {p : IssuePattern} {text digits : List Char}
    (h : p.firstReference? text = some digits) : IsNumber digits := by
  induction text with
  | nil => exact isNumber_of_referenceAt? h
  | cons c rest ih =>
      rw [firstReference?] at h
      split at h
      · rename_i found hfound
        obtain rfl := Option.some.inj h
        exact isNumber_of_referenceAt? hfound
      · exact ih h

/-- An issue is known by its number. -/
theorem isNumber_of_issueId? {p : IssuePattern} {message issue : String}
    (h : p.issueId? message = some issue) : IsNumber issue.toList := by
  unfold issueId? at h
  obtain ⟨digits, hdigits, rfl⟩ := Option.map_eq_some_iff.mp h
  rw [String.toList_ofList]
  exact isNumber_of_firstReference? hdigits

/-- The number of an issue is one word. -/
theorem isWord_of_issueId? {p : IssuePattern} {message issue : String}
    (h : p.issueId? message = some issue) : IsWord issue.toList := by
  have hnumber := isNumber_of_issueId? h
  refine ⟨hnumber.ne_nil, ?_⟩
  intro c hc
  exact Text.not_isBlank_of_isDecimalDigit (hnumber.digits c hc)

theorem IsNumber.not_mem {x : List Char} (h : IsNumber x) {c : Char}
    (hc : isDecimalDigit c = false) : c ∉ x := by
  intro hmem
  rw [h.digits c hmem] at hc
  cases hc

end IssuePattern

end IssueTrace
