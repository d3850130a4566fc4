import IssueTrace.Commit
import IssueTrace.Proofs.Text.Words

/-!
# Written ids of commits

An id is forty lower-case hexadecimal digits.  Whatever text is read as an id gives such an id, and
an id is read back from its own digits.
-/

namespace IssueTrace.CommitId

theorem isHexDigit_of_mem_digits : ∀ c ∈ digits, isHexDigit c = true := by
  rw [← List.all_eq_true]
  decide

theorem toLower_of_mem_digits : ∀ c ∈ digits, c.toLower = c := by
  have hall : digits.all (fun c => c.toLower == c) = true := by decide
  intro c hc
  exact eq_of_beq (List.all_eq_true.mp hall c hc)

theorem not_isBlank_of_mem_digits : ∀ c ∈ digits, Text.isBlank c = false := by
  have hall : digits.all (fun c => Text.isBlank c == false) = true := by decide
  intro c hc
  exact eq_of_beq (List.all_eq_true.mp hall c hc)

/-- The code points of the hexadecimal digits of either case. -/
def digitCodes : List Nat := List.range' 0x30 10 ++ List.range' 0x61 6 ++ List.range' 0x41 6

theorem toNat_mem_digitCodes {c : Char} (h : isHexDigit c = true) : c.toNat ∈ digitCodes := by
  simp only [isHexDigit, Char.isDigit, Bool.or_eq_true, Bool.and_eq_true, decide_eq_true_eq,
    Char.le_def, UInt32.le_iff_toNat_le] at h
  simp only [digitCodes, List.mem_append, List.mem_range'_1]
  have hcode : c.toNat = c.val.toNat := rfl
  rcases h with (hdigit | hlower) | hupper
  · change 48 ≤ c.val.toNat ∧ c.val.toNat ≤ 57 at hdigit
    omega
  · change 97 ≤ c.val.toNat ∧ c.val.toNat ≤ 102 at hlower
    omega
  · change 65 ≤ c.val.toNat ∧ c.val.toNat ≤ 70 at hupper
    omega

theorem toLower_mem_digits {c : Char} (h : isHexDigit c = true) : c.toLower ∈ digits := by
  have hdigits : ∀ n ∈ digitCodes, (Char.ofNat n).toLower ∈ digits := by
    decide
  have hc := hdigits c.toNat (toNat_mem_digitCodes h)
  rwa [Char.ofNat_toNat] at hc

theorem IsFull.isWord {id : CommitId} (h : id.IsFull) : Text.IsWord id.hex.toList := by
  refine ⟨?_, ?_⟩
  · intro hnil
    have hlength := h.length_eq
    simp [hnil] at hlength
  · intro c hc
    exact not_isBlank_of_mem_digits c (h.mem_digits c hc)

/-- An id is read back from its own digits. -/
theorem IsFull.ofText?_hex {id : CommitId} (h : id.IsFull) : ofText? id.hex = some id := by
  have hne : id.hex.toList.isEmpty = false := by
    simpa using h.isWord.ne_nil
  have hall : id.hex.toList.all isHexDigit = true := by
    rw [List.all_eq_true]
    intro c hc
    exact isHexDigit_of_mem_digits c (h.mem_digits c hc)
  have hlower : id.hex.toList.map Char.toLower = id.hex.toList := by
    rw [List.map_congr_left fun c hc => toLower_of_mem_digits c (h.mem_digits c hc), List.map_id']
  unfold ofText?
  simp only [hne, hall, h.length_eq, hlower]
  simp

/-- Whatever is read as an id has all its digits. -/
theorem isFull_of_ofText? {s : String} {id : CommitId} (h : ofText? s = some id) : id.IsFull := by
  unfold ofText? at h
  dsimp only at h
  split at h
  · cases h
  · rename_i hgood
    simp only [Bool.or_eq_true, decide_eq_true_eq, Bool.not_eq_true', not_or] at hgood
    obtain ⟨⟨-, hlength⟩, hall⟩ := hgood
    obtain rfl := Option.some.inj h
    refine ⟨?_, ?_⟩
    · simp
      omega
    · intro c hc
      rw [String.toList_ofList] at hc
      rcases List.mem_append.mp hc with hc | hc
      · obtain ⟨d, hd, rfl⟩ := List.mem_map.mp hc
        rw [Bool.not_eq_false, List.all_eq_true] at hall
        exact toLower_mem_digits (hall d hd)
      · obtain rfl := List.eq_of_mem_replicate hc
        decide

end IssueTrace.CommitId
