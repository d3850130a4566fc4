import IssueTrace.Proofs.Text.Decoding
import IssueTrace.Text.LowerCase

/-!
# Number signs in lower case

A number sign is its own lower-case form, and it is that of no other character.  So a text without a
number sign has none in lower case.
-/

namespace IssueTrace.Text

/-! ## The table of letters -/

theorem first_le_of_runsBefore {code k : Nat} (fuel : Nat) : ∀ {lo span : Nat},
    runsBefore code fuel lo span = k + 1 →
      lo = k + 1 ∨ (lowerRuns.getD k (0, 0, 1, 0)).1 ≤ code := by
  induction fuel with
  | zero =>
      intro lo span h
      exact .inl h
  | succ fuel ih =>
      intro lo span h
      rw [runsBefore] at h
      split at h
      · exact .inl h
      · dsimp only at h
        split at h
        · rename_i hbegins
          rcases ih h with hmiddle | hbefore
          · obtain rfl : k = lo + span / 2 := by omega
            exact .inr hbegins
          · exact .inr hbefore
        · exact ih h

theorem sign_lt_of_mem_lowerRuns : ∀ run ∈ lowerRuns.toList, 35 < (run.1 : Int) + run.2.2.2 := by
  decide +kernel

theorem mem_lowerRuns_or (k : Nat) :
    lowerRuns.getD k (0, 0, 1, 0) ∈ lowerRuns.toList ∨
      lowerRuns.getD k (0, 0, 1, 0) = (0, 0, 1, 0) := by
  rw [Array.getD_eq_getD_getElem?]
  cases hrun : lowerRuns[k]? with
  | none => exact .inr rfl
  | some run => exact .inl (Array.mem_toList_iff.mpr (Array.mem_of_getElem? hrun))

/-! ## Lower case of a text -/

theorem eq_sign_of_mem_lowerChar {c : Char} (h : '#' ∈ lowerChar c) : c = '#' := by
  have hown : '#' ∈ [c] → c = '#' := fun h => (List.mem_singleton.mp h).symm
  rw [lowerChar] at h
  by_cases hascii : c.toNat < 128
  · rw [if_pos hascii, List.mem_singleton] at h
    have hall : ∀ n < 128, (Char.ofNat n).toLower = '#' → n = 35 := by decide
    have hcode := hall c.toNat hascii (by rw [Char.ofNat_toNat]; exact h.symm)
    rw [← Char.ofNat_toNat c, hcode]
  · rw [if_neg hascii] at h
    by_cases hdotted : c.toNat = 0x130
    · rw [if_pos hdotted] at h
      exact absurd h (by decide)
    · rw [if_neg hdotted] at h
      cases hfound : runsBefore c.toNat lowerRuns.size 0 lowerRuns.size with
      | zero =>
          rw [hfound] at h
          exact hown h
      | succ k =>
          have hbegins := (first_le_of_runsBefore _ hfound).resolve_left (by omega)
          have hplace := mem_lowerRuns_or k
          obtain ⟨⟨first, last, step, shift⟩, hentry⟩ :
              ∃ run, lowerRuns.getD k (0, 0, 1, 0) = run := ⟨_, rfl⟩
          simp only [hfound, hentry] at h hbegins hplace
          by_cases hrun : (decide (c.toNat ≤ last) && decide ((c.toNat - first) % step = 0)) = true
          · rw [if_pos hrun] at h
            rw [Bool.and_eq_true, decide_eq_true_eq] at hrun
            have hcode : ((c.toNat : Int) + shift).toNat = 35 :=
              eq_toNat_of_ofNat_eq (by decide) (List.mem_singleton.mp h).symm
            rcases hplace with hmem | hdefault
            · have hbehind := sign_lt_of_mem_lowerRuns _ hmem
              dsimp only at hbehind
              omega
            · obtain ⟨-, hlast, -⟩ := Prod.mk.inj hdefault
              omega
          · rw [if_neg hrun] at h
            exact hown h

theorem sign_mem_of_mem_lowerAfter {cs : List Char} : ∀ {before : List Char},
    '#' ∈ lowerAfter before cs → '#' ∈ cs := by
  induction cs with
  | nil =>
      intro before h
      exact h
  | cons c rest ih =>
      intro before h
      rw [lowerAfter] at h
      rcases List.mem_append.mp h with hhere | hrest
      · split at hhere
        · split at hhere
          · exact absurd hhere (by decide)
          · exact absurd hhere (by decide)
        · rw [eq_sign_of_mem_lowerChar hhere]
          exact List.mem_cons_self
      · exact List.mem_cons_of_mem c (ih hrest)

/-- A number sign in lower case stands in the text. -/
theorem sign_mem_of_mem_lowerCase {s : String} (h : '#' ∈ (lowerCase s).toList) :
    '#' ∈ s.toList := by
  unfold lowerCase at h
  rw [String.toList_ofList] at h
  exact sign_mem_of_mem_lowerAfter h

end IssueTrace.Text
