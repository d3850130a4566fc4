import IssueTrace.Diff.Lines
import IssueTrace.Proofs.Text.WellFormed

/-!
# Counting line feeds

The outline of a file counts the line feeds of its text, a comparison of files cuts their bytes into
lines.  Where bytes are no text they are decoded with replacement characters, and a character that
was begun takes some bytes with it.  None of these is a line feed, and none gives one.  So the two
agree on all bytes that end with a line feed.
-/

namespace IssueTrace

namespace Text

variable {due code : Nat} {low high b : UInt8}

/-- What a first byte leaves: the next byte is no character of its own, and where it has to give the
first bits of the code point it gives more than those of a line feed. -/
structure IsBegun (low : UInt8) (code : Nat) : Prop where
  low_ge : 0x80 ≤ low.toNat
  low_ge_of_zero : code = 0 → 0x90 ≤ low.toNat

theorem isBegun_of_leadByte? {more share : Nat}
    (h : leadByte? b = some (more, low, high, share)) : IsBegun low share := by
  rcases leadByte?_eq_some h with ⟨-, -, hshare, -, hlow, -⟩ | ⟨-, -, -, hlow, -, hfirst, -⟩ |
    ⟨-, -, -, hlow, -, hfirst, -⟩
  · exact ⟨hlow, by omega⟩
  · exact ⟨hlow, fun hzero => Nat.le_trans (by decide) (hfirst hzero)⟩
  · exact ⟨hlow, hfirst⟩

theorem IsBegun.code_ge (h : IsBegun low code) (hwithin : (low ≤ b && b ≤ high) = true) :
    16 ≤ code * 64 + (b.toNat - 0x80) := by
  rw [Bool.and_eq_true, decide_eq_true_eq, UInt8.le_iff_toNat_le] at hwithin
  have hlow := h.low_ge
  by_cases hzero : code = 0
  · have hfirst := h.low_ge_of_zero hzero
    omega
  · omega

theorem ofNat_ne_lineFeed {n : Nat} (hn : n ≠ 10) : Char.ofNat n ≠ '\n' :=
  fun heq => hn (eq_toNat_of_ofNat_eq (by decide) heq)

theorem count_cons_none (parts : List (Option Char)) :
    (none :: parts).count (some '\n') = parts.count (some '\n') :=
  List.count_cons_of_ne (by decide)

theorem count_cons_of_not_lt (h : ¬ b < 0x80) (rest : List UInt8) :
    (b :: rest).count Diff.lineFeed = rest.count Diff.lineFeed := by
  apply List.count_cons_of_ne
  rintro rfl
  exact h (by decide)

theorem IsBegun.count_cons (h : IsBegun low code) (hwithin : (low ≤ b && b ≤ high) = true)
    (rest : List UInt8) : (b :: rest).count Diff.lineFeed = rest.count Diff.lineFeed := by
  apply count_cons_of_not_lt
  rw [Bool.and_eq_true, decide_eq_true_eq, UInt8.le_iff_toNat_le] at hwithin
  rw [UInt8.lt_iff_toNat_lt]
  have hlow := h.low_ge
  change ¬ b.toNat < 128
  omega

theorem count_cons_ofNat {parts : List (Option Char)} {rest : List UInt8}
    (h : parts.count (some '\n') = rest.count Diff.lineFeed) :
    (some (Char.ofNat b.toNat) :: parts).count (some '\n') = (b :: rest).count Diff.lineFeed := by
  by_cases hb : b = Diff.lineFeed
  · have hchar : Char.ofNat Diff.lineFeed.toNat = '\n' := by decide
    rw [hb, hchar, List.count_cons_self, List.count_cons_self, h]
  · have hcode : b.toNat ≠ 10 := fun heq => hb (UInt8.toNat_inj.mp heq)
    have hchar : some (Char.ofNat b.toNat) ≠ some '\n' := by
      simpa using ofNat_ne_lineFeed hcode
    rw [List.count_cons_of_ne hchar, List.count_cons_of_ne hb, h]

theorem count_decodeFrom {bytes : List UInt8} (hbegun : due ≠ 0 → IsBegun low code) :
    (decodeFrom due low high code bytes).count (some '\n') = bytes.count Diff.lineFeed := by
  fun_induction decodeFrom due low high code bytes with
  | case1 => rfl
  | case2 => rfl
  | case3 low high code b rest hsmall ih => exact count_cons_ofNat (ih (by simp))
  | case4 _ _ _ b rest hlarge more low high share hlead ih =>
      rw [count_cons_of_not_lt hlarge]
      exact ih fun _ => isBegun_of_leadByte? hlead
  | case5 _ _ _ b rest hlarge hlead ih =>
      rw [count_cons_none, count_cons_of_not_lt hlarge]
      exact ih (by simp)
  | case6 low high code b rest hwithin whole ih =>
      have hbegun := hbegun (by simp)
      have hcode := hbegun.code_ge hwithin
      have hchar : some (Char.ofNat whole) ≠ some '\n' := by
        simpa using ofNat_ne_lineFeed (show whole ≠ 10 by omega)
      rw [List.count_cons_of_ne hchar, hbegun.count_cons hwithin]
      exact ih (by simp)
  | case7 due low high code b rest hwithin longer hdue ih =>
      have hbegun := hbegun (by simp)
      have hcode := hbegun.code_ge hwithin
      rw [hbegun.count_cons hwithin]
      exact ih fun _ => ⟨by decide, by omega⟩
  | case8 due low high code b rest hwithout hsmall ih =>
      rw [count_cons_none]
      exact count_cons_ofNat (ih (by simp))
  | case9 due _ _ _ b rest hwithout hlarge more low high share hlead ih =>
      rw [count_cons_none, count_cons_of_not_lt hlarge]
      exact ih fun _ => isBegun_of_leadByte? hlead
  | case10 due low high code b rest hwithout hlarge hlead ih =>
      rw [count_cons_none, count_cons_none, count_cons_of_not_lt hlarge]
      exact ih (by simp)

/-- Bytes are decoded to a text with as many line feeds as they have. -/
theorem length_filter_decodeLossy (bytes : List UInt8) :
    ((decodeLossy bytes).toList.filter (· == '\n')).length = bytes.count Diff.lineFeed := by
  have hparts : (decodeParts bytes).count (some '\n') = bytes.count Diff.lineFeed :=
    count_decodeFrom (by simp)
  rw [← hparts, decodeLossy, String.toList_ofList, List.filter_map, List.length_map,
    List.count_eq_countP, List.countP_eq_length_filter]
  congr 2
  funext part
  cases part with
  | none => rfl
  | some c => simp

end Text

namespace Diff

variable {bytes : List UInt8}

theorem length_linesFrom (h : bytes.getLast? = some lineFeed) :
    ∀ line, (linesFrom line bytes).length = bytes.count lineFeed := by
  induction bytes with
  | nil => simp at h
  | cons b rest ih =>
      intro line
      cases rest with
      | nil =>
          obtain rfl : b = lineFeed := by simpa using h
          simp [linesFrom]
      | cons c rest =>
          have hrest : (c :: rest).getLast? = some lineFeed := by simpa using h
          rw [linesFrom.eq_3]
          by_cases hb : b = lineFeed
          · rw [if_pos hb, List.length_cons, ih hrest, hb, List.count_cons_self]
          · rw [if_neg hb, ih hrest, List.count_cons_of_ne hb]

theorem length_lines (h : bytes.getLast? = some lineFeed) :
    (lines bytes).length = ((Text.decodeLossy bytes).toList.filter (· == '\n')).length := by
  rw [lines, length_linesFrom h, Text.length_filter_decodeLossy]

theorem length_lines_le (h : bytes.getLast? = some lineFeed) :
    (lines bytes).length ≤ bytes.length := by
  rw [lines, length_linesFrom h]
  exact List.count_le_length

end Diff

end IssueTrace
