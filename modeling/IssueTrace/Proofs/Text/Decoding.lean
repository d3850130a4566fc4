import IssueTrace.Text.Utf8
import Mathlib.Data.List.Basic

/-!
# Decoding what was encoded

The bytes of a character are decoded to this character, whatever follows them.  So the bytes of a
text are decoded to the text, without a replacement character.
-/

namespace IssueTrace.Text

theorem toNat_ofNat_of_isValidChar {n : Nat} (h : n.isValidChar) : (Char.ofNat n).toNat = n := by
  unfold Char.ofNat
  rw [dif_pos h]
  rfl

/-- Only the NUL is given for other numbers than its own, those of no character. -/
theorem eq_toNat_of_ofNat_eq {n : Nat} {c : Char} (hc : c ≠ '\x00') (h : Char.ofNat n = c) :
    n = c.toNat := by
  by_cases hvalid : n.isValidChar
  · rw [← h, toNat_ofNat_of_isValidChar hvalid]
  · unfold Char.ofNat at h
    rw [dif_neg hvalid] at h
    exact absurd h.symm hc

theorem encode_eq_flatMap (s : String) : encode s = s.toList.flatMap String.utf8EncodeChar := by
  have htoUTF8 : s.toUTF8 = s.toList.utf8Encode := String.utf8Encode_toList.symm
  unfold encode
  rw [htoUTF8, List.utf8Encode, List.toList_data_toByteArray]

theorem decodeFrom_single {n : Nat} (hn : n < 0x80) (rest : List UInt8) :
    decodeFrom 0 0 0 0 (UInt8.ofNat n :: rest) =
      some (Char.ofNat n) :: decodeFrom 0 0 0 0 rest := by
  have hvalue : (UInt8.ofNat n).toNat = n :=
    UInt8.toNat_ofNat_of_lt' (Nat.lt_trans hn (by decide))
  have hlow : UInt8.ofNat n < 0x80 := by
    rw [UInt8.lt_iff_toNat_lt, hvalue]
    exact hn
  rw [decodeFrom, if_pos hlow, hvalue]

theorem decodeFrom_lead {n more share : Nat} {low high : UInt8} (hn : 0x80 ≤ n) (hbyte : n < 256)
    (hlead : leadByte? (UInt8.ofNat n) = some (more, low, high, share)) (rest : List UInt8) :
    decodeFrom 0 0 0 0 (UInt8.ofNat n :: rest) = decodeFrom more low high share rest := by
  have hvalue : (UInt8.ofNat n).toNat = n := UInt8.toNat_ofNat_of_lt' hbyte
  have hhigh : ¬ UInt8.ofNat n < 0x80 := by
    rw [UInt8.lt_iff_toNat_lt, hvalue]
    change ¬ n < 128
    omega
  rw [decodeFrom, if_neg hhigh, hlead]

/-- A byte within the bounds goes on with the character begun, and ends it when no other is due. -/
theorem decodeFrom_next {n due code : Nat} {low high : UInt8} (hbyte : n < 256)
    (hlow : low.toNat ≤ n) (hhigh : n ≤ high.toNat) (rest : List UInt8) :
    decodeFrom (due + 1) low high code (UInt8.ofNat n :: rest) =
      if due = 0 then some (Char.ofNat (code * 64 + (n - 0x80))) :: decodeFrom 0 0 0 0 rest
      else decodeFrom due 0x80 0xBF (code * 64 + (n - 0x80)) rest := by
  have hvalue : (UInt8.ofNat n).toNat = n := UInt8.toNat_ofNat_of_lt' hbyte
  have hwithin : (decide (low ≤ UInt8.ofNat n) && decide (UInt8.ofNat n ≤ high)) = true := by
    rw [Bool.and_eq_true, decide_eq_true_eq, decide_eq_true_eq, UInt8.le_iff_toNat_le,
      UInt8.le_iff_toNat_le, hvalue]
    exact ⟨hlow, hhigh⟩
  rw [decodeFrom, if_pos hwithin, hvalue]

theorem decodeFrom_middle {n due code : Nat} (hlow : 0x80 ≤ n) (hhigh : n ≤ 0xBF)
    (rest : List UInt8) :
    decodeFrom (due + 1) 0x80 0xBF code (UInt8.ofNat n :: rest) =
      if due = 0 then some (Char.ofNat (code * 64 + (n - 0x80))) :: decodeFrom 0 0 0 0 rest
      else decodeFrom due 0x80 0xBF (code * 64 + (n - 0x80)) rest :=
  decodeFrom_next (by omega) hlow hhigh rest

theorem leadByte?_ofNat {n : Nat} (hn : n < 256) : leadByte? (UInt8.ofNat n) =
    if 0xC2 ≤ n && n ≤ 0xDF then some (1, 0x80, 0xBF, n - 0xC0)
    else if n = 0xE0 then some (2, 0xA0, 0xBF, 0)
    else if 0xE1 ≤ n && n ≤ 0xEC then some (2, 0x80, 0xBF, n - 0xE0)
    else if n = 0xED then some (2, 0x80, 0x9F, 0xD)
    else if n = 0xEE || n = 0xEF then some (2, 0x80, 0xBF, n - 0xE0)
    else if n = 0xF0 then some (3, 0x90, 0xBF, 0)
    else if 0xF1 ≤ n && n ≤ 0xF3 then some (3, 0x80, 0xBF, n - 0xF0)
    else if n = 0xF4 then some (3, 0x80, 0x8F, 4)
    else none := by
  have hvalue : (UInt8.ofNat n).toNat = n := UInt8.toNat_ofNat_of_lt' hn
  unfold leadByte?
  rw [hvalue]

theorem leadByte?_three {v : Nat} (hlow : 0x800 ≤ v) (hhigh : v ≤ 0xFFFF)
    (hvalid : v < 0xD800 ∨ 0xDFFF < v) :
    ∃ low high : UInt8, leadByte? (UInt8.ofNat (v / 4096 % 16 + 0xE0)) =
        some (2, low, high, v / 4096) ∧
      low.toNat ≤ v / 64 % 64 + 0x80 ∧ v / 64 % 64 + 0x80 ≤ high.toNat := by
  obtain ⟨k, hk⟩ : ∃ k, k = v / 4096 := ⟨_, rfl⟩
  have hmod : v / 4096 % 16 + 0xE0 = k + 0xE0 := by omega
  rw [hmod, leadByte?_ofNat (by omega), ← hk, if_neg (by simp)]
  by_cases hfirst : k = 0
  · rw [if_pos (by omega), hfirst]
    exact ⟨0xA0, 0xBF, rfl, by change 160 ≤ _; omega, by change _ ≤ 191; omega⟩
  · rw [if_neg (by omega)]
    by_cases hsurrogates : k = 13
    · rw [if_neg (by simp; omega), if_pos (by omega), hsurrogates]
      exact ⟨0x80, 0x9F, rfl, by change 128 ≤ _; omega, by change _ ≤ 159; omega⟩
    · refine ⟨0x80, 0xBF, ?_, by change 128 ≤ _; omega, by change _ ≤ 191; omega⟩
      by_cases hsmall : k < 13
      · rw [if_pos (by simp; omega)]
        simp
      · rw [if_neg (by simp; omega), if_neg (by omega), if_pos (by simp; omega)]
        simp

theorem leadByte?_four {v : Nat} (hlow : 0xFFFF < v) (hhigh : v < 0x110000) :
    ∃ low high : UInt8, leadByte? (UInt8.ofNat (v / 262144 % 8 + 0xF0)) =
        some (3, low, high, v / 262144) ∧
      low.toNat ≤ v / 4096 % 64 + 0x80 ∧ v / 4096 % 64 + 0x80 ≤ high.toNat := by
  obtain ⟨k, hk⟩ : ∃ k, k = v / 262144 := ⟨_, rfl⟩
  have hmod : v / 262144 % 8 + 0xF0 = k + 0xF0 := by omega
  rw [hmod, leadByte?_ofNat (by omega), ← hk, if_neg (by simp), if_neg (by omega),
    if_neg (by simp), if_neg (by omega), if_neg (by simp)]
  by_cases hfirst : k = 0
  · rw [if_pos (by omega), hfirst]
    exact ⟨0x90, 0xBF, rfl, by change 144 ≤ _; omega, by change _ ≤ 191; omega⟩
  · rw [if_neg (by omega)]
    by_cases hlast : k = 4
    · rw [if_neg (by simp; omega), if_pos (by omega), hlast]
      exact ⟨0x80, 0x8F, rfl, by change 128 ≤ _; omega, by change _ ≤ 143; omega⟩
    · refine ⟨0x80, 0xBF, ?_, by change 128 ≤ _; omega, by change _ ≤ 191; omega⟩
      rw [if_pos (by simp; omega)]
      simp

/-- The bytes of a character are decoded to it. -/
theorem decodeFrom_utf8EncodeChar (c : Char) (rest : List UInt8) :
    decodeFrom 0 0 0 0 (String.utf8EncodeChar c ++ rest) =
      some c :: decodeFrom 0 0 0 0 rest := by
  obtain ⟨v, hv⟩ : ∃ v, v = c.val.toNat := ⟨_, rfl⟩
  have hback : Char.ofNat v = c := by
    rw [hv]
    exact Char.ofNat_toNat c
  have hvalid : v < 0xD800 ∨ 0xDFFF < v ∧ v < 0x110000 := by
    rw [hv]
    exact c.valid
  unfold String.utf8EncodeChar
  dsimp only
  rw [← hv]
  by_cases hone : v ≤ 0x7F
  · rw [if_pos hone, List.singleton_append, decodeFrom_single (by omega), hback]
  · rw [if_neg hone]
    by_cases htwo : v ≤ 0x7FF
    · have hlead : leadByte? (UInt8.ofNat (v / 64 % 32 + 0xC0)) =
          some (1, 0x80, 0xBF, v / 64) := by
        rw [leadByte?_ofNat (by omega), if_pos (by simp; omega)]
        have hshare : v / 64 % 32 + 0xC0 - 0xC0 = v / 64 := by omega
        rw [hshare]
      have hcode : v / 64 * 64 + (v % 64 + 0x80 - 0x80) = v := by omega
      rw [if_pos htwo, List.cons_append, decodeFrom_lead (by omega) (by omega) hlead,
        List.singleton_append, decodeFrom_middle (by omega) (by omega), if_pos rfl, hcode, hback]
    · rw [if_neg htwo]
      by_cases hthree : v ≤ 0xFFFF
      · obtain ⟨low, high, hlead, hlow, hhigh⟩ :=
          leadByte?_three (v := v) (by omega) hthree (by omega)
        have hcode : (v / 4096 * 64 + (v / 64 % 64 + 0x80 - 0x80)) * 64 +
            (v % 64 + 0x80 - 0x80) = v := by omega
        rw [if_pos hthree, List.cons_append, decodeFrom_lead (by omega) (by omega) hlead,
          List.cons_append, decodeFrom_next (by omega) hlow hhigh, if_neg (by omega),
          List.singleton_append, decodeFrom_middle (by omega) (by omega), if_pos rfl, hcode, hback]
      · obtain ⟨low, high, hlead, hlow, hhigh⟩ :=
          leadByte?_four (v := v) (by omega) (by omega)
        have hcode : ((v / 262144 * 64 + (v / 4096 % 64 + 0x80 - 0x80)) * 64 +
            (v / 64 % 64 + 0x80 - 0x80)) * 64 + (v % 64 + 0x80 - 0x80) = v := by omega
        rw [if_neg hthree, List.cons_append, decodeFrom_lead (by omega) (by omega) hlead,
          List.cons_append, decodeFrom_next (by omega) hlow hhigh, if_neg (by omega),
          List.cons_append, decodeFrom_middle (by omega) (by omega), if_neg (by omega),
          List.singleton_append, decodeFrom_middle (by omega) (by omega), if_pos rfl, hcode, hback]

theorem decodeParts_encode (s : String) : decodeParts (encode s) = s.toList.map some := by
  rw [encode_eq_flatMap]
  unfold decodeParts
  induction s.toList with
  | nil => rfl
  | cons c cs ih => rw [List.flatMap_cons, decodeFrom_utf8EncodeChar, ih, List.map_cons]

/-- A text is decoded from its bytes. -/
theorem decodeLossy_encode (s : String) : decodeLossy (encode s) = s := by
  have hkept : ((fun part : Option Char => part.getD (Char.ofNat 0xFFFD)) ∘ some) = id := rfl
  unfold decodeLossy
  rw [decodeParts_encode, List.map_map, hkept, List.map_id, String.ofList_toList]

end IssueTrace.Text
