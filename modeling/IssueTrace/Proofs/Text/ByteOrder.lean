import IssueTrace.Proofs.Text.Decoding
import Mathlib.Data.String.Basic
import Mathlib.Order.Basic

/-!
# Order of texts by their bytes

Texts are compared character by character.  This is the order of their bytes, because a greater
character has greater bytes: where the bytes of two characters first differ, those of the greater one
are greater.
-/

namespace IssueTrace.Text

theorem cons_lt_cons_of_le {a b : Nat} (hb : b < 256) (hle : a ≤ b) {x y : List UInt8}
    (hrest : a = b → x < y) : UInt8.ofNat a :: x < UInt8.ofNat b :: y := by
  rcases Nat.lt_or_eq_of_le hle with hlt | rfl
  · apply List.cons_lt_cons_iff.mpr
    left
    rw [UInt8.lt_iff_toNat_lt, UInt8.toNat_ofNat', UInt8.toNat_ofNat']
    omega
  · exact List.cons_lt_cons_iff.mpr (.inr ⟨rfl, hrest rfl⟩)

theorem cons_lt_cons_of_lt {a b : Nat} (hb : b < 256) (hlt : a < b) (x y : List UInt8) :
    UInt8.ofNat a :: x < UInt8.ofNat b :: y :=
  cons_lt_cons_of_le hb hlt.le fun h => absurd h hlt.ne

/-! ## Bytes of a character -/

/-- The first byte of a code point as a number. -/
def leadNumber (v : Nat) : Nat :=
  if v ≤ 0x7F then v
  else if v ≤ 0x7FF then v / 64 % 32 + 0xC0
  else if v ≤ 0xFFFF then v / 4096 % 16 + 0xE0
  else v / 262144 % 8 + 0xF0

/-- The bytes of a code point behind the first one. -/
def followers (v : Nat) : List UInt8 :=
  if v ≤ 0x7F then []
  else if v ≤ 0x7FF then [UInt8.ofNat (v % 64 + 0x80)]
  else if v ≤ 0xFFFF then [UInt8.ofNat (v / 64 % 64 + 0x80), UInt8.ofNat (v % 64 + 0x80)]
  else [UInt8.ofNat (v / 4096 % 64 + 0x80), UInt8.ofNat (v / 64 % 64 + 0x80),
    UInt8.ofNat (v % 64 + 0x80)]

theorem utf8EncodeChar_eq_cons (c : Char) :
    String.utf8EncodeChar c = UInt8.ofNat (leadNumber c.toNat) :: followers c.toNat := by
  have hcode : c.toNat = c.val.toNat := rfl
  unfold String.utf8EncodeChar leadNumber followers
  rw [hcode]
  dsimp only
  split_ifs
  · rfl
  · rfl
  · rfl
  · rfl

variable {v w : Nat}

theorem leadNumber_lt (hw : w < 0x110000) : leadNumber w < 256 := by
  unfold leadNumber
  split_ifs
  all_goals omega

theorem leadNumber_le (h : v ≤ w) (hw : w < 0x110000) : leadNumber v ≤ leadNumber w := by
  unfold leadNumber
  split_ifs
  all_goals omega

/-- Code points with the same first byte have equally many bytes. -/
theorem class_eq_of_leadNumber_eq (hv : v < 0x110000) (hw : w < 0x110000)
    (h : leadNumber v = leadNumber w) :
    (v ≤ 0x7F ↔ w ≤ 0x7F) ∧ (v ≤ 0x7FF ↔ w ≤ 0x7FF) ∧ (v ≤ 0xFFFF ↔ w ≤ 0xFFFF) := by
  unfold leadNumber at h
  split_ifs at h
  all_goals omega

/-- Behind a common first byte the first one to differ is a digit of the code point to the base
64. -/
theorem followers_append_lt (h : v < w) (hw : w < 0x110000) (hlead : leadNumber v = leadNumber w)
    (x y : List UInt8) : followers v ++ x < followers w ++ y := by
  obtain ⟨hone, htwo, hthree⟩ := class_eq_of_leadNumber_eq (h.trans hw) hw hlead
  unfold leadNumber at hlead
  unfold followers
  simp only [hone, htwo, hthree] at hlead ⊢
  split_ifs at hlead ⊢
  · exact absurd hlead h.ne
  · exact cons_lt_cons_of_lt (by omega) (by omega) _ _
  · refine cons_lt_cons_of_le (by omega) (by omega) fun _ => ?_
    exact cons_lt_cons_of_lt (by omega) (by omega) _ _
  · refine cons_lt_cons_of_le (by omega) (by omega) fun _ => ?_
    refine cons_lt_cons_of_le (by omega) (by omega) fun _ => ?_
    exact cons_lt_cons_of_lt (by omega) (by omega) _ _

/-- A greater character has greater bytes, whatever follows. -/
theorem utf8EncodeChar_append_lt {c d : Char} (h : c < d) (x y : List UInt8) :
    String.utf8EncodeChar c ++ x < String.utf8EncodeChar d ++ y := by
  have hlt : c.toNat < d.toNat := UInt32.lt_iff_toNat_lt.mp h
  have hbound : d.toNat < 0x110000 := by
    have hvalid : d.toNat < 0xD800 ∨ 0xDFFF < d.toNat ∧ d.toNat < 0x110000 := d.valid
    omega
  rw [utf8EncodeChar_eq_cons, utf8EncodeChar_eq_cons]
  exact cons_lt_cons_of_le (leadNumber_lt hbound) (leadNumber_le hlt.le hbound) fun hlead =>
    followers_append_lt hlt hbound hlead x y

/-! ## Bytes of a text -/

theorem flatMap_utf8EncodeChar_lt {cs ds : List Char} (h : cs < ds) :
    cs.flatMap String.utf8EncodeChar < ds.flatMap String.utf8EncodeChar := by
  induction cs generalizing ds with
  | nil =>
      cases ds with
      | nil => exact absurd h (lt_irrefl _)
      | cons d ds =>
          rw [List.flatMap_nil, List.flatMap_cons, utf8EncodeChar_eq_cons, List.cons_append]
          exact List.nil_lt_cons _ _
  | cons c cs ih =>
      cases ds with
      | nil => exact absurd h (List.not_lt_nil _)
      | cons d ds =>
          rw [List.flatMap_cons, List.flatMap_cons]
          rcases List.cons_lt_cons_iff.mp h with hfirst | ⟨rfl, hrest⟩
          · exact utf8EncodeChar_append_lt hfirst _ _
          · exact List.append_left_lt (ih hrest)

/-- The order of texts is that of their bytes. -/
theorem encode_lt_encode {s t : String} (h : s < t) : encode s < encode t := by
  rw [encode_eq_flatMap, encode_eq_flatMap]
  exact flatMap_utf8EncodeChar_lt (String.lt_iff_toList_lt.mp h)

end IssueTrace.Text
