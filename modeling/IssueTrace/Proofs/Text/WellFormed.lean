import IssueTrace.Proofs.Text.ByteOrder

/-!
# Bytes that are a text

Bytes are decoded to a text exactly if they are the bytes of this text.  A byte that decoding accepts
as the first of a character tells the bounds of the others, and these make up the code point whose
bytes they are.
-/

namespace IssueTrace.Text

variable {bytes rest : List UInt8} {cs : List Char} {b : UInt8}

/-! ## One character -/

/-- What the first byte of a character tells of the code point and of the second byte. The least
leads leave out shorter forms, one of three bytes surrogates, and the greatest one what is past the
last character. -/
theorem leadByte?_eq_some {more share : Nat} {low high : UInt8}
    (h : leadByte? b = some (more, low, high, share)) :
    (more = 1 ∧ b.toNat = 0xC0 + share ∧ 2 ≤ share ∧ share ≤ 31 ∧ 0x80 ≤ low.toNat ∧
        high.toNat ≤ 0xBF) ∨
      (more = 2 ∧ b.toNat = 0xE0 + share ∧ share ≤ 15 ∧ 0x80 ≤ low.toNat ∧ high.toNat ≤ 0xBF ∧
        (share = 0 → 0xA0 ≤ low.toNat) ∧ (share = 13 → high.toNat ≤ 0x9F)) ∨
      (more = 3 ∧ b.toNat = 0xF0 + share ∧ share ≤ 4 ∧ 0x80 ≤ low.toNat ∧ high.toNat ≤ 0xBF ∧
        (share = 0 → 0x90 ≤ low.toNat) ∧ (share = 4 → high.toNat ≤ 0x8F)) := by
  unfold leadByte? at h
  simp only [Bool.and_eq_true, Bool.or_eq_true, decide_eq_true_eq] at h
  split_ifs at h
  all_goals simp only [Option.some.injEq, Prod.mk.injEq] at h
  all_goals obtain ⟨rfl, rfl, rfl, rfl⟩ := h
  · exact .inl ⟨rfl, by omega, by omega, by omega, by decide, by decide⟩
  · exact .inr (.inl ⟨rfl, by omega, by omega, by decide, by decide, by decide, by omega⟩)
  · exact .inr (.inl ⟨rfl, by omega, by omega, by decide, by decide, by omega, by omega⟩)
  · exact .inr (.inl ⟨rfl, by omega, by omega, by decide, by decide, by omega, by decide⟩)
  · exact .inr (.inl ⟨rfl, by omega, by omega, by decide, by decide, by omega, by omega⟩)
  · exact .inr (.inr ⟨rfl, by omega, by omega, by decide, by decide, by decide, by omega⟩)
  · exact .inr (.inr ⟨rfl, by omega, by omega, by decide, by decide, by omega, by omega⟩)
  · exact .inr (.inr ⟨rfl, by omega, by omega, by decide, by decide, by omega, by decide⟩)

/-- Where nothing is ill formed, the byte that is due is there and within its bounds. -/
theorem exists_next_of_decodeFrom {due code : Nat} {low high : UInt8}
    (h : decodeFrom (due + 1) low high code bytes = cs.map some) :
    ∃ next rest, bytes = next :: rest ∧ low.toNat ≤ next.toNat ∧ next.toNat ≤ high.toNat ∧
      (if due = 0 then
          some (Char.ofNat (code * 64 + (next.toNat - 0x80))) :: decodeFrom 0 0 0 0 rest
        else decodeFrom due 0x80 0xBF (code * 64 + (next.toNat - 0x80)) rest) = cs.map some := by
  cases bytes with
  | nil =>
      rw [decodeFrom] at h
      cases cs <;> simp at h
  | cons next rest =>
      rw [decodeFrom] at h
      split at h
      · rename_i hwithin
        rw [Bool.and_eq_true, decide_eq_true_eq, decide_eq_true_eq, UInt8.le_iff_toNat_le,
          UInt8.le_iff_toNat_le] at hwithin
        exact ⟨next, rest, rfl, hwithin.1, hwithin.2, h⟩
      · split at h
        · cases cs <;> simp at h
        · split at h
          · cases cs <;> simp at h
          · cases cs <;> simp at h

theorem utf8EncodeChar_ofNat {v : Nat} (hv : v.isValidChar) :
    String.utf8EncodeChar (Char.ofNat v) = UInt8.ofNat (leadNumber v) :: followers v := by
  rw [utf8EncodeChar_eq_cons, toNat_ofNat_of_isValidChar hv]

theorem ofNat_eq_of_toNat {n : Nat} (h : n = b.toNat) : UInt8.ofNat n = b := by
  rw [h, UInt8.ofNat_toNat]

variable {next third fourth : UInt8} {share : Nat}

theorem utf8EncodeChar_of_two (hb : b.toNat = 0xC0 + share) (hlow : 2 ≤ share) (hhigh : share ≤ 31)
    (hnext : 0x80 ≤ next.toNat ∧ next.toNat ≤ 0xBF) :
    String.utf8EncodeChar (Char.ofNat (share * 64 + (next.toNat - 0x80))) = [b, next] := by
  rw [utf8EncodeChar_ofNat (.inl (by omega)), leadNumber, followers, if_neg (by omega),
    if_pos (by omega), if_neg (by omega), if_pos (by omega), ofNat_eq_of_toNat (b := b) (by omega),
    ofNat_eq_of_toNat (b := next) (by omega)]

theorem utf8EncodeChar_of_three (hb : b.toNat = 0xE0 + share) (hhigh : share ≤ 15)
    (hnext : 0x80 ≤ next.toNat ∧ next.toNat ≤ 0xBF) (hfirst : share = 0 → 0xA0 ≤ next.toNat)
    (hsurrogates : share = 13 → next.toNat ≤ 0x9F)
    (hthird : 0x80 ≤ third.toNat ∧ third.toNat ≤ 0xBF) :
    String.utf8EncodeChar (Char.ofNat
      ((share * 64 + (next.toNat - 0x80)) * 64 + (third.toNat - 0x80))) = [b, next, third] := by
  have hvalid : ((share * 64 + (next.toNat - 0x80)) * 64 + (third.toNat - 0x80)).isValidChar := by
    by_cases hbelow : share ≤ 13
    · exact .inl (by omega)
    · exact .inr ⟨by omega, by omega⟩
  rw [utf8EncodeChar_ofNat hvalid, leadNumber, followers, if_neg (by omega), if_neg (by omega),
    if_pos (by omega), if_neg (by omega), if_neg (by omega), if_pos (by omega),
    ofNat_eq_of_toNat (b := b) (by omega), ofNat_eq_of_toNat (b := next) (by omega),
    ofNat_eq_of_toNat (b := third) (by omega)]

theorem utf8EncodeChar_of_four (hb : b.toNat = 0xF0 + share) (hhigh : share ≤ 4)
    (hnext : 0x80 ≤ next.toNat ∧ next.toNat ≤ 0xBF) (hfirst : share = 0 → 0x90 ≤ next.toNat)
    (hlast : share = 4 → next.toNat ≤ 0x8F)
    (hthird : 0x80 ≤ third.toNat ∧ third.toNat ≤ 0xBF)
    (hfourth : 0x80 ≤ fourth.toNat ∧ fourth.toNat ≤ 0xBF) :
    String.utf8EncodeChar (Char.ofNat
      (((share * 64 + (next.toNat - 0x80)) * 64 + (third.toNat - 0x80)) * 64 +
        (fourth.toNat - 0x80))) = [b, next, third, fourth] := by
  rw [utf8EncodeChar_ofNat (.inr ⟨by omega, by omega⟩), leadNumber, followers, if_neg (by omega),
    if_neg (by omega), if_neg (by omega), if_neg (by omega), if_neg (by omega), if_neg (by omega),
    ofNat_eq_of_toNat (b := b) (by omega), ofNat_eq_of_toNat (b := next) (by omega),
    ofNat_eq_of_toNat (b := third) (by omega), ofNat_eq_of_toNat (b := fourth) (by omega)]

theorem exists_tail_of_some_cons {c : Char} {parts : List (Option Char)}
    (h : some c :: parts = cs.map some) : ∃ cs', cs = c :: cs' ∧ parts = cs'.map some := by
  obtain ⟨c', cs', rfl, hc, hrest⟩ := List.map_eq_cons_iff.mp h.symm
  rw [← Option.some.inj hc]
  exact ⟨cs', rfl, hrest.symm⟩

/-- Where nothing is ill formed, the bytes begin with those of the first character. -/
theorem exists_char_of_decodeFrom (h : decodeFrom 0 0 0 0 (b :: rest) = cs.map some) :
    ∃ c more cs', cs = c :: cs' ∧ b :: rest = String.utf8EncodeChar c ++ more ∧
      decodeFrom 0 0 0 0 more = cs'.map some := by
  rw [decodeFrom] at h
  split at h
  · rename_i hsmall
    have hlt : b.toNat < 0x80 := UInt8.lt_iff_toNat_lt.mp hsmall
    obtain ⟨cs', rfl, hrest⟩ := exists_tail_of_some_cons h
    refine ⟨_, rest, cs', rfl, ?_, hrest⟩
    rw [utf8EncodeChar_ofNat (.inl (by omega)), leadNumber, followers, if_pos (by omega),
      if_pos (by omega), UInt8.ofNat_toNat, List.singleton_append]
  · split at h
    · rename_i more low high share hlead
      rcases leadByte?_eq_some hlead with ⟨rfl, hb, hlow, hhigh, hlo, hhi⟩ |
        ⟨rfl, hb, hhigh, hlo, hhi, hfirst, hlast⟩ | ⟨rfl, hb, hhigh, hlo, hhi, hfirst, hlast⟩
      · obtain ⟨next, rest, rfl, hl, hh, h⟩ := exists_next_of_decodeFrom h
        rw [if_pos rfl] at h
        obtain ⟨cs', rfl, hrest⟩ := exists_tail_of_some_cons h
        refine ⟨_, rest, cs', rfl, ?_, hrest⟩
        rw [utf8EncodeChar_of_two hb hlow hhigh ⟨by omega, by omega⟩]
        rfl
      · obtain ⟨next, rest, rfl, hl, hh, h⟩ := exists_next_of_decodeFrom h
        rw [if_neg one_ne_zero] at h
        obtain ⟨third, rest, rfl, hl', hh', h⟩ := exists_next_of_decodeFrom h
        rw [if_pos rfl] at h
        obtain ⟨cs', rfl, hrest⟩ := exists_tail_of_some_cons h
        refine ⟨_, rest, cs', rfl, ?_, hrest⟩
        rw [utf8EncodeChar_of_three hb hhigh ⟨by omega, by omega⟩ (by omega) (by omega) ⟨hl', hh'⟩]
        rfl
      · obtain ⟨next, rest, rfl, hl, hh, h⟩ := exists_next_of_decodeFrom h
        rw [if_neg two_ne_zero] at h
        obtain ⟨third, rest, rfl, hl', hh', h⟩ := exists_next_of_decodeFrom h
        rw [if_neg one_ne_zero] at h
        obtain ⟨fourth, rest, rfl, hl'', hh'', h⟩ := exists_next_of_decodeFrom h
        rw [if_pos rfl] at h
        obtain ⟨cs', rfl, hrest⟩ := exists_tail_of_some_cons h
        refine ⟨_, rest, cs', rfl, ?_, hrest⟩
        rw [utf8EncodeChar_of_four hb hhigh ⟨by omega, by omega⟩ (by omega) (by omega) ⟨hl', hh'⟩
          ⟨hl'', hh''⟩]
        rfl
    · cases cs <;> simp at h

/-! ## Texts -/

theorem eq_flatMap_of_decodeParts (h : decodeParts bytes = cs.map some) :
    bytes = cs.flatMap String.utf8EncodeChar := by
  unfold decodeParts at h
  induction cs generalizing bytes with
  | nil =>
      cases bytes with
      | nil => rfl
      | cons b rest =>
          obtain ⟨c, more, cs', hcs, -⟩ := @exists_char_of_decodeFrom _ [] _ h
          cases hcs
  | cons c cs ih =>
      cases bytes with
      | nil => simp [decodeFrom] at h
      | cons b rest =>
          obtain ⟨c', more, cs', hcs, hbytes, hrest⟩ := exists_char_of_decodeFrom h
          obtain ⟨rfl, rfl⟩ := List.cons.inj hcs
          rw [hbytes, ih hrest, List.flatMap_cons]

theorem mapM_id_eq_some_iff {parts : List (Option Char)} :
    parts.mapM id = some cs ↔ parts = cs.map some := by
  induction parts generalizing cs with
  | nil => cases cs <;> simp
  | cons part parts ih =>
      cases part with
      | none => cases cs <;> simp
      | some c =>
          have hcons : (some c :: parts).mapM id = (parts.mapM id).map (c :: ·) := by
            rw [List.mapM_cons]
            cases parts.mapM id <;> rfl
          rw [hcons, Option.map_eq_some_iff]
          constructor
          · rintro ⟨cs', hcs', rfl⟩
            rw [ih.mp hcs', List.map_cons]
          · intro h
            obtain ⟨cs', rfl, hrest⟩ := exists_tail_of_some_cons h
            exact ⟨cs', ih.mpr hrest, rfl⟩

/-- Bytes are decoded to a text exactly if they are its bytes. -/
theorem decode?_eq_some_iff {s : String} : decode? bytes = some s ↔ encode s = bytes := by
  unfold decode?
  constructor
  · intro h
    obtain ⟨cs, hcs, rfl⟩ := Option.map_eq_some_iff.mp h
    rw [encode_eq_flatMap, String.toList_ofList]
    exact (eq_flatMap_of_decodeParts (mapM_id_eq_some_iff.mp hcs)).symm
  · rintro rfl
    rw [decodeParts_encode, mapM_id_eq_some_iff.mpr rfl, Option.map_some, String.ofList_toList]

theorem encode_inj {s t : String} : encode s = encode t ↔ s = t := by
  constructor
  · intro h
    rw [← decodeLossy_encode s, h, decodeLossy_encode]
  · rintro rfl
    rfl

end IssueTrace.Text
