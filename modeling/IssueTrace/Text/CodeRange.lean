/-!
# Ranges of code points

A class of characters is kept as its ranges of code points in ascending order, and a character is
looked up by halving.
-/

namespace IssueTrace.Text

/-- A class of characters, as ascending ranges of code points, both ends included. -/
abbrev CodeRanges := Array (Nat × Nat)

namespace CodeRanges

/-- The number of ranges in `lo ≤ i < lo + span` that begin at or before a code point, given that
those before `lo` do and those from `lo + span` on do not. -/
def countBefore (table : CodeRanges) (code : Nat) : Nat → Nat → Nat → Nat
  | 0, lo, _ => lo
  | fuel + 1, lo, span =>
      if span = 0 then lo
      else
        let half := span / 2
        if (table.getD (lo + half) (0, 0)).1 ≤ code then
          countBefore table code fuel (lo + half + 1) (span - half - 1)
        else countBefore table code fuel lo half

/-- Whether a character belongs to the class. -/
def mem (table : CodeRanges) (c : Char) : Bool :=
  match countBefore table c.toNat table.size 0 table.size with
  | 0 => false
  | k + 1 => c.toNat ≤ (table.getD k (0, 0)).2

end CodeRanges

end IssueTrace.Text
