/-!
# Bytes as text

Decoding of UTF-8. `decode?` takes well-formed bytes only; `decodeLossy` puts a replacement character
for each maximal part that could begin a character but does not go on as one.
-/

namespace IssueTrace.Text

/-- What a first byte promises: how many bytes follow it, the bounds of the first of these, and its
own share of the code point. -/
def leadByte? (b : UInt8) : Option (Nat × UInt8 × UInt8 × Nat) :=
  let n := b.toNat
  if 0xC2 ≤ n && n ≤ 0xDF then some (1, 0x80, 0xBF, n - 0xC0)
  else if n = 0xE0 then some (2, 0xA0, 0xBF, 0)
  else if 0xE1 ≤ n && n ≤ 0xEC then some (2, 0x80, 0xBF, n - 0xE0)
  else if n = 0xED then some (2, 0x80, 0x9F, 0xD)
  else if n = 0xEE || n = 0xEF then some (2, 0x80, 0xBF, n - 0xE0)
  else if n = 0xF0 then some (3, 0x90, 0xBF, 0)
  else if 0xF1 ≤ n && n ≤ 0xF3 then some (3, 0x80, 0xBF, n - 0xF0)
  else if n = 0xF4 then some (3, 0x80, 0x8F, 4)
  else none

/-- Decodes bytes to characters, with `none` for each ill-formed part. The first arguments are the
character begun: how many bytes are still due, the bounds of the next one, and the code point so
far. -/
def decodeFrom : Nat → UInt8 → UInt8 → Nat → List UInt8 → List (Option Char)
  | 0, _, _, _, [] => []
  | _ + 1, _, _, _, [] => [none]
  | 0, _, _, _, b :: rest =>
      if b < 0x80 then some (Char.ofNat b.toNat) :: decodeFrom 0 0 0 0 rest
      else
        match leadByte? b with
        | some (more, low, high, share) => decodeFrom more low high share rest
        | none => none :: decodeFrom 0 0 0 0 rest
  | due + 1, low, high, code, b :: rest =>
      if low ≤ b && b ≤ high then
        let code := code * 64 + (b.toNat - 0x80)
        if due = 0 then some (Char.ofNat code) :: decodeFrom 0 0 0 0 rest
        else decodeFrom due 0x80 0xBF code rest
      else if b < 0x80 then none :: some (Char.ofNat b.toNat) :: decodeFrom 0 0 0 0 rest
      else
        match leadByte? b with
        | some (more, low, high, share) => none :: decodeFrom more low high share rest
        | none => none :: none :: decodeFrom 0 0 0 0 rest

/-- The characters of bytes, with `none` for each ill-formed part. -/
def decodeParts (bytes : List UInt8) : List (Option Char) := decodeFrom 0 0 0 0 bytes

/-- The text that bytes encode, if they are well formed. -/
def decode? (bytes : List UInt8) : Option String :=
  ((decodeParts bytes).mapM id).map String.ofList

/-- The text of bytes, with replacement characters where they are ill formed. -/
def decodeLossy (bytes : List UInt8) : String :=
  String.ofList ((decodeParts bytes).map (·.getD (Char.ofNat 0xFFFD)))

/-- How many bytes a character has by its first byte; none for a byte that begins no character. -/
def sequenceLength? (b : UInt8) : Option Nat :=
  let n := b.toNat
  if n < 0x80 then some 1
  else if 0xC0 ≤ n && n < 0xE0 then some 2
  else if 0xE0 ≤ n && n < 0xF0 then some 3
  else if 0xF0 ≤ n && n < 0xF8 then some 4
  else none

def isContinuation (b : UInt8) : Bool := 0x80 ≤ b && b < 0xC0

/-- The longest beginning of a text that is made of complete characters; the first argument bounds
their number. -/
def completeFrom : Nat → List UInt8 → List UInt8
  | _, [] => []
  | 0, _ => []
  | fuel + 1, b :: rest =>
      match sequenceLength? b with
      | none => []
      | some n =>
          let others := rest.take (n - 1)
          if others.length = n - 1 && others.all isContinuation then
            b :: others ++ completeFrom fuel (rest.drop (n - 1))
          else []

/-- The longest beginning of a text that is made of complete characters. -/
def completeStart (bytes : List UInt8) : List UInt8 := completeFrom bytes.length bytes

/-- The bytes of a text. -/
def encode (s : String) : List UInt8 := s.toUTF8.data.toList

end IssueTrace.Text
