/-!
# TOML scalars

The strings, numbers and dates of a TOML document, version 1.0. Each reader takes a text and gives
what it read with the rest of the text, or nothing if the text does not begin with such a thing.
-/

namespace IssueTrace.Toml

/-- A reader of things of a kind. -/
abbrev Reader (α : Type) := List Char → Option (α × List Char)

def isSpace (c : Char) : Bool := c == ' ' || c == '\t'

def skipSpace (text : List Char) : List Char := text.dropWhile isSpace

/-- Whether a character may stand in a comment or in a string on one line. -/
def isPlain (c : Char) : Bool := c == '\t' || (0x20 ≤ c.toNat && c.toNat != 0x7F)

/-- The text after a line end, if it begins with one. -/
def afterLineEnd? : List Char → Option (List Char)
  | '\n' :: rest => some rest
  | '\r' :: '\n' :: rest => some rest
  | _ => none

/-- The text after a comment, if it begins with one. -/
def skipComment : List Char → List Char
  | '#' :: rest => rest.dropWhile isPlain
  | text => text

def hexValue? (c : Char) : Option Nat :=
  if c.isDigit then some (c.toNat - '0'.toNat)
  else if 'a' ≤ c && c ≤ 'f' then some (c.toNat - 'a'.toNat + 10)
  else if 'A' ≤ c && c ≤ 'F' then some (c.toNat - 'A'.toNat + 10)
  else none

/-- The character of a code point, if it is one. -/
def scalar? (n : Nat) : Option Char :=
  if n.isValidChar then some (Char.ofNat n) else none

/-- The character given by a number of hexadecimal digits. -/
def codePoint? (digits : Nat) : Reader Char := fun text => do
  let values ← (text.take digits).mapM hexValue?
  guard (values.length = digits)
  let c ← scalar? (values.foldl (fun n d => 16 * n + d) 0)
  return (c, text.drop digits)

/-- What stands after a backslash in a string. -/
def escape? : Reader Char
  | 'b' :: rest => some ('\x08', rest)
  | 't' :: rest => some ('\t', rest)
  | 'n' :: rest => some ('\n', rest)
  | 'f' :: rest => some ('\x0c', rest)
  | 'r' :: rest => some ('\r', rest)
  | '"' :: rest => some ('"', rest)
  | '\\' :: rest => some ('\\', rest)
  | 'u' :: rest => codePoint? 4 rest
  | 'U' :: rest => codePoint? 8 rest
  | _ => none

/-- The rest of a string in double quotes on one line, given the characters read, the last one
first. -/
def basicFrom : Nat → List Char → Reader (List Char)
  | 0, _, _ => none
  | _ + 1, read, '"' :: rest => some (read.reverse, rest)
  | fuel + 1, read, '\\' :: rest => do
      let (c, rest) ← escape? rest
      basicFrom fuel (c :: read) rest
  | fuel + 1, read, c :: rest => if isPlain c then basicFrom fuel (c :: read) rest else none
  | _ + 1, _, [] => none

/-- The rest of a string in single quotes on one line. -/
def literalFrom (text : List Char) : Option (List Char × List Char) :=
  match text.span (fun c => c != '\'' && isPlain c) with
  | (read, '\'' :: rest) => some (read, rest)
  | _ => none

/-- The text after all space and line ends at its head. -/
def skipBlankLines : List Char → List Char
  | ' ' :: rest => skipBlankLines rest
  | '\t' :: rest => skipBlankLines rest
  | '\n' :: rest => skipBlankLines rest
  | '\r' :: '\n' :: rest => skipBlankLines rest
  | text => text

/-- How many quotes stand at the head of a text. -/
def quoteRun (quote : Char) (text : List Char) : Nat := (text.takeWhile (· == quote)).length

/-- The rest of a string of several lines, given the characters read, the last one first. Up to two
quotes may stand right before the three that close it. In double quotes a backslash begins an escape,
and one at the end of a line takes all blank space after it away. -/
def linesFrom (quote : Char) : Nat → List Char → Reader (List Char)
  | 0, _, _ => none
  | _ + 1, _, [] => none
  | fuel + 1, read, c :: rest =>
      if c == quote then
        let n := quoteRun quote (c :: rest)
        if n ≥ 3 then
          let inside := min (n - 3) 2
          some ((List.replicate inside quote ++ read).reverse, (c :: rest).drop (inside + 3))
        else linesFrom quote fuel (quote :: read) rest
      else if c == '\\' && quote == '"' then
        match afterLineEnd? (skipSpace rest) with
        | some after => linesFrom quote fuel read (skipBlankLines after)
        | none => do
            let (e, rest) ← escape? rest
            linesFrom quote fuel (e :: read) rest
      else
        match afterLineEnd? (c :: rest) with
        | some after => linesFrom quote fuel ('\n' :: read) after
        | none => if isPlain c then linesFrom quote fuel (c :: read) rest else none

def lineString? : Reader (List Char)
  | '"' :: rest => basicFrom (rest.length + 1) [] rest
  | '\'' :: rest => literalFrom rest
  | _ => none

/-- The text after the line end that may follow the opening of a string of several lines. -/
def skipFirstLineEnd (text : List Char) : List Char := (afterLineEnd? text).getD text

def string? : Reader (List Char) := fun text =>
  match text with
  | '"' :: '"' :: '"' :: rest => linesFrom '"' (rest.length + 1) [] (skipFirstLineEnd rest)
  | '\'' :: '\'' :: '\'' :: rest => linesFrom '\'' (rest.length + 1) [] (skipFirstLineEnd rest)
  | _ => lineString? text

/-- A run of digits in which single low lines may stand between two digits. -/
def digits? (isBaseDigit : Char → Bool) : Reader (List Char)
  | c :: '_' :: d :: rest =>
      if isBaseDigit c && isBaseDigit d then
        (digits? isBaseDigit (d :: rest)).map fun (ds, rest) => (c :: ds, rest)
      else if isBaseDigit c then some ([c], '_' :: d :: rest)
      else none
  | c :: rest =>
      if isBaseDigit c then
        match digits? isBaseDigit rest with
        | some (ds, rest) => some (c :: ds, rest)
        | none => some ([c], rest)
      else none
  | [] => none

def digitsValue (base : Nat) (ds : List Char) : Nat :=
  ds.foldl (fun n c => base * n + (hexValue? c).getD 0) 0

/-- A sign, which may be missing. -/
def sign : List Char → Bool × List Char
  | '+' :: rest => (false, rest)
  | '-' :: rest => (true, rest)
  | text => (false, text)

/-- A decimal number without sign. A zero stands at its head only alone. -/
def whole? : Reader (List Char) := fun text => do
  let (ds, rest) ← digits? Char.isDigit text
  guard (ds.length = 1 || ds.head? != some '0')
  return (ds, rest)

/-- Whether an integer fits into 64 bits. -/
def fits (n : Int) : Bool := -0x8000000000000000 ≤ n && n < 0x8000000000000000

/-- An integer in a base that is marked. -/
def based? (base : Nat) (isBaseDigit : Char → Bool) : Reader Int := fun text => do
  let (ds, rest) ← digits? isBaseDigit text
  let n : Int := digitsValue base ds
  guard (fits n)
  return (n, rest)

def integer? : Reader Int
  | '0' :: 'x' :: rest => based? 16 (fun c => (hexValue? c).isSome) rest
  | '0' :: 'o' :: rest => based? 8 (fun c => '0' ≤ c && c ≤ '7') rest
  | '0' :: 'b' :: rest => based? 2 (fun c => c == '0' || c == '1') rest
  | text => do
      let (negative, rest) := sign text
      let (ds, rest) ← whole? rest
      let n : Int := digitsValue 10 ds
      let n := if negative then -n else n
      guard (fits n)
      return (n, rest)

def exponent? : Reader Int
  | 'e' :: text | 'E' :: text => do
      let (negative, rest) := sign text
      let (ds, rest) ← digits? Char.isDigit rest
      let n : Int := digitsValue 10 ds
      return (if negative then -n else n, rest)
  | _ => none

/-- Whether a decimal number with an exponent rounds to a finite number of 64 bits. -/
def isFinite (digits : List Char) (exponent : Int) : Bool :=
  let n := digitsValue 10 digits
  let limit := Nat.pow 2 1024 - Nat.pow 2 970
  if n = 0 then true
  else if exponent > 400 then false
  else if exponent ≥ 0 then n * Nat.pow 10 exponent.toNat < limit
  else if (-exponent).toNat > digits.length then true
  else n < limit * Nat.pow 10 (-exponent).toNat

/-- A floating-point number. -/
def float? : Reader Unit := fun text => do
  let (_, unsigned) := sign text
  match unsigned with
  | 'i' :: 'n' :: 'f' :: rest => return ((), rest)
  | 'n' :: 'a' :: 'n' :: rest => return ((), rest)
  | _ =>
      let (ds, rest) ← whole? unsigned
      match rest with
      | '.' :: rest =>
          let (fs, rest) ← digits? Char.isDigit rest
          let (e, rest) := (exponent? rest).getD (0, rest)
          guard (isFinite (ds ++ fs) (e - fs.length))
          return ((), rest)
      | _ =>
          let (e, rest) ← exponent? rest
          guard (isFinite ds e)
          return ((), rest)

/-- A number of exactly the given count of digits. -/
def fixed? (count : Nat) : Reader Nat := fun text => do
  let ds := text.take count
  guard (ds.length = count && ds.all Char.isDigit)
  return (digitsValue 10 ds, text.drop count)

/-- The text after a character, if it begins with it. -/
def after? (c : Char) : List Char → Option (List Char)
  | d :: rest => if c = d then some rest else none
  | [] => none

def isLeap (year : Nat) : Bool := year % 4 = 0 && (year % 100 != 0 || year % 400 = 0)

def daysIn (year month : Nat) : Nat :=
  if month = 2 then if isLeap year then 29 else 28
  else if month = 4 || month = 6 || month = 9 || month = 11 then 30
  else 31

def day? (text : List Char) : Option (List Char) := do
  let (year, rest) ← fixed? 4 text
  let (month, rest) ← fixed? 2 (← after? '-' rest)
  let (day, rest) ← fixed? 2 (← after? '-' rest)
  guard (1 ≤ month && month ≤ 12 && 1 ≤ day && day ≤ daysIn year month)
  return rest

def time? (text : List Char) : Option (List Char) := do
  let (hour, rest) ← fixed? 2 text
  let (minute, rest) ← fixed? 2 (← after? ':' rest)
  let (second, rest) ← fixed? 2 (← after? ':' rest)
  guard (hour ≤ 23 && minute ≤ 59 && second ≤ 60)
  match rest with
  | '.' :: more =>
      guard (more.head?.any Char.isDigit)
      return more.dropWhile Char.isDigit
  | _ => return rest

/-- The text after the offset of a time, which may be missing. -/
def skipOffset (text : List Char) : Option (List Char) :=
  match text with
  | 'Z' :: rest | 'z' :: rest => some rest
  | '+' :: rest | '-' :: rest => do
      let (hour, rest) ← fixed? 2 rest
      let (minute, rest) ← fixed? 2 (← after? ':' rest)
      guard (hour ≤ 23 && minute ≤ 59)
      return rest
  | _ => some text

/-- A date, a time, or both. -/
def date? : Reader Unit := fun text =>
  match fixed? 4 text, fixed? 2 text with
  | some (_, '-' :: _), _ => do
      let rest ← day? text
      match rest with
      | c :: more =>
          if c == 'T' || c == 't' || (c == ' ' && more.head?.any Char.isDigit) then
            return ((), ← skipOffset (← time? more))
          else return ((), rest)
      | [] => return ((), rest)
  | _, some (_, ':' :: _) => do return ((), ← time? text)
  | _, _ => none

end IssueTrace.Toml
