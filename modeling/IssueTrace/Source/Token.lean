import IssueTrace.Text.Identifier

/-!
# Plain tokens

The shapes of the tokens that do not depend on the layout. Each shape is a function from a text to
the number of characters of the longest such token at its head, or nothing if there is none.
-/

namespace IssueTrace.Source

/-- Characters that may stand between two tokens. -/
def isBlank (c : Char) : Bool :=
  c == ' ' || c == '\t' || c == '\n' || c == '\r' || c == '\x0b' || c == '\x0c'
    || c == '\uFEFF' || c == '\u2060' || c == '\u200B'

namespace Token

/-- A word: an identifier or a keyword. -/
def word? : List Char → Option Nat
  | c :: rest =>
      if c == '_' || Text.isIdentifierStart c then
        some (1 + (rest.takeWhile Text.isIdentifierContinue).length)
      else none
  | [] => none

/-- The length of the longest run of digits at the head of a text, where a low line may follow each
group of digits. -/
def digitRun : List Char → Nat
  | [] => 0
  | [c] => if c.isDigit then 1 else 0
  | c :: '_' :: rest => if c.isDigit then 2 + digitRun rest else 0
  | c :: rest => if c.isDigit then 1 + digitRun rest else 0

/-- The length of the longest run of digits of a base, where a low line may precede each group. -/
def basedRun (isBaseDigit : Char → Bool) : List Char → Nat
  | [] => 0
  | c :: rest =>
      if isBaseDigit c then 1 + basedRun isBaseDigit rest
      else if c == '_' then
        match rest with
        | d :: _ => if isBaseDigit d then 1 + basedRun isBaseDigit rest else 0
        | [] => 0
      else 0

def isHexDigit (c : Char) : Bool :=
  c.isDigit || ('a' ≤ c && c ≤ 'f') || ('A' ≤ c && c ≤ 'F')

def isOctalDigit (c : Char) : Bool := '0' ≤ c && c ≤ '7'

def isBinaryDigit (c : Char) : Bool := c == '0' || c == '1'

/-- One more if the next character is one of the given ones. -/
def suffix (marks : List Char) (text : List Char) (n : Nat) : Nat :=
  match text.drop n with
  | c :: _ => if marks.contains c then n + 1 else n
  | [] => n

/-- An integer with a base mark. -/
def based? (marks : List Char) (isBaseDigit : Char → Bool) : List Char → Option Nat
  | '0' :: m :: rest =>
      let n := basedRun isBaseDigit rest
      if marks.contains m && n != 0 then some (suffix ['l', 'L'] rest n + 2) else none
  | _ => none

def integer? (text : List Char) : Option Nat :=
  let plain :=
    match digitRun text with
    | 0 => none
    | n + 1 => some (suffix ['l', 'L', 'j', 'J'] text (n + 1))
  ((based? ['x', 'X'] isHexDigit text).orElse fun _ =>
    (based? ['o', 'O'] isOctalDigit text).orElse fun _ =>
      based? ['b', 'B'] isBinaryDigit text).orElse fun _ => plain

/-- The length of an exponent at the head of a text. -/
def exponent (text : List Char) : Nat :=
  match text with
  | e :: rest =>
      if e == 'e' || e == 'E' then
        let sign := match rest with
          | s :: _ => if s == '+' || s == '-' then 1 else 0
          | [] => 0
        match digitRun (rest.drop sign) with
        | 0 => 0
        | n + 1 => 1 + sign + (n + 1)
      else 0
  | [] => 0

def float? (text : List Char) : Option Nat :=
  let whole := digitRun text
  let mantissa :=
    match text.drop whole with
    | '.' :: rest =>
        let fraction := digitRun rest
        if whole = 0 && fraction = 0 then none
        else
          let n := whole + 1 + fraction
          some (n + exponent (text.drop n))
    | _ =>
        match exponent (text.drop whole) with
        | 0 => none
        | n + 1 => if whole = 0 then none else some (whole + (n + 1))
  mantissa.map (suffix ['j', 'J'] text)

/-- A comment, to the end of its line. -/
def comment? : List Char → Option Nat
  | '#' :: rest => some (1 + (rest.takeWhile fun c => c != '\n' && c != '\x00').length)
  | _ => none

/-- A backslash that joins two lines. -/
def lineContinuation? : List Char → Option Nat
  | '\\' :: '\r' :: '\n' :: _ => some 3
  | '\\' :: '\n' :: _ => some 2
  | '\\' :: '\x00' :: _ => some 2
  | ['\\'] => some 1
  | _ => none

def formatText? (text : List Char) : Option Nat :=
  match (text.takeWhile fun c => c != '\x7b' && c != '\x7d' && c != '\n' && c != '\x00').length with
  | 0 => none
  | n + 1 => some (n + 1)

/-- The mark that asks for a conversion in a replacement field. -/
def typeConversion? : List Char → Option Nat
  | '!' :: c :: _ => if 'a' ≤ c && c ≤ 'z' then some 2 else none
  | _ => none

/-- An escape with a fixed number of hexadecimal digits. -/
def hexEscape? (digits : Nat) (text : List Char) : Option Nat :=
  if (text.takeWhile isHexDigit).length ≥ digits then some digits else none

def escape? : List Char → Option Nat
  | '\\' :: c :: rest =>
      if c == 'u' then (hexEscape? 4 rest).map (· + 2)
      else if c == 'U' then (hexEscape? 8 rest).map (· + 2)
      else if c == 'x' then (hexEscape? 2 rest).map (· + 2)
      else if c.isDigit then some (2 + min 2 (rest.takeWhile Char.isDigit).length)
      else if c == '\r' then if rest.head? == some '\n' then some 3 else none
      else if c == 'N' then
        match rest with
        | '\x7b' :: more =>
            let n := (more.takeWhile fun c => c != '\x7d' && c != '\x00').length
            if n != 0 && (more.drop n).head? == some '\x7d' then some (n + 4) else none
        | _ => none
      else if ['\n', '\'', '"', 'a', 'b', 'f', 'r', 'n', 't', 'v', '\\'].contains c then some 2
      else none
  | _ => none

/-- A backslash in a string that begins no escape. -/
def loneBackslash? : List Char → Option Nat
  | '\\' :: _ => some 1
  | _ => none

/-- The given characters. -/
def literal? (literal text : List Char) : Option Nat :=
  if literal.isPrefixOf text then some literal.length else none

end Token

end IssueTrace.Source
