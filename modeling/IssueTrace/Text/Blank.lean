/-!
# Blank space and lines

Splitting a text at blank space and at line ends. A character is blank when it has the Unicode
property `White_Space`. A line ends at a line feed, and a carriage return before it belongs to the
line end.
-/

namespace IssueTrace.Text

def isBlank (c : Char) : Bool :=
  let n := c.toNat
  (9 ≤ n && n ≤ 13) || n = 0x20 || n = 0x85 || n = 0xA0 || n = 0x1680
    || (0x2000 ≤ n && n ≤ 0x200A) || n = 0x2028 || n = 0x2029 || n = 0x202F || n = 0x205F
    || n = 0x3000

/-- Splits a text into its words, given the letters of the word begun, the last one first. -/
def wordsFrom : List Char → List Char → List (List Char)
  | [], [] => []
  | word, [] => [word.reverse]
  | word, c :: rest =>
      if isBlank c then
        match word with
        | [] => wordsFrom [] rest
        | _ => word.reverse :: wordsFrom [] rest
      else wordsFrom (c :: word) rest

/-- The maximal runs of characters that are not blank. -/
def words (s : List Char) : List (List Char) := wordsFrom [] s

def trimStart (s : List Char) : List Char := s.dropWhile isBlank

def trimEnd (s : List Char) : List Char := (s.reverse.dropWhile isBlank).reverse

/-- The text without the blank characters around it. -/
def trim (s : List Char) : List Char := trimEnd (trimStart s)

/-- A line begun, the last character first, without the carriage return at its end. -/
def dropReturn : List Char → List Char
  | '\r' :: before => before
  | line => line

/-- Splits a text after each line feed, given the characters of the line begun, the last one first.
The line feed is left out, and so is a carriage return before it. -/
def linesFrom : List Char → List Char → List (List Char)
  | [], [] => []
  | line, [] => [line.reverse]
  | line, c :: rest =>
      if c = '\n' then (dropReturn line).reverse :: linesFrom [] rest
      else linesFrom (c :: line) rest

def lines (s : List Char) : List (List Char) := linesFrom [] s

end IssueTrace.Text
