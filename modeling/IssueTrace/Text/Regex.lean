/-!
# Regular expressions

Regular expressions over bytes, as they are written to search for a commit by its message: alternatives,
groups, repetition, classes of bytes, and anchors. A search asks only whether there is a match
somewhere.
-/

namespace IssueTrace.Text

/-- A regular expression. -/
inductive Regex where
  | empty
  /-- One byte, inside of given ranges or outside of all of them. -/
  | oneOf (inside : Bool) (ranges : List (UInt8 × UInt8))
  | seq (first second : Regex)
  | either (first second : Regex)
  /-- A number of repetitions between two bounds; there may be no upper one. -/
  | many (body : Regex) (least : Nat) (most : Option Nat)
  | textStart
  /-- The end of the text; a line feed may follow if that is wanted. -/
  | textEnd (allowsLineFeed : Bool)
  /-- The edge of a word, or its absence. -/
  | wordEdge (wanted : Bool)
  deriving DecidableEq, Repr, Inhabited

namespace Regex

def ofChar (c : Char) : UInt8 := UInt8.ofNat c.toNat

def digits : List (UInt8 × UInt8) := [(48, 57)]

def wordBytes : List (UInt8 × UInt8) := [(48, 57), (65, 90), (95, 95), (97, 122)]

def blanks : List (UInt8 × UInt8) := [(9, 13), (32, 32)]

def inRanges (ranges : List (UInt8 × UInt8)) (b : UInt8) : Bool :=
  ranges.any fun (low, high) => low ≤ b && b ≤ high

/-- The ranges of the bytes that lie in none of some ranges. -/
def complement (ranges : List (UInt8 × UInt8)) : List (UInt8 × UInt8) :=
  ((List.range 256).map UInt8.ofNat).filterMap fun b =>
    if inRanges ranges b then none else some (b, b)

/-- A class of bytes by the letter after a backslash. -/
def classOf? (b : UInt8) : Option (List (UInt8 × UInt8)) :=
  if b = ofChar 'd' then some digits
  else if b = ofChar 'w' then some wordBytes
  else if b = ofChar 's' then some blanks
  else if b = ofChar 'D' then some (complement digits)
  else if b = ofChar 'W' then some (complement wordBytes)
  else if b = ofChar 'S' then some (complement blanks)
  else none

/-- A control character by the letter after a backslash. -/
def controlOf (b : UInt8) : UInt8 :=
  if b = ofChar 'n' then 10
  else if b = ofChar 't' then 9
  else if b = ofChar 'r' then 13
  else if b = ofChar 'f' then 12
  else if b = ofChar 'e' then 27
  else if b = ofChar 'a' then 7
  else b

/-- Reads the number at the head of a text. -/
def number? (text : List UInt8) : Option (Nat × List UInt8) :=
  match text.takeWhile (inRanges digits) with
  | [] => none
  | ds => some (ds.foldl (fun n d => 10 * n + (d.toNat - 48)) 0, text.drop ds.length)

/-- Reads the items of a class up to its closing bracket. The first argument bounds their number, and
`first` tells that nothing has been read, so that a bracket stands for itself. -/
def items? : Nat → Bool → List (UInt8 × UInt8) → List UInt8 →
    Option (List (UInt8 × UInt8) × List UInt8)
  | 0, _, _, _ => none
  | _ + 1, _, _, [] => none
  | fuel + 1, first, ranges, b :: rest =>
      if b = ofChar ']' && !first then some (ranges, rest)
      else if b = ofChar '\\' then
        match rest with
        | [] => none
        | e :: rest =>
            match classOf? e with
            | some more => items? fuel false (more ++ ranges) rest
            | none => items? fuel false ((controlOf e, controlOf e) :: ranges) rest
      else
        match rest with
        | dash :: high :: after =>
            if dash = ofChar '-' && high != ofChar ']' then
              if high < b then none else items? fuel false ((b, high) :: ranges) after
            else items? fuel false ((b, b) :: ranges) rest
        | _ => items? fuel false ((b, b) :: ranges) rest

/-- Reads bounds in braces. -/
def bounds? : List UInt8 → Option (Nat × Option Nat × List UInt8)
  | b :: text =>
      if b != ofChar '\x7b' then none
      else
        match number? text with
        | none => none
        | some (least, rest) =>
            match rest with
            | [] => none
            | b :: rest =>
                if b = ofChar '\x7d' then some (least, some least, rest)
                else if b = ofChar ',' then
                  match rest with
                  | [] => none
                  | c :: after =>
                      if c = ofChar '\x7d' then some (least, none, after)
                      else
                        match number? rest with
                        | some (most, d :: after) =>
                            if d = ofChar '\x7d' && least ≤ most then some (least, some most, after)
                            else none
                        | _ => none
                else none
  | [] => none

def repetition? (text : List UInt8) : Option (Nat × Option Nat × List UInt8) :=
  match text with
  | [] => none
  | b :: rest =>
      if b = ofChar '*' then some (0, none, rest)
      else if b = ofChar '+' then some (1, none, rest)
      else if b = ofChar '?' then some (0, some 1, rest)
      else bounds? text

/-- Passes over the sign for reluctant repetition, which does not matter for a search. -/
def skipReluctant : List UInt8 → List UInt8
  | b :: rest => if b = ofChar '?' || b = ofChar '+' then rest else b :: rest
  | [] => []

/-- What a letter after a backslash means. -/
def escaped (b : UInt8) : Regex :=
  match classOf? b with
  | some ranges => .oneOf true ranges
  | none =>
      if b = ofChar 'b' then .wordEdge true
      else if b = ofChar 'B' then .wordEdge false
      else if b = ofChar 'A' then .textStart
      else if b = ofChar 'Z' then .textEnd true
      else if b = ofChar 'z' then .textEnd false
      else .oneOf true [(controlOf b, controlOf b)]

mutual

/-- Reads alternatives. The first argument bounds the depth. -/
def alternatives? : Nat → List UInt8 → Option (Regex × List UInt8)
  | 0, _ => none
  | fuel + 1, text => do
      let (first, rest) ← sequence? fuel .empty text
      match rest with
      | b :: after =>
          if b = ofChar '|' then
            let (second, rest) ← alternatives? fuel after
            return (.either first second, rest)
          else return (first, rest)
      | [] => return (first, [])

/-- Reads a sequence of items, given what has been read of it. -/
def sequence? : Nat → Regex → List UInt8 → Option (Regex × List UInt8)
  | 0, _, _ => none
  | _ + 1, before, [] => some (before, [])
  | fuel + 1, before, b :: rest =>
      if b = ofChar '|' || b = ofChar ')' then some (before, b :: rest)
      else do
        let (item, after) ← item? fuel b rest
        match repetition? after with
        | some (least, most, after) =>
            sequence? fuel (.seq before (.many item least most)) (skipReluctant after)
        | none => sequence? fuel (.seq before item) after

/-- Reads an item that begins with a byte. -/
def item? : Nat → UInt8 → List UInt8 → Option (Regex × List UInt8)
  | 0, _, _ => none
  | fuel + 1, b, rest =>
      if b = ofChar '(' then do
        let inner := match rest with
          | q :: colon :: more =>
              if q = ofChar '?' && colon = ofChar ':' then more else rest
          | _ => rest
        let (r, after) ← alternatives? fuel inner
        match after with
        | c :: after => if c = ofChar ')' then some (r, after) else none
        | [] => none
      else if b = ofChar '[' then
        let (inside, rest) := match rest with
          | c :: more => if c = ofChar '^' then (false, more) else (true, rest)
          | [] => (true, rest)
        (items? (rest.length + 1) true [] rest).map fun (ranges, after) =>
          (.oneOf inside ranges, after)
      else if b = ofChar '\\' then
        match rest with
        | [] => none
        | e :: after => some (escaped e, after)
      else if b = ofChar '*' || b = ofChar '+' || b = ofChar '?' then none
      else if b = ofChar '.' then some (.oneOf false [(10, 10)], rest)
      else if b = ofChar '^' then some (.textStart, rest)
      else if b = ofChar '$' then some (.textEnd true, rest)
      else some (.oneOf true [(b, b)], rest)

end

/-- Reads a regular expression. -/
def ofBytes? (text : List UInt8) : Option Regex :=
  match alternatives? (4 * text.length + 8) text with
  | some (r, []) => some r
  | _ => none

def isWordAt (text : Array UInt8) (i : Nat) : Bool := (text[i]?).any (inRanges wordBytes)

/-- The positions at which a match that begins at one of some positions can end, after at least and at
most so many repetitions of a step. The first argument bounds the repetitions. -/
def repeated (step : Nat → List Nat) : Nat → Nat → Option Nat → List Nat → List Nat → List Nat
  | 0, _, _, _, found => found
  | fuel + 1, least, most, current, found =>
      let found := if least = 0 then found ++ current.filter (!found.contains ·) else found
      if most = some 0 then found
      else
        let next := (current.flatMap step).eraseDups
        let next := if least = 0 then next.filter (!found.contains ·) else next
        if next.isEmpty then found
        else repeated step fuel (least - 1) (most.map (· - 1)) next found

/-- The positions at which a match that begins at a position can end. -/
def ends (text : Array UInt8) : Regex → Nat → List Nat
  | .empty, i => [i]
  | .oneOf inside ranges, i =>
      match text[i]? with
      | some b => if inRanges ranges b = inside then [i + 1] else []
      | none => []
  | .seq first second, i => ((ends text first i).flatMap (ends text second)).eraseDups
  | .either first second, i => (ends text first i ++ ends text second i).eraseDups
  | .many body least most, i =>
      repeated (ends text body) (text.size + least + 2) least most [i] []
  | .textStart, i => if i = 0 then [i] else []
  | .textEnd allowsLineFeed, i =>
      if i = text.size || (allowsLineFeed && i + 1 = text.size && text[i]? = some 10) then [i] else []
  | .wordEdge wanted, i =>
      let before := i != 0 && isWordAt text (i - 1)
      if (before != isWordAt text i) = wanted then [i] else []

/-- Whether there is a match somewhere in a text. -/
def isFound (r : Regex) (text : List UInt8) : Bool :=
  (List.range (text.length + 1)).any fun i => !(ends text.toArray r i).isEmpty

end Regex

end IssueTrace.Text
