import IssueTrace.Toml.Scalar
import IssueTrace.Toml.Value

/-!
# TOML documents

A document is a sequence of lines that define keys and open tables. A key is defined once. A table
is opened once by a header, which may come after the headers of tables inside it; a table that
dotted keys have built is not opened by a header, and one that a header has opened is not extended by
dotted keys from outside.
-/

namespace IssueTrace.Toml

/-- How a table came to be. -/
inductive Origin where
  /-- Opened by a header of its own, or as an element of an array of tables. -/
  | header
  /-- Named in the header of a table inside it. -/
  | implied
  /-- Built by dotted keys. -/
  | dotted
  deriving DecidableEq

/-- What a key stands for while a document is read. -/
inductive Node where
  | value (v : Value)
  | table (origin : Origin) (entries : List (String × Node))
  /-- An array of tables; the last one is open. -/
  | tables (all : List (List (String × Node)))
  deriving Inhabited

abbrev Entries := List (String × Node)

mutual

def Node.toValue : Node → Value
  | .value v => v
  | .table _ entries => .table (toValues entries)
  | .tables all => .array (toTables all)

def toValues : List (String × Node) → List (String × Value)
  | [] => []
  | (k, n) :: rest => (k, n.toValue) :: toValues rest

def toTables : List (List (String × Node)) → List Value
  | [] => []
  | t :: rest => .table (toValues t) :: toTables rest

end

/-- Puts something else in place of what a key stands for. -/
def replaceEntry (key : String) (n : Node) (entries : Entries) : Entries :=
  entries.map fun (k, old) => if k = key then (k, n) else (k, old)

/-- Changes the table that a path leads to, making the tables on the way that are missing. -/
def descend (byDots : Bool) (change : Origin → Entries → Option Entries) :
    List String → Origin → Entries → Option Entries
  | [], origin, entries => change origin entries
  | key :: path, _, entries =>
      match entries.lookup key with
      | none => do
          let origin := if byDots then .dotted else .implied
          let inner ← descend byDots change path origin []
          return entries ++ [(key, .table origin inner)]
      | some (.value _) => none
      | some (.table origin inner) =>
          if byDots && origin = .header then none
          else do
            let inner ← descend byDots change path origin inner
            return replaceEntry key (.table origin inner) entries
      | some (.tables all) => do
          let inner ← descend byDots change path .header (← all.getLast?)
          return replaceEntry key (.tables (all.dropLast ++ [inner])) entries

def define (path : List String) (key : String) (v : Value) (origin : Origin) (entries : Entries) :
    Option Entries :=
  descend true
    (fun origin entries =>
      if decide (origin = .dotted) == path.isEmpty || (entries.lookup key).isSome then none
      else some (entries ++ [(key, .value v)]))
    path origin entries

def openTable (path : List String) (key : String) (entries : Entries) : Option Entries :=
  descend false
    (fun _ entries =>
      match entries.lookup key with
      | none => some (entries ++ [(key, .table .header [])])
      | some (.table .implied inner) => some (replaceEntry key (.table .header inner) entries)
      | some _ => none)
    path .header entries

/-- Opens a further table of an array of tables. -/
def openElement (path : List String) (key : String) (entries : Entries) : Option Entries :=
  descend false
    (fun _ entries =>
      match entries.lookup key with
      | none => some (entries ++ [(key, .tables [[]])])
      | some (.tables all) => some (replaceEntry key (.tables (all ++ [[]])) entries)
      | some _ => none)
    path .header entries

/-- How deep arrays and tables may lie in each other, and how many keys a path may have. -/
def maxDepth : Nat := 80

def isBareKey (c : Char) : Bool := c.isAlphanum || c == '_' || c == '-'

/-- A key that is not dotted. -/
def simpleKey? : Reader String := fun text =>
  match text with
  | '"' :: _ | '\'' :: _ => do
      let (key, rest) ← lineString? text
      return (String.ofList key, rest)
  | _ =>
      match text.span isBareKey with
      | ([], _) => none
      | (key, rest) => some (String.ofList key, rest)

/-- The keys between dots, with the space around them. -/
def keyPath? : Nat → Reader (List String)
  | 0, _ => none
  | fuel + 1, text => do
      let (key, rest) ← simpleKey? (skipSpace text)
      match skipSpace rest with
      | '.' :: rest => do
          let (path, rest) ← keyPath? fuel rest
          return (key :: path, rest)
      | rest => return ([key], rest)

/-- A dotted key, as the path to its table and the last key. -/
def key? : Reader (List String × String) := fun text => do
  let (keys, rest) ← keyPath? maxDepth text
  return ((keys.dropLast, ← keys.getLast?), rest)

/-- The text after space, comments and line ends. -/
def skipGaps : Nat → List Char → List Char
  | 0, text => text
  | fuel + 1, text =>
      let text := skipComment (skipSpace text)
      match afterLineEnd? text with
      | some rest => skipGaps fuel rest
      | none => text

/-- A number or a date. -/
def number? : Reader Value := fun text =>
  ((date? text).map fun (_, rest) => (Value.date, rest)).orElse fun _ =>
    ((float? text).map fun (_, rest) => (Value.float, rest)).orElse fun _ =>
      (integer? text).map fun (n, rest) => (Value.integer n, rest)

/-- A value that holds no others. -/
def scalarValue? : Reader Value := fun text =>
  match text with
  | '"' :: _ | '\'' :: _ => (string? text).map fun (s, rest) => (.string (String.ofList s), rest)
  | 't' :: 'r' :: 'u' :: 'e' :: rest => some (.boolean true, rest)
  | 'f' :: 'a' :: 'l' :: 's' :: 'e' :: rest => some (.boolean false, rest)
  | _ => number? text

mutual

/-- A value, with how many brackets are open around it. -/
def value? : Nat → Nat → Reader Value
  | 0, _, _ => none
  | fuel + 1, depth, text =>
      match text with
      | '[' :: rest =>
          if maxDepth ≤ depth + 1 then none
          else (items? fuel (depth + 1) [] rest).map fun (vs, rest) => (.array vs, rest)
      | '\x7b' :: rest =>
          if maxDepth ≤ depth + 1 then none
          else
            match skipSpace rest with
            | '\x7d' :: rest => some (.table [], rest)
            | rest => (fields? fuel (depth + 1) [] rest).map fun (es, rest) =>
                (.table (toValues es), rest)
      | _ => scalarValue? text

/-- The rest of an array, given the items read. -/
def items? : Nat → Nat → List Value → Reader (List Value)
  | 0, _, _, _ => none
  | fuel + 1, depth, read, text =>
      match skipGaps (text.length + 1) text with
      | ']' :: rest => some (read.reverse, rest)
      | text => do
          let (v, rest) ← value? fuel depth text
          match skipGaps (rest.length + 1) rest with
          | ',' :: rest => items? fuel depth (v :: read) rest
          | ']' :: rest => some ((v :: read).reverse, rest)
          | _ => none

/-- The rest of a table in braces, given the entries read. -/
def fields? : Nat → Nat → Entries → Reader Entries
  | 0, _, _, _ => none
  | fuel + 1, depth, read, text => do
      let ((path, key), rest) ← key? text
      let rest ← after? '=' rest
      let (v, rest) ← value? fuel depth (skipSpace rest)
      let read ← define path key v .header read
      match skipSpace rest with
      | ',' :: rest => fields? fuel depth read rest
      | '\x7d' :: rest => some (read, rest)
      | _ => none

end

/-- A document read so far: its entries, and the header of the open table. -/
structure Progress where
  entries : Entries := []
  header : List String := []

/-- Takes one line: a definition, a header, or nothing but space and a comment. -/
def line? (p : Progress) (text : List Char) : Option (Progress × List Char) :=
  match skipSpace text with
  | '[' :: '[' :: rest => do
      let ((path, key), rest) ← key? rest
      let rest ← after? ']' (← after? ']' rest)
      return (⟨← openElement path key p.entries, path ++ [key]⟩, rest)
  | '[' :: rest => do
      let ((path, key), rest) ← key? rest
      let rest ← after? ']' rest
      return (⟨← openTable path key p.entries, path ++ [key]⟩, rest)
  | [] => some (p, [])
  | '#' :: rest => some (p, '#' :: rest)
  | '\n' :: rest => some (p, '\n' :: rest)
  | '\r' :: rest => some (p, '\r' :: rest)
  | text => do
      let ((path, key), rest) ← key? text
      let rest ← after? '=' rest
      let (v, rest) ← value? (2 * rest.length + 2) 0 (skipSpace rest)
      let entries ← descend false (define path key v) p.header .header p.entries
      return ({ p with entries }, rest)

/-- Takes all lines. -/
def lines? : Nat → Progress → List Char → Option Progress
  | 0, _, _ => none
  | fuel + 1, p, text => do
      let (p, rest) ← line? p text
      match skipComment (skipSpace rest) with
      | [] => return p
      | rest => lines? fuel p (← afterLineEnd? rest)

/-- Reads a document. A byte order mark at its head does not count. -/
def read? (text : String) : Option (List (String × Value)) :=
  let chars := text.toList
  let chars := if chars.head? == some '\uFEFF' then chars.tail else chars
  (lines? (chars.length + 1) {} chars).map fun p => toValues p.entries

end IssueTrace.Toml
