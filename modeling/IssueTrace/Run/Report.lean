import IssueTrace.Diagnostics

/-!
# Reports

What a run tells about each window of history: in a line of text, or as a record in a JSON array.
-/

namespace IssueTrace

/-- What was found in a window of history, and how much was written. -/
structure WindowReport where
  label : String
  start : String
  stop : String
  commits : Nat
  issues : Nat
  queriesWritten : Nat
  goldsetsWritten : Nat
  diagnostics : Diagnostics
  deriving DecidableEq, Repr, Inhabited

/-- The counts with their names. -/
def Diagnostics.fields (d : Diagnostics) : List (String × Nat) :=
  [("files_resolved", d.filesResolved), ("dialect_fallbacks", d.dialectFallbacks),
    ("parse_failures", d.parseFailures), ("missing_content", d.missingContent),
    ("malformed_hunks", d.malformedHunks), ("unpackaged_files", d.unpackagedFiles),
    ("rootless_commits", d.rootlessCommits), ("other_errors", d.otherErrors)]

namespace WindowReport

def line (r : WindowReport) : String :=
  s!"{r.label}: {r.commits} commits, {r.issues} issues, {r.goldsetsWritten} goldsets, "
    ++ s!"{r.diagnostics.warnings} warnings"

inductive Value where
  | text (s : String)
  | number (n : Nat)
  | record (fields : List (String × Nat))

def fields (r : WindowReport) : List (String × Value) :=
  [("label", .text r.label), ("from", .text r.start), ("to", .text r.stop),
    ("commits", .number r.commits), ("issues", .number r.issues),
    ("queries_written", .number r.queriesWritten), ("goldsets_written", .number r.goldsetsWritten),
    ("diagnostics", .record r.diagnostics.fields)]

/-- The hexadecimal digits of a control character, with zeros in front. -/
def fourDigits (n : Nat) : List Char :=
  let digits := Nat.toDigits 16 n
  List.replicate (4 - digits.length) '0' ++ digits

/-- A character inside a JSON string. -/
def jsonChar (c : Char) : List Char :=
  if c = '"' then ['\\', '"']
  else if c = '\\' then ['\\', '\\']
  else if c = '\n' then ['\\', 'n']
  else if c = '\r' then ['\\', 'r']
  else if c = '\t' then ['\\', 't']
  else if c = '\x08' then ['\\', 'b']
  else if c = '\x0c' then ['\\', 'f']
  else if c.toNat < 32 then '\\' :: 'u' :: fourDigits c.toNat
  else [c]

def jsonString (s : String) : String := "\"" ++ String.ofList (s.toList.flatMap jsonChar) ++ "\""

/-- A JSON object or array over several lines, each part behind an indent. -/
def jsonBlock (opening closing indent : String) (parts : List String) : String :=
  if parts.isEmpty then opening ++ closing
  else
    opening ++ "\n" ++ ",\n".intercalate (parts.map (indent ++ "  " ++ ·)) ++ "\n" ++ indent ++ closing

def jsonValue (indent : String) : Value → String
  | .text s => jsonString s
  | .number n => toString n
  | .record fields =>
      jsonBlock "\x7b" "\x7d" indent (fields.map fun (name, n) => jsonString name ++ ": " ++ toString n)

def json (indent : String) (r : WindowReport) : String :=
  jsonBlock "\x7b" "\x7d" indent
    (r.fields.map fun (name, v) => jsonString name ++ ": " ++ jsonValue (indent ++ "  ") v)

def jsonAll (reports : List WindowReport) : String := jsonBlock "[" "]" "" (reports.map (json "  "))

end WindowReport

end IssueTrace
