import IssueTrace.Change.Hunk
import IssueTrace.Config.VersionRange

/-!
# Arguments of the command line

Options have a long name and may have a short one. A value stands in the next argument, or in the same
one behind an equals sign; behind a short name it may also follow at once. An option may be given once
only, apart from the windows of history.
-/

namespace IssueTrace

/-- What the command line asks for. -/
structure Arguments where
  config : Option String := none
  repo : Option String := none
  output : Option String := none
  ranges : List VersionRange := []
  contextLines : Option Nat := none
  json : Bool := false
  quiet : Bool := false
  deriving DecidableEq, Repr, Inhabited

/-- What becomes of a command line. -/
inductive Request where
  | run (arguments : Arguments)
  | help
  | version
  /-- The command line is refused. -/
  | misuse
  deriving DecidableEq, Repr, Inhabited

namespace Arguments

inductive Flag where
  | config
  | repo
  | output
  | range
  | contextLines
  | json
  | quiet
  | help
  | version
  deriving DecidableEq, Repr, Inhabited

namespace Flag

def ofLongName? (name : String) : Option Flag :=
  [("config", config), ("repo", repo), ("output", output), ("range", range),
    ("context-lines", contextLines), ("json", json), ("quiet", quiet), ("help", help),
    ("version", version)].lookup name

def ofShortName? (c : Char) : Option Flag :=
  [('c', config), ('r', repo), ('o', output), ('q', quiet), ('h', help), ('V', version)].lookup c

def takesValue : Flag → Bool
  | config | repo | output | range | contextLines => true
  | json | quiet | help | version => false

end Flag

/-- The arguments with a value that was given for an option, unless it is refused. -/
def setValue? (a : Arguments) (flag : Flag) (value : String) : Option Arguments :=
  match flag with
  | .config =>
      if a.config.isSome || value.isEmpty then none else some { a with config := some value }
  | .repo => if a.repo.isSome || value.isEmpty then none else some { a with repo := some value }
  | .output =>
      if a.output.isSome || value.isEmpty then none else some { a with output := some value }
  | .range =>
      match VersionRange.ofText value with
      | .ok range => some { a with ranges := a.ranges ++ [range] }
      | .error _ => none
  | .contextLines =>
      if a.contextLines.isSome then none
      else (Hunk.number? value.toList).map fun n => { a with contextLines := some n }
  | .json | .quiet | .help | .version => none

/-- The arguments with an option that takes no value, unless it was given before. -/
def setFlag? (a : Arguments) : Flag → Option Arguments
  | .json => if a.json then none else some { a with json := true }
  | .quiet => if a.quiet then none else some { a with quiet := true }
  | _ => none

/-- Whether an argument can be a value: it does not look like an option. -/
def isValue (s : String) : Bool := s = "-" || s.toList.head? != some '-'

/-- Goes through the short options of one argument, and gives an option that still needs a value. -/
def readShort : List Char → Arguments → Except Request (Arguments × Option Flag)
  | [], a => .ok (a, none)
  | c :: rest, a =>
      match Flag.ofShortName? c with
      | none => .error .misuse
      | some .help => .error .help
      | some .version => .error .version
      | some flag =>
          if flag.takesValue then
            match rest with
            | [] => .ok (a, some flag)
            | _ =>
                let value := if rest.head? = some '=' then rest.tail else rest
                match a.setValue? flag (String.ofList value) with
                | some a => .ok (a, none)
                | none => .error .misuse
          else
            match a.setFlag? flag with
            | some a => readShort rest a
            | none => .error .misuse

/-- Reads a long option, given its name and the value behind an equals sign. -/
def readLong (name : String) (value : Option String) (a : Arguments) :
    Except Request (Arguments × Option Flag) :=
  match Flag.ofLongName? name, value with
  | none, _ => .error .misuse
  | some flag, some value =>
      match a.setValue? flag value with
      | some a => .ok (a, none)
      | none => .error .misuse
  | some .help, none => .error .help
  | some .version, none => .error .version
  | some flag, none =>
      if flag.takesValue then .ok (a, some flag)
      else
        match a.setFlag? flag with
        | some a => .ok (a, none)
        | none => .error .misuse

/-- Splits an argument at its first equals sign. -/
def splitEquals (s : List Char) : String × Option String :=
  let (name, rest) := s.span (· != '=')
  (String.ofList name, if rest.isEmpty then none else some (String.ofList rest.tail))

def readOption (s : String) (a : Arguments) : Except Request (Arguments × Option Flag) :=
  match s.toList with
  | '-' :: '-' :: name =>
      let (name, value) := splitEquals name
      readLong name value a
  | '-' :: letters => readShort letters a
  | _ => .error .misuse

/-- Reads the arguments from left to right, given the option that waits for its value. -/
def readFrom (a : Arguments) : Option Flag → List String → Request
  | none, [] => .run a
  | some _, [] => .misuse
  | some flag, value :: rest =>
      if isValue value then
        match a.setValue? flag value with
        | some a => readFrom a none rest
        | none => .misuse
      else .misuse
  | none, s :: rest =>
      if s = "--" then (if rest.isEmpty then .run a else .misuse)
      else if s = "-" then .misuse
      else
        match readOption s a with
        | .ok (a, waiting) => readFrom a waiting rest
        | .error request => request

end Arguments

def Request.ofArguments (arguments : List String) : Request :=
  Arguments.readFrom {} none arguments

end IssueTrace
