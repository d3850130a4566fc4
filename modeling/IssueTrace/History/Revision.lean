import IssueTrace.History.Name
import IssueTrace.History.Store
import IssueTrace.Text.Regex

/-!
# Revisions

A revision names a commit: by an id or the beginning of one, by a reference, or by a way from another
commit, such as its second parent or the latest commit before it whose message holds some text. In
between it may stand for a directory or a file, but in the end a commit is wanted.
-/

namespace IssueTrace.History

/-- What a revision can stand for. -/
inductive Object where
  | commit (id : CommitId)
  /-- A note that is put to a commit. -/
  | tag (id : CommitId)
  | directory (snapshot : Snapshot)
  | file

inductive ObjectType where
  | commit
  | tag
  | directory
  | file

namespace ObjectType

def ofName? (name : String) : Option ObjectType :=
  if name = "commit" then some .commit
  else if name = "tree" then some .directory
  else if name = "blob" then some .file
  else if name = "tag" then some .tag
  else none

end ObjectType

namespace Object

def ofTarget : Target → Object
  | .commit id => .commit id
  | .tag id => .tag id

/-- Takes an object as one of a type: a tag leads to its commit, and a commit to its files. -/
def as (h : History) : Object → ObjectType → Except GitFault Object
  | .commit id, .commit => .ok (.commit id)
  | .commit id, .directory =>
      match h.graph.find? id with
      | some r => .ok (.directory r.snapshot)
      | none => .error .notFound
  | .commit _, _ => .error .invalidSpec
  | .tag id, .tag => .ok (.tag id)
  | .tag id, .directory =>
      match h.graph.find? id with
      | some r => .ok (.directory r.snapshot)
      | none => .error .notFound
  | .tag id, .commit => .ok (.commit id)
  | .tag _, .file => .error .invalidSpec
  | .directory s, .directory => .ok (.directory s)
  | .file, .file => .ok .file
  | _, _ => .error .invalidSpec

def asCommit (h : History) (o : Object) : Except GitFault CommitId :=
  match o.as h .commit with
  | .ok (.commit id) => .ok id
  | .ok _ => .error .invalidSpec
  | .error fault => .error fault

end Object

/-- What the first fitting name refers to. -/
def named? (h : History) (name : String) : Except GitFault (String × Target) :=
  let names := if name.isEmpty then ["HEAD"] else candidateNames name
  let found := (names.filter isName).findSome? fun full => (h.reference? full).map (full, ·)
  match found with
  | some (full, target) => .ok (if full = "HEAD" then h.head else full, target)
  | none => .error (if (names.getLast?).any isName then .notFound else .invalidSpec)

/-- The commit whose id begins with some digits. Fewer than four digits do not tell. -/
def abbreviated (h : History) (digits : List Char) : Except GitFault Object :=
  if digits.isEmpty || !digits.all CommitId.isHexDigit then .error .notFound
  else if digits.length < 4 then .error .ambiguous
  else
    let start := digits.map Char.toLower
    match h.graph.records.filter fun r => start.isPrefixOf r.id.hex.toList with
    | [] => .error .notFound
    | [r] => .ok (.commit r.id)
    | _ => .error .ambiguous

/-- Splits a text behind the first occurrence of a hyphen and a `g`. -/
def splitDescription : List Char → Option (List Char × List Char)
  | '-' :: 'g' :: rest => some ([], rest)
  | c :: rest => (splitDescription rest).map fun (before, after) => (c :: before, after)
  | [] => none

/-- The commit of a description: a name, a count and an abbreviated id. -/
def described (h : History) (text : List Char) : Except GitFault Object :=
  match splitDescription text with
  | some (before, digits) =>
      let count := before.reverse.takeWhile Char.isDigit
      match before.reverse.drop count.length with
      | '-' :: _ :: _ => if count.isEmpty then .error .notFound else abbreviated h digits
      | _ => .error .notFound
  | none => .error .notFound

/-- What a name without operators stands for. -/
def lookUp (h : History) (name : List Char) : Except GitFault Object :=
  let isFullId := name.length = 40 && name.all CommitId.isHexDigit
  match if isFullId then abbreviated h name else .error .notFound with
  | .ok o => .ok o
  | .error _ =>
      match named? h (String.ofList name) with
      | .ok (_, target) => .ok (Object.ofTarget target)
      | .error .notFound =>
          let short := if name.length < 40 then abbreviated h name else .error .notFound
          match short with
          | .error .notFound => described h name
          | result => result
      | .error fault => .error fault

/-- The part of a revision that has been read: a name, the last letter first, or what was found. -/
inductive Base where
  | name (letters : List Char)
  | object (o : Object)

/-- What the part read so far stands for. -/
def Base.load (h : History) : Base → Except GitFault Object
  | .name [] => .error .invalidSpec
  | .name letters => lookUp h letters.reverse
  | .object o => .ok o

/-- Splits a text behind a closing brace. -/
def splitBrace : List Char → Option (List Char × List Char)
  | [] => none
  | c :: rest =>
      if c = '\x7d' then some ([], rest)
      else (splitBrace rest).map fun (inside, after) => (c :: inside, after)

/-- Reads the number at the head of a text; one that does not fit 31 bits is refused. -/
def count? (text : List Char) : Except GitFault (Option Nat × List Char) :=
  match text.takeWhile Char.isDigit with
  | [] => .ok (none, text)
  | digits =>
      let n := digits.foldl (fun n c => 10 * n + (c.toNat - '0'.toNat)) 0
      if n < 0x80000000 then .ok (some n, text.drop digits.length) else .error .invalidSpec

/-- Reads the generations behind a tilde, which may be repeated. The first argument bounds the
repetitions. -/
def generations? : Nat → Nat → List Char → Except GitFault (Nat × List Char)
  | 0, n, text => .ok (n, text)
  | fuel + 1, n, text =>
      match text with
      | '~' :: rest => generations? fuel (n + 1) rest
      | _ => do
          let (count, rest) ← count? text
          match count with
          | some k =>
              let n := n + k - 1
              match rest with
              | '~' :: after => generations? fuel (n + 1) after
              | _ => return (n, rest)
          | none => return (n, rest)

/-- A parent by its number, counted from one; zero is the commit itself. -/
def parent (h : History) (id : CommitId) : Nat → Except GitFault CommitId
  | 0 => .ok id
  | n + 1 =>
      match (h.graph.parents id)[n]? with
      | some p => .ok p
      | none => .error .notFound

/-- The commit so many generations back, always by the first parent. -/
def ancestor (h : History) (id : CommitId) : Nat → Except GitFault CommitId
  | 0 => .ok id
  | n + 1 => do ancestor h (← parent h id 1) n

/-- The latest commit among those that some descend from whose message matches an expression. -/
def searchMessages (h : History) (starts : List CommitId) (expression : List Char) :
    Except GitFault Object :=
  if expression.isEmpty then .error .invalidSpec
  else
    match Text.Regex.ofBytes? (Text.encode (String.ofList expression)) with
    | none => .error .invalidSpec
    | some r =>
        let matching := (h.graph.log starts).find? fun id =>
          match h.graph.find? id with
          | some record => r.isFound ((record.message.dropWhile (· = 10)).takeWhile (· != 0))
          | none => false
        match matching with
        | some id => .ok (.commit id)
        | none => .error .notFound

/-- What a caret and braces make of an object. -/
def caretBraces (h : History) (o : Object) (inside : List Char) : Except GitFault Object :=
  match inside with
  | [] => match o with
      | .tag id => .ok (.commit id)
      | o => .ok o
  | '/' :: expression => do searchMessages h [← o.asCommit h] expression
  | _ =>
      match ObjectType.ofName? (String.ofList inside) with
      | some type => o.as h type
      | none => .error .invalidSpec

def below (h : History) (o : Object) (path : String) : Except GitFault Object := do
  match ← o.as h .directory with
  | .directory s =>
      if path.isEmpty then return .directory s
      match s.find? path with
      | some (.leaf (.file _ _)) => return .file
      | some (.directory entries) => return .directory ⟨entries⟩
      | _ => throw .notFound
  | _ => throw .invalidSpec

/-- Words that name a time. -/
def timeWords : List String :=
  ["jan", "feb", "mar", "apr", "may", "jun", "jul", "aug", "sep", "oct", "nov", "dec", "yesterday",
    "noon", "midnight", "tea", "pm", "am", "never", "now", "one", "two", "three", "four", "five",
    "six", "seven", "eight", "nine", "ten", "last"]

def isTime (text : List Char) : Bool :=
  text.any Char.isDigit
    || timeWords.any fun w => w.toList.isPrefixOf (text.map Char.toLower)

/-- Reads a whole number with an optional sign. -/
def signed? (text : List Char) : Option Int :=
  let (negative, digits) := match text with
    | '-' :: rest => (true, rest)
    | '+' :: rest => (false, rest)
    | _ => (false, text)
  if digits.isEmpty || !digits.all Char.isDigit then none
  else
    let n : Nat := digits.foldl (fun n c => 10 * n + (c.toNat - '0'.toNat)) 0
    if n < 0x80000000 then some (if negative then -n else n) else none

/-- What an at sign and braces make of a name: an earlier value of a reference, or the branch it
follows. Earlier values are not kept, and no branch follows another one. -/
def atBraces (h : History) (name inside : List Char) : Except GitFault Object := do
  match signed? inside with
  | some n =>
      if inside.head? = some '-' && n = 0 then throw .invalidSpec
      else if n < 0 then throw (if name.isEmpty then .notFound else .invalidSpec)
      else
        let (_, target) ← named? h (String.ofList name)
        if n = 0 then return .ofTarget target else throw .notFound
  | none =>
      if inside.head? = some '-' then throw .invalidSpec
      else if inside = "u".toList || inside = "upstream".toList then
        let (full, _) ← named? h (String.ofList name)
        throw (if "refs/heads/".toList.isPrefixOf full.toList then .notFound else .invalidSpec)
      else if isTime inside then
        let _ ← named? h (String.ofList name)
        throw .notFound
      else throw .invalidSpec

/-- Finds what a revision stands for, given what has been read of it. The first argument bounds the
number of steps. -/
def evaluate (h : History) : Nat → Base → List Char → Except GitFault Object
  | 0, base, _ => base.load h
  | _ + 1, base, [] => base.load h
  | fuel + 1, base, c :: rest =>
      if c = '^' then do
        let o ← base.load h
        match rest with
        | d :: inside =>
            if d = '\x7b' then
              match splitBrace inside with
              | some (inside, after) => evaluate h fuel (.object (← caretBraces h o inside)) after
              | none => throw .invalidSpec
            else
              let (n, after) ← count? rest
              evaluate h fuel (.object (.commit (← parent h (← o.asCommit h) (n.getD 1)))) after
        | [] => evaluate h fuel (.object (.commit (← parent h (← o.asCommit h) 1))) []
      else if c = '~' then do
        let (n, after) ← generations? (rest.length + 1) 1 rest
        let o ← base.load h
        evaluate h fuel (.object (.commit (← ancestor h (← o.asCommit h) n))) after
      else if c = ':' then
        match base with
        | .name [] =>
            match rest with
            | '/' :: expression =>
                searchMessages h (h.references.map fun (_, target) => target.id) expression
            | _ => .error (.other "unimplemented")
        | base => do below h (← base.load h) (String.ofList rest)
      else
        match base with
        | .object _ => .error .invalidSpec
        | .name letters =>
            match c, rest with
            | '@', '\x7b' :: inside =>
                match splitBrace inside with
                | some (inside, after) => do
                    evaluate h fuel (.object (← atBraces h letters.reverse inside)) after
                | none => .error .invalidSpec
            | '@', [] =>
                if letters.isEmpty then lookUp h "HEAD".toList
                else evaluate h fuel (.name (c :: letters)) rest
            | _, _ => evaluate h fuel (.name (c :: letters)) rest

def resolve (h : History) (revision : String) : Except GitFault CommitId := do
  let o ← evaluate h (revision.length + 1) (.name []) revision.toList
  o.asCommit h

/-- The commits of the window between two revisions, the latest first. -/
def window (h : History) (start stop : String) : Except Failure (List Commit) := do
  let start ← (resolve h start).mapError .git
  let stop ← (resolve h stop).mapError .git
  (h.graph.window start stop).mapM h.toRepository.commit

end IssueTrace.History
