import IssueTrace.History.Directory
import IssueTrace.History.Name
import IssueTrace.History.Objects.Pack
import IssueTrace.History.Store

/-!
# Loading a history

Brings a history together from the files of a repository. The files are asked for by their names below
the directory of the repository, in whatever way they can be read. A history is made of the commits
that the wanted names lead to, and of all that these descend from.
-/

namespace IssueTrace.History.Objects

/-- What is known while a history is loaded. -/
structure Loading where
  packs : List Pack := []
  directories : Std.HashMap CommitId (List (List UInt8 × StoredNode)) := ∅
  files : Std.HashMap CommitId (List UInt8) := ∅

variable {m : Type → Type} [Monad m]

/-- Reads a file of the repository, if it is there. -/
abbrev Fetch (m : Type → Type) := String → m (Option ByteArray)

abbrev Load (m : Type → Type) := StateT Loading m

def fetchText (fetch : Fetch m) (name : String) : m (Option String) := do
  return (← fetch name).map fun bytes => textOf bytes.toList

/-- The lines of a text without the space around them. -/
def linesOf (text : String) : List String :=
  (Text.lines text.toList).map fun line => String.ofList (Text.trimEnd line)

def loadPacks (fetch : Fetch m) : m (List Pack) := do
  let list := ((← fetchText fetch "objects/info/packs").map linesOf).getD []
  let names := list.filterMap fun line =>
    match line.toList with
    | 'P' :: ' ' :: name => some (String.ofList (name.take (name.length - 5)))
    | _ => none
  let packs ← names.mapM fun name => do
    match ← fetch ("objects/pack/" ++ name ++ ".idx"), ← fetch ("objects/pack/" ++ name ++ ".pack") with
    | some index, some data => return [(⟨offsetsOf index, data⟩ : Pack)]
    | _, _ => return []
  return packs.flatten

/-- The object of an id, in a pack or on its own. -/
def loadObject (fetch : Fetch m) (id : CommitId) : Load m (Option Stored) := do
  match (← get).packs.findSome? (·.find? id) with
  | some o => return some o
  | none =>
      let digits := id.hex.toList
      let name := "objects/" ++ String.ofList (digits.take 2) ++ "/" ++ String.ofList (digits.drop 2)
      return (← fetch name).bind Stored.ofLoose?

def loadFile (fetch : Fetch m) (id : CommitId) : Load m (List UInt8) := do
  match (← get).files[id]? with
  | some bytes => return bytes
  | none =>
      let bytes := ((← loadObject fetch id).map (·.bytes.toList)).getD []
      modify fun s => { s with files := s.files.insert id bytes }
      return bytes

/-- How a file is to be taken, by the mode of its entry. -/
def fileMode (mode : String) : FileMode :=
  if mode = "120000" then .link
  else if mode = "100755" then .executable
  else if mode = "100644" then .plain
  else .other mode

/-- The entries of a directory, up to a depth. -/
def loadDirectory (fetch : Fetch m) : Nat → CommitId → Load m (List (List UInt8 × StoredNode))
  | 0, _ => return []
  | depth + 1, id => do
      match (← get).directories[id]? with
      | some entries => return entries
      | none =>
          let bytes := ((← loadObject fetch id).map (·.bytes)).getD .empty
          let entries ← (directoryEntries bytes).mapM fun e => do
            if e.mode = "40000" then
              let below ← loadDirectory fetch depth e.id
              return (e.name, .directory below)
            else if e.mode = "160000" then return (e.name, .leaf (.subproject e.id))
            else
              let content ← loadFile fetch e.id
              return (e.name, .leaf (.file (fileMode e.mode) content))
          modify fun s => { s with directories := s.directories.insert id entries }
          return entries

/-- How many directories may lie one in the other. -/
def maxDepth : Nat := 1000

/-- What a full name refers to, by way of up to a number of other names. -/
def loadTarget (fetch : Fetch m) (packed : List (String × CommitId)) :
    Nat → String → m (Option CommitId)
  | 0, _ => return none
  | fuel + 1, name => do
      match ← fetchText fetch name with
      | some text =>
          match text.toList with
          | 'r' :: 'e' :: 'f' :: ':' :: ' ' :: other =>
              loadTarget fetch packed fuel (String.ofList (Text.trimEnd other))
          | line => return some (idOf (String.ofList line))
      | none => return packed.lookup name

/-- The names that the repository keeps in one file. -/
def loadPackedNames (fetch : Fetch m) : m (List (String × CommitId)) := do
  let lines := ((← fetchText fetch "packed-refs").map linesOf).getD []
  return lines.filterMap fun line =>
    let (id, name) := line.toList.span (· != ' ')
    if id.length = 40 && !name.isEmpty then some (String.ofList name.tail, ⟨String.ofList id⟩)
    else none

/-- Loads commits on an agenda and all that they descend from; a commit comes into the graph after its
parents. The flag of an entry tells that its parents have been put on the agenda. -/
def loadCommits (fetch : Fetch m) :
    Nat → List (CommitId × Bool) → Graph → Load m Graph
  | 0, _, g => return g
  | _, [], g => return g
  | fuel + 1, (id, opened) :: agenda, g => do
      if (g.find? id).isSome then loadCommits fetch fuel agenda g
      else
        match ← loadObject fetch id with
        | some ⟨.commit, bytes⟩ =>
            let c := CommitRecord.ofBytes bytes
            if opened then
              let entries ← loadDirectory fetch maxDepth c.root
              let r : Record := ⟨id, c.parents, c.time, c.message, .ofStored entries⟩
              loadCommits fetch fuel agenda ((g.add? r).getD g)
            else
              let parents := c.parents.map (·, false)
              loadCommits fetch fuel (parents ++ (id, true) :: agenda) g
        | _ => loadCommits fetch fuel agenda g

/-- What an id stands for in the end, and whether notes were put to it. -/
def loadNoted (fetch : Fetch m) : Nat → CommitId → Load m Target
  | 0, id => return .commit id
  | fuel + 1, id => do
      match ← loadObject fetch id with
      | some ⟨.note, bytes⟩ => return .tag (← loadNoted fetch fuel (notedObject bytes)).id
      | _ => return .commit id

/-- The words of a revision that may be names: what stands before the first operator. -/
def wordOf (revision : String) : String :=
  String.ofList (revision.toList.takeWhile fun c => c != '~' && c != '^' && c != ':' && c != '@')

/-- The most steps that are taken on the way through the commits. -/
def maxSteps : Nat := 100000000

/-- Loads what the head and the given revisions need. There is no history without a head. -/
def loadHistory (fetch : Fetch m) (revisions : List String) : m (Option History) := do
  match ← fetchText fetch "HEAD" with
  | none => return none
  | some text =>
      let head := match text.toList with
        | 'r' :: 'e' :: 'f' :: ':' :: ' ' :: name => String.ofList (Text.trimEnd name)
        | _ => "HEAD"
      let packed ← loadPackedNames fetch
      let words := revisions.map wordOf
      let names := (head :: packed.map (·.1) ++ words.flatMap candidateNames).eraseDups
      let found ← names.mapM fun name => do
        if isName name then return (← loadTarget fetch packed 8 name).map (name, ·) else return none
      let ids := (words.filterMap fun w => if w.length = 40 then CommitId.ofText? w else none)
      let packs ← loadPacks fetch
      let load : Load m History := do
        let references ← (found.filterMap id).mapM fun (name, id) => do
          return (name, ← loadNoted fetch 8 id)
        let roots := ids ++ references.map (·.2.id)
        let graph ← loadCommits fetch maxSteps (roots.map (·, false)) .empty
        return { graph, references, head }
      let (history, _) ← load.run { packs }
      return some history

end IssueTrace.History.Objects
