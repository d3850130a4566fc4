import IssueTrace.Change.Attribution
import IssueTrace.Storage.FileSystem
import IssueTrace.Text.Blank

/-!
# Goldset files

The classes and methods of each issue, in two files of one name each per line. What is stored for an
issue is only ever added to.
-/

namespace IssueTrace

structure GoldsetStore where
  classDir : String
  methodDir : String
  deriving DecidableEq, Repr, Inhabited

/-- How many names a step added. -/
structure Added where
  classes : Nat
  methods : Nat
  deriving DecidableEq, Repr, Inhabited

namespace GoldsetStore

/-- The store below a directory. -/
def below (root : String) : GoldsetStore := ⟨Path.join root "class", Path.join root "method"⟩

/-- Opens the store below a directory, and makes its directories. -/
def openAt (fs : FileSystem) (root : String) : Except IoFault GoldsetStore × FileSystem :=
  let store := below root
  match fs.makeDirectories store.classDir with
  | (.error fault, fs) => (.error fault, fs)
  | (.ok (), fs) =>
      match fs.makeDirectories store.methodDir with
      | (.error fault, fs) => (.error fault, fs)
      | (.ok (), fs) => (.ok store, fs)

def classPath (s : GoldsetStore) (issue : String) : String := Path.join s.classDir (issue ++ ".txt")

def methodPath (s : GoldsetStore) (issue : String) : String :=
  Path.join s.methodDir (issue ++ ".txt")

/-- The names in the text of a file: its lines without the blanks around them, empty ones left
out. -/
def namesIn (text : String) : List String :=
  (((Text.lines text.toList).map Text.trim).filter (!·.isEmpty)).map String.ofList

/-- The names in a file; there are none where there is no file. -/
def readNames (fs : FileSystem) (path : String) : Except IoFault (List String) :=
  match fs.readText path with
  | .ok text => .ok (namesIn text)
  | .error .notFound => .ok []
  | .error fault => .error fault

def linesOf (names : List String) : String := String.join (names.map (· ++ "\n"))

/-- Adds the names that a file does not hold yet, and counts them. Nothing is written where there is
nothing to add. -/
def appendNew (fs : FileSystem) (path : String) (names : NameSet) :
    Except IoFault (Nat × FileSystem) := do
  if names.isEmpty then return (0, fs)
  let known ← readNames fs path
  let fresh := names.toList.filter (!known.contains ·)
  if fresh.isEmpty then return (0, fs)
  return (fresh.length, ← fs.append path (linesOf fresh))

/-- Adds the entities of an issue: the classes first, then the methods. The classes stay when the
methods cannot be written. -/
def persist (s : GoldsetStore) (fs : FileSystem) (issue : String) (e : Entities) :
    Except IoFault Added × FileSystem :=
  match appendNew fs (s.classPath issue) e.classes with
  | .error fault => (.error fault, fs)
  | .ok (classes, fs) =>
      match appendNew fs (s.methodPath issue) e.methods with
      | .error fault => (.error fault, fs)
      | .ok (methods, fs) => (.ok ⟨classes, methods⟩, fs)

def load (s : GoldsetStore) (fs : FileSystem) (issue : String) : Except IoFault Entities := do
  let classes ← readNames fs (s.classPath issue)
  let methods ← readNames fs (s.methodPath issue)
  return ⟨.ofList classes, .ofList methods⟩

end GoldsetStore

end IssueTrace
