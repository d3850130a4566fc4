import IssueTrace.History.Graph
import IssueTrace.Storage.Inflate

/-!
# Stored objects

The objects that a repository is made of: commits, directories, files and notes put to an object.
Each is a sequence of bytes behind its type, and is known by an id.
-/

namespace IssueTrace.History.Objects

inductive StoredType where
  | commit
  | directory
  | file
  | note
  deriving DecidableEq, Repr, Inhabited

def StoredType.ofName? (name : String) : Option StoredType :=
  [("commit", commit), ("tree", directory), ("blob", file), ("tag", note)].lookup name

structure Stored where
  type : StoredType
  bytes : ByteArray
  deriving Inhabited

def hexDigit (n : Nat) : Char := Nat.digitChar n

/-- The id whose bytes stand at an offset. -/
def idAt (bytes : ByteArray) (offset : Nat) : CommitId :=
  ⟨String.ofList ((bytes.extract offset (offset + 20)).toList.flatMap fun b =>
    [hexDigit (b.toNat / 16), hexDigit (b.toNat % 16)])⟩

def textOf (bytes : List UInt8) : String := Text.decodeLossy bytes

/-- An object on its own: its type, its size and its bytes, compressed. -/
def Stored.ofLoose? (data : ByteArray) : Option Stored := do
  let bytes ← Inflate.inflate? data 0
  let head := bytes.toList.takeWhile (· != 0)
  let type ← StoredType.ofName? (textOf (head.takeWhile (· != 32)))
  return ⟨type, bytes.extract (head.length + 1) bytes.size⟩

/-- Cuts bytes into the lines up to the first empty one, and what follows that. -/
def headerLines : Nat → List UInt8 → List (List UInt8) × List UInt8
  | 0, bytes => ([], bytes)
  | _, [] => ([], [])
  | fuel + 1, bytes =>
      let (line, rest) := bytes.span (· != 10)
      if line.isEmpty then ([], rest.drop 1)
      else
        let (lines, message) := headerLines fuel (rest.drop 1)
        (line :: lines, message)

def headerValues (name : String) (lines : List (List UInt8)) : List String :=
  let start := Text.encode (name ++ " ")
  (lines.filter start.isPrefixOf).map fun line => textOf (line.drop start.length)

def idOf (value : String) : CommitId := ⟨String.ofList (value.toList.take 40)⟩

/-- The seconds in the line of who made a commit and when: the last word but one. -/
def secondsOf (value : String) : Int :=
  let words := (value.toList.splitBy fun a b => (a == ' ') == (b == ' ')).map String.ofList
  match words.reverse with
  | _ :: _ :: seconds :: _ => seconds.toInt?.getD 0
  | _ => 0

/-- What the record of a commit says, apart from its files. -/
structure CommitRecord where
  root : CommitId
  parents : List CommitId
  time : Int
  message : List UInt8
  deriving Inhabited

def CommitRecord.ofBytes (bytes : ByteArray) : CommitRecord :=
  let (lines, message) := headerLines bytes.size bytes.toList
  { root := ((headerValues "tree" lines).map idOf).headD default
    parents := (headerValues "parent" lines).map idOf
    time := ((headerValues "committer" lines).map secondsOf).headD 0
    message }

/-- The object that a note is put to. -/
def notedObject (bytes : ByteArray) : CommitId :=
  ((headerValues "object" (headerLines bytes.size bytes.toList).1).map idOf).headD default

/-- An entry of a directory: how its object is to be taken, the bytes of its name, and its id. -/
structure DirectoryEntry where
  mode : String
  name : List UInt8
  id : CommitId
  deriving Inhabited

/-- The entries of a directory from an offset on. -/
def entriesFrom (bytes : ByteArray) : Nat → List UInt8 → List DirectoryEntry
  | 0, _ => []
  | fuel + 1, rest =>
      let (head, after) := rest.span (· != 0)
      let (mode, name) := head.span (· != 32)
      let id := (after.drop 1).take 20
      if id.length < 20 then []
      else
        ⟨textOf mode, name.drop 1, idAt ⟨id.toArray⟩ 0⟩
          :: entriesFrom bytes fuel (after.drop 21)

def directoryEntries (bytes : ByteArray) : List DirectoryEntry :=
  entriesFrom bytes bytes.size bytes.toList

end IssueTrace.History.Objects
