import IssueTrace.Failure
import IssueTrace.Storage.Path
import IssueTrace.Text.Utf8

/-!
# File systems

A tree of directories and files, and what reading and writing in it does or refuses. A place is the
list of names from the root; the root is always a directory. A path is looked up name by name, and
each name but the last must be a directory.
-/

namespace IssueTrace

/-- What a file holds: a text, or bytes that are no text. -/
inductive Content where
  | text (s : String)
  | binary (bytes : List UInt8)
  deriving DecidableEq, Repr, Inhabited

namespace Content

def ofBytes (bytes : List UInt8) : Content :=
  match Text.decode? bytes with
  | some s => .text s
  | none => .binary bytes

def text? : Content → Option String
  | .text s => some s
  | .binary _ => none

/-- The content as text, with replacement characters where it is none. -/
def display : Content → String
  | .text s => s
  | .binary bytes => Text.decodeLossy bytes

/-- The content with a text after it. -/
def append : Content → String → Content
  | .text s, t => .text (s ++ t)
  | .binary bytes, t => ofBytes (bytes ++ Text.encode t)

end Content

/-- What can stand at a place. -/
inductive Entry where
  | file (content : Content)
  | directory
  /-- A file that may be read but not written. -/
  | readOnly (content : Content)
  /-- A file that may be neither read nor written. -/
  | sealed (content : Content)
  deriving DecidableEq, Repr, Inhabited

/-- What may be read at a place. -/
def Entry.readable? : Entry → Option Content
  | .file content => some content
  | .readOnly content => some content
  | .directory => none
  | .sealed _ => none

/-- A file system, with the directory at which relative paths begin. -/
structure FileSystem where
  /-- The places in use, each once. The root is not among them. -/
  entries : List (List String × Entry) := []
  workDir : List String := []
  deriving DecidableEq, Repr, Inhabited

namespace FileSystem

/-- What stands at a place. -/
def get? (fs : FileSystem) : List String → Option Entry
  | [] => some .directory
  | place => fs.entries.lookup place

/-- The file system with something else at a place. -/
def put (fs : FileSystem) (place : List String) (entry : Entry) : FileSystem :=
  { fs with entries := (place, entry) :: fs.entries.filter (·.1 != place) }

/-- How many bytes a name may have. -/
def maxName : Nat := 255

/-- How many bytes a path may have. -/
def maxPath : Nat := 4095

/-- Where a path leads. -/
inductive Target where
  | existing (place : List String) (entry : Entry)
  /-- Nothing is there, but something could be put there. -/
  | vacant (place : List String)
  deriving DecidableEq, Repr

/-- Looks one name up in a directory. -/
def child (fs : FileSystem) (place : List String) (name : String) : Except IoFault Target :=
  match fs.get? place with
  | none => .error .notFound
  | some (.file _) => .error .notADirectory
  | some (.readOnly _) => .error .notADirectory
  | some (.sealed _) => .error .notADirectory
  | some .directory =>
      if name = "." then .ok (.existing place .directory)
      else if name = ".." then .ok (.existing place.dropLast .directory)
      else if maxName < name.utf8ByteSize then .error .invalidFilename
      else
        match fs.get? (place ++ [name]) with
        | some entry => .ok (.existing (place ++ [name]) entry)
        | none => .ok (.vacant (place ++ [name]))

/-- Looks up names one after another. -/
def walk (fs : FileSystem) : List String → List String → Except IoFault Target
  | place, [] =>
      match fs.get? place with
      | some entry => .ok (.existing place entry)
      | none => .ok (.vacant place)
  | place, name :: rest => do
      match ← fs.child place name, rest with
      | .existing next _, _ => fs.walk next rest
      | .vacant next, [] => return .vacant next
      | .vacant _, _ => throw .notFound

def locate (fs : FileSystem) (path : String) : Except IoFault Target :=
  if path.toList.contains '\x00' then .error .invalidInput
  else if path.isEmpty then .error .notFound
  else if maxPath < path.utf8ByteSize then .error .invalidFilename
  else fs.walk (if Path.isAbsolute path then [] else fs.workDir) (Path.names path)

def isDirectory (fs : FileSystem) (path : String) : Bool :=
  match fs.locate path with
  | .ok (.existing _ .directory) => true
  | _ => false

def readText (fs : FileSystem) (path : String) : Except IoFault String := do
  match ← fs.locate path with
  | .vacant _ => throw .notFound
  | .existing _ .directory => throw .isADirectory
  | .existing _ entry =>
      if Path.endsInSlash path then throw .notADirectory
      else
        match entry.readable?.map Content.text? with
        | some (some s) => return s
        | some none => throw .invalidData
        | none => throw .denied

/-- The place of a file that is to be written, with what it holds. -/
def openForWriting (fs : FileSystem) (path : String) :
    Except IoFault (List String × Option Content) := do
  match ← fs.locate path with
  | .existing _ .directory => throw .isADirectory
  | .existing place (.file content) =>
      if Path.endsInSlash path then throw .notADirectory else return (place, some content)
  | .existing _ (.readOnly _) => throw (if Path.endsInSlash path then .notADirectory else .denied)
  | .existing _ (.sealed _) => throw (if Path.endsInSlash path then .notADirectory else .denied)
  | .vacant place =>
      if Path.endsInSlash path then throw .isADirectory else return (place, none)

/-- Writes a file, in place of what it held. -/
def write (fs : FileSystem) (path text : String) : Except IoFault FileSystem := do
  let (place, _) ← fs.openForWriting path
  return fs.put place (.file (.text text))

/-- Writes at the end of a file, which is made if there is none. -/
def append (fs : FileSystem) (path text : String) : Except IoFault FileSystem := do
  let (place, before) ← fs.openForWriting path
  return fs.put place (.file ((before.getD (.text "")).append text))

/-- Makes a directory. The directory above it must be there. -/
def makeDirectory (fs : FileSystem) (path : String) : Except IoFault FileSystem := do
  match ← fs.locate path with
  | .existing _ _ => throw .alreadyExists
  | .vacant place => return fs.put place .directory

/-- Makes a directory unless it is there, given what to do when the directory above it is missing. -/
def ensure (fs : FileSystem) (path : String)
    (missing : Unit → Except IoFault Unit × FileSystem) : Except IoFault Unit × FileSystem :=
  match fs.makeDirectory path with
  | .ok fs => (.ok (), fs)
  | .error .notFound => missing ()
  | .error fault => if fs.isDirectory path then (.ok (), fs) else (.error fault, fs)

/-- Makes a directory and those above it that are missing, up to the given number of them. -/
def makeAll : Nat → FileSystem → String → Except IoFault Unit × FileSystem
  | 0, fs, _ => (.error (.other "failed to create whole tree"), fs)
  | depth + 1, fs, path =>
      if path.isEmpty then (.ok (), fs)
      else
        fs.ensure path fun _ =>
          match Path.parent? path with
          | none => (.error (.other "failed to create whole tree"), fs)
          | some above =>
              match makeAll depth fs above with
              | (.error fault, fs) => (.error fault, fs)
              | (.ok (), fs) =>
                  fs.ensure path fun _ =>
                    if fs.isDirectory path then (.ok (), fs) else (.error .notFound, fs)

/-- Makes a directory and those above it that are missing. What has been made stays also when it
fails. -/
def makeDirectories (fs : FileSystem) (path : String) : Except IoFault Unit × FileSystem :=
  makeAll (path.length + 2) fs path

/-- The files below a place that may be read, by the names that lead to them from there. -/
def filesBelow (fs : FileSystem) (place : List String) : List (List String × Content) :=
  fs.entries.filterMap fun (names, entry) =>
    if place.isPrefixOf names then entry.readable?.map (names.drop place.length, ·) else none

end FileSystem

end IssueTrace
