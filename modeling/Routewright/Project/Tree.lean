/-
The files of a project: what stands at each place, and the directory that relative paths start from.
A place is given by its components from the top, which is a directory. Actions on a tree keep the
tree they have come to when they fail.
-/
import Routewright.FilePath

namespace Routewright

/-- What stands at a place. -/
inductive Entry where
  | file (content : ByteArray)
  | directory

def Entry.isFile : Entry → Bool
  | file _ => true
  | directory => false

def Entry.isDirectory : Entry → Bool
  | file _ => false
  | directory => true

/-- Why files cannot be used as asked. The last two are found before the file system is asked. -/
inductive FileError where
  | missing
  | busy
  | taken
  | notDirectory
  | isDirectory
  | nameTooLong
  | nullInPath
  | surrogateInPath
deriving DecidableEq

namespace FileError

/-- Whether the file system itself says so. -/
def isReported : FileError → Bool
  | nullInPath | surrogateInPath => false
  | _ => true

def message : FileError → Text
  | missing => "[Errno 2] No such file or directory"
  | busy => "[Errno 16] Device or resource busy"
  | taken => "[Errno 17] File exists"
  | notDirectory => "[Errno 20] Not a directory"
  | isDirectory => "[Errno 21] Is a directory"
  | nameTooLong => "[Errno 36] File name too long"
  | nullInPath => "embedded null byte"
  | surrogateInPath => "surrogates not allowed"

end FileError

/-! ## Limits -/

/-- A file name has at most this many bytes. -/
def maxNameBytes : Nat := 255

/-- A path has fewer bytes than this. -/
def pathByteLimit : Nat := 4096

/-- Whether a component of a path is too long to be a file name. -/
def isLongName (name : Text) : Bool :=
  match name.nameBytes? with
  | some bytes => maxNameBytes < bytes.length
  | none => false

/-- What is wrong with a path by itself. -/
def FilePath.fault? (p : FilePath) : Option FileError :=
  match p.toText.nameBytes? with
  | none => some .surrogateInPath
  | some bytes =>
    if bytes.contains 0 then some .nullInPath
    else if pathByteLimit ≤ bytes.length then some .nameTooLong
    else none

structure Tree where
  cwd : FilePath
  entries : List (List Text × Entry)

namespace Tree

/-! ## Places -/

/-- What stands at a place. -/
def entry? (t : Tree) (place : List Text) : Option Entry :=
  if place = [] then some .directory else t.entries.lookup place

/-- Puts an entry into a list of entries: one at the same place keeps its position. -/
def putEntry (place : List Text) (e : Entry) :
    List (List Text × Entry) → List (List Text × Entry)
  | [] => [(place, e)]
  | old :: rest => if old.1 = place then (place, e) :: rest else old :: putEntry place e rest

def put (t : Tree) (place : List Text) (e : Entry) : Tree :=
  { t with entries := putEntry place e t.entries }

/-- A tree without a place and everything below it. -/
def erase (t : Tree) (place : List Text) : Tree :=
  { t with entries := t.entries.filter fun e => !place.isPrefixOf e.1 }

/-- The names of what stands directly in a directory, in order. -/
def names (t : Tree) (place : List Text) : List Text :=
  (t.entries.filterMap fun e =>
    match place.isPrefixOf? e.1 with
    | some [name] => some name
    | _ => none).mergeSort Text.le

/-- The ways from a place to everything below it, in order. -/
def waysBelow (t : Tree) (place : List Text) : List (List Text) :=
  (t.entries.filterMap fun e =>
    match place.isPrefixOf? e.1 with
    | some (name :: rest) => some (name :: rest)
    | _ => none).mergeSort FilePath.partsLe

/-! ## Paths -/

/-- The place that components lead to from a place. Each of them is looked for in a directory; `..`
leads up. -/
def follow (t : Tree) : List Text → List Text → Except FileError (List Text)
  | place, [] => .ok place
  | place, part :: rest =>
    match t.entry? place with
    | some .directory =>
      if part = FilePath.above then follow t place.dropLast rest
      else if isLongName part then .error .nameTooLong
      else follow t (place ++ [part.listedName]) rest
    | some (.file _) => .error .notDirectory
    | none => .error .missing

/-- The place of a path. -/
def locate (t : Tree) (p : FilePath) : Except FileError (List Text) :=
  match p.fault? with
  | some e => .error e
  | none => t.follow [] (t.cwd.append p).parts

/-- What stands at a path. -/
def find (t : Tree) (p : FilePath) : Except FileError Entry :=
  match t.locate p with
  | .error e => .error e
  | .ok place =>
    match t.entry? place with
    | some e => .ok e
    | none => .error .missing

/-- Whether an entry of a kind stands at a path. There is none where the path does not lead anywhere;
only of a path that is too long it cannot be said. -/
def asks (t : Tree) (kind : Entry → Bool) (p : FilePath) : Except FileError Bool :=
  match t.find p with
  | .ok e => .ok (kind e)
  | .error .nameTooLong => .error .nameTooLong
  | .error _ => .ok false

def isFile (t : Tree) (p : FilePath) : Except FileError Bool := t.asks Entry.isFile p

def isDirectory (t : Tree) (p : FilePath) : Except FileError Bool := t.asks Entry.isDirectory p

/-- The content of a file. -/
def read (t : Tree) (p : FilePath) : Except FileError ByteArray :=
  match t.find p with
  | .ok (.file content) => .ok content
  | .ok .directory => .error .isDirectory
  | .error e => .error e

end Tree

/-! ## Actions -/

/-- An action on the files of a tree. -/
abbrev Files := EStateM FileError Tree

namespace Files

/-- Makes a directory where nothing stands. -/
def makeDirectory (p : FilePath) : Files Unit := fun t =>
  match t.locate p with
  | .error e => .error e t
  | .ok place =>
    match t.entry? place with
    | some _ => .error .taken t
    | none => .ok () (t.put place .directory)

/-- Makes a directory if it is not there yet. -/
def ensureDirectory (p : FilePath) : Files Unit := fun t =>
  match makeDirectory p t with
  | .ok _ t => .ok () t
  | .error e t =>
    match e, t.isDirectory p with
    | .missing, _ => .error .missing t
    | _, .ok true => .ok () t
    | e, _ => .error e t

/-- Makes a directory and what is missing above it. -/
def makeDirectories (p : FilePath) : Files Unit := fun t =>
  match ensureDirectory p t with
  | .error .missing t =>
    if p.parts = [] then .error .missing t
    else
      match makeDirectories p.parent t with
      | .ok _ t => ensureDirectory p t
      | .error e t => .error e t
  | r => r
termination_by p.parts.length
decreasing_by
  simp only [FilePath.parent, List.length_dropLast]
  have := List.length_pos_iff.mpr ‹_›
  omega

/-- Whether a path ends in a directory's name for itself or for the one above it. -/
def endsAtDirectory (p : FilePath) : Bool := p.parts.isEmpty || p.name == FilePath.above

/-- Puts a file into a directory that is there, in place of a file of that name. -/
def putFile (p : FilePath) (content : ByteArray) : Files Unit := fun t =>
  match t.locate p with
  | .error e => .error e t
  | .ok place =>
    if endsAtDirectory p then .error .busy t
    else
      match t.entry? place with
      | some .directory => .error .isDirectory t
      | _ => .ok () (t.put place (.file content))

/-- The path that a file is written to before it is moved to its own. -/
def draftPath (p : FilePath) : FilePath := p.parent.append ⟨0, ["." ++ p.name ++ ".xxxxxxxx.tmp"]⟩

/-- Whether a draft can be written next to a path; it is not kept. -/
def openDraft (p : FilePath) : Files Unit := fun t =>
  match t.locate (draftPath p) with
  | .error e => .error e t
  | .ok _ => .ok () t

/-- Removes the path and everything below it. -/
def remove (p : FilePath) : Files Unit := fun t =>
  match t.locate p with
  | .error e => .error e t
  | .ok place => .ok () (t.erase place)

end Files

end Routewright
