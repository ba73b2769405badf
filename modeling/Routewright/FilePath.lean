/-
Paths of files. A path is the number of slashes it starts with (none, one, or exactly two) and its
components; empty components and `.` are dropped when it is read, `..` is kept until it is resolved.
-/
import Routewright.Text.FileName

namespace Routewright

structure FilePath where
  slashes : Nat
  parts : List Text
deriving DecidableEq, Inhabited

namespace FilePath

/-- The component that stands for the directory above. -/
def above : Text := ".."

/-- The components of a text. -/
def components (t : Text) : List Text :=
  (Text.splitOn '/' t).filter fun part => !part.isEmpty && part != Text.ofString "."

/-- The path that a text writes. -/
def ofText (t : Text) : FilePath :=
  let leading := (t.takeWhile (· == CodePoint.ofChar '/')).length
  ⟨if leading = 2 then 2 else min leading 1, components t⟩

/-- The text of a path; that of an empty relative path is `.`. -/
def toText (p : FilePath) : Text :=
  if p.slashes = 0 ∧ p.parts = [] then "."
  else List.replicate p.slashes (CodePoint.ofChar '/') ++ Text.join "/" p.parts

def isAbsolute (p : FilePath) : Bool := p.slashes ≠ 0

/-- A path below another one; an absolute path stays as it is. -/
def append (p q : FilePath) : FilePath :=
  if q.isAbsolute then q else ⟨p.slashes, p.parts ++ q.parts⟩

/-- The path of a text below a path. -/
def child (p : FilePath) (t : Text) : FilePath := p.append (ofText t)

def parent (p : FilePath) : FilePath := ⟨p.slashes, p.parts.dropLast⟩

/-- The last component. -/
def name (p : FilePath) : Text := p.parts.getLastD []

/-- The part of a name from its last dot on, if the dot neither starts nor ends the name. -/
def suffixOf (name : Text) : Text :=
  let after := (name.reverse.takeWhile (· ≠ CodePoint.ofChar '.')).reverse
  if after.length + 1 < name.length ∧ after ≠ [] then name.drop (name.length - after.length - 1)
  else []

def suffix (p : FilePath) : Text := suffixOf p.name

/-- The components with each `..` taking back the one before it; at the top it is dropped. -/
def resolveParts : List Text → List Text → List Text
  | done, [] => done.reverse
  | done, part :: rest =>
    if part = above then resolveParts done.tail rest else resolveParts (part :: done) rest

/-- The path seen from a directory, without `..`; it starts with a single slash. -/
def resolve (cwd p : FilePath) : FilePath :=
  let q := cwd.append p
  ⟨min q.slashes 1, resolveParts [] q.parts⟩

/-- Whether a file can have the path: it has bytes, and none of them is null. -/
def isNameable (p : FilePath) : Bool :=
  match p.toText.nameBytes? with
  | some bytes => !bytes.contains 0
  | none => false

/-- The path relative to a directory that it lies below. -/
def below? (p directory : FilePath) : Option FilePath :=
  if p.slashes = directory.slashes then
    (directory.parts.isPrefixOf? p.parts).map fun rest => ⟨0, rest⟩
  else none

/-- What is left of two lists after their common start. -/
def dropCommon : List Text → List Text → List Text × List Text
  | a :: s, b :: t => if a = b then dropCommon s t else (a :: s, b :: t)
  | s, t => (s, t)

/-- The way from a directory to a path: up to what they share, then down. -/
def relativeTo (cwd p directory : FilePath) : FilePath :=
  let (up, down) := dropCommon (resolve cwd directory).parts (resolve cwd p).parts
  ⟨0, List.replicate up.length above ++ down⟩

/-- Order of paths, component by component. -/
def partsLe : List Text → List Text → Bool
  | [], _ => true
  | _ :: _, [] => false
  | a :: s, b :: t => if a = b then partsLe s t else Text.le a b

end FilePath

end Routewright
