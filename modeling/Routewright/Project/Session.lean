/-
Runs on a project. A run works on the tree of the project and a log of messages; when it stops
early, both stay as they are by then.
-/
import Routewright.Console
import Routewright.Failure
import Routewright.Text.Utf8

namespace Routewright

structure Session where
  tree : Tree
  log : List Message

/-- A run that yields a value or stops. -/
abbrev Run := EStateM Stop Session

namespace Run

variable {α ε : Type}

/-- The session of a tree before a run. -/
def start (t : Tree) : Session := ⟨t, []⟩

def say (level : Level) (t : Text) : Run Unit :=
  modify fun s => { s with log := s.log ++ [⟨level, t⟩] }

def tree : Run Tree := do
  return (← get).tree

/-- Stops with a failure. -/
def fail (f : Failure) : Run α := throw (.failure f)

def ofExcept (stop : ε → Stop) : Except ε α → Run α
  | .ok a => pure a
  | .error e => throw (stop e)

/-- What an error of files stops a run with: a breakdown, if the file system was never asked. -/
def fileStop (stop : FileError → Stop) (e : FileError) : Stop :=
  if e.isReported then stop e else .breakdown (.file e)

/-- A question about the files of the project. -/
def ask (stop : FileError → Stop) (question : Tree → Except FileError α) : Run α := do
  ofExcept (fileStop stop) (question (← tree))

/-- An action on the files of the project. -/
def files (stop : FileError → Stop) (act : Files α) : Run α := fun s =>
  match act s.tree with
  | .ok a t => .ok a { s with tree := t }
  | .error e t => .error (fileStop stop e) { s with tree := t }

/-- Stops at every error of files. -/
def unforeseen (e : FileError) : Stop := .breakdown (.file e)

/-- Writes a text into a file, and makes the directories above it. The text goes to a draft first. -/
def write (stop : FileError → Stop) (p : FilePath) (t : Text) : Run Unit := do
  files stop (Files.makeDirectories p.parent)
  files stop (Files.openDraft p)
  match t.encode? with
  | some content => files stop (Files.putFile p content)
  | none => throw (.breakdown .surrogate)

/-- A run whose failures are handed on as values. -/
def attempt (r : Run α) : Run (Except Failure α) := fun s =>
  match r s with
  | .ok a s => .ok (.ok a) s
  | .error (.failure f) s => .ok (.error f) s
  | .error (.breakdown b) s => .error (.breakdown b) s

end Run

end Routewright
