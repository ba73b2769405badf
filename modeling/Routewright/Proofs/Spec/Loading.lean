/-
How loading a spec ends. A file that cannot be read and a document that is no spec are failures, which
a reader of specs is told of. Three things are none: bytes that are not UTF-8, a JSON text that is
refused for its size, and a YAML text that is refused for anything but being malformed.
-/
import Routewright.Proofs.Document.Limits
import Routewright.Spec.File

namespace Routewright.Spec

open Document

/-! ## Foreseen ends -/

/-- An end of loading a file that is foreseen: with a spec, with a document that is none, or with a
file that cannot be read. -/
inductive IsForeseen (file : FilePath) : Except Stop Spec → Prop
  | spec (s : Spec) : IsForeseen file (.ok s)
  | document (e : DocumentError) : IsForeseen file (.error (.failure (.document e)))
  | unread (e : FileError) : IsForeseen file (.error (.failure (.file (.readSpec file) e)))

/-- An end of loading that is foreseen if something holds, and is a breakdown otherwise. -/
structure EndsBy (file : FilePath) (p : Prop) (x : Except Stop Spec) : Prop where
  foreseen : p → IsForeseen file x
  breaks : ¬p → ∃ d, x = .error (.breakdown d)

section Ends

variable {file : FilePath} {p q : Prop} {x : Except Stop Spec}

theorem EndsBy.isForeseen_iff (h : EndsBy file p x) : IsForeseen file x ↔ p := by
  refine ⟨fun hforeseen => by_contra fun hp => ?_, h.foreseen⟩
  obtain ⟨d, rfl⟩ := h.breaks hp
  cases hforeseen

theorem EndsBy.congr (h : EndsBy file p x) (hpq : p ↔ q) : EndsBy file q x :=
  ⟨fun hq => h.foreseen (hpq.2 hq), fun hq => h.breaks fun hp => hq (hpq.1 hp)⟩

theorem IsForeseen.endsBy (h : IsForeseen file x) (hp : p) : EndsBy file p x :=
  ⟨fun _ => h, fun hnot => absurd hp hnot⟩

theorem endsBy_breakdown {d : Breakdown} (hp : ¬p) : EndsBy file p (.error (.breakdown d)) :=
  ⟨fun h => absurd h hp, fun _ => ⟨d, rfl⟩⟩

end Ends

/-- A text that its reader does not come to an end with. -/
def Overwhelms (file : FilePath) (t : Text) : Prop :=
  if isYaml file then ∃ r, Yaml.read t = .error r ∧ r ≠ .malformed else ∃ r, Json.Exceeds t r

/-- Content that is UTF-8, and blank or a text that its reader comes to an end with. -/
def IsTractable (file : FilePath) (content : ByteArray) : Prop :=
  ∃ t, Text.decode? content = some t ∧
    (t.uniformLines.strip.isEmpty ∨ ¬Overwhelms file t.uniformLines)

/-! ## Values -/

/-- A reading of a value that fails only as a document that is none. -/
def FailsAsDocument (x : Except Stop Value) : Prop :=
  ∀ f, x = .error (.failure f) → ∃ e, f = .document e

/-- A value is checked for a spec, and that fails only as a document that is none. -/
theorem endsBy_bind {file : FilePath} {source : Text} {x : Except Stop Value}
    (hx : FailsAsDocument x) : EndsBy file (¬∃ d, x = .error (.breakdown d))
      (x.bind fun v => (ofValue source v).mapError fun e => .failure (.document e)) := by
  match x with
  | .ok v =>
    refine IsForeseen.endsBy ?_ (by simp)
    change IsForeseen file ((ofValue source v).mapError _)
    cases ofValue source v with
    | ok s => exact .spec s
    | error e => exact .document e
  | .error (.failure f) =>
    obtain ⟨e, rfl⟩ := hx f rfl
    exact IsForeseen.endsBy (.document e) (by simp)
  | .error (.breakdown d) => exact endsBy_breakdown fun h => h ⟨d, rfl⟩

theorem failsAsDocument_yamlValue (source t : Text) : FailsAsDocument (yamlValue source t) := by
  intro f h
  unfold yamlValue at h
  split at h <;> cases h
  exact ⟨_, rfl⟩

theorem failsAsDocument_jsonValue (source t : Text) : FailsAsDocument (jsonValue source t) := by
  intro f h
  unfold jsonValue at h
  split at h <;> cases h
  exact ⟨_, rfl⟩

theorem yamlValue_breaks_iff {source t : Text} : (∃ d, yamlValue source t = .error (.breakdown d)) ↔
    ∃ r, Yaml.read t = .error r ∧ r ≠ .malformed := by
  unfold yamlValue
  split <;> rename_i hread
  · simp [hread]
  · simp [hread]
  · rename_i r hr
    exact iff_of_true ⟨_, rfl⟩ ⟨r, hread, hr⟩

theorem jsonValue_breaks_iff {source t : Text} : (∃ d, jsonValue source t = .error (.breakdown d)) ↔
    ∃ r, Json.Exceeds t r := by
  simp only [Json.exceeds_iff]
  unfold jsonValue
  split <;> rename_i hread <;> simp [hread, Json.Refusal.isLimit]

/-! ## Files -/

theorem endsBy_ofText (file : FilePath) (t : Text) :
    EndsBy file (t.strip.isEmpty ∨ ¬Overwhelms file t) (ofText file t) := by
  unfold ofText
  dsimp only
  split
  · rename_i hblank
    exact IsForeseen.endsBy (.document _) (.inl hblank)
  · rename_i hblank
    rw [or_iff_right hblank, Overwhelms]
    split
    · exact (endsBy_bind (failsAsDocument_yamlValue _ _)).congr (not_congr yamlValue_breaks_iff)
    · exact (endsBy_bind (failsAsDocument_jsonValue _ _)).congr (not_congr jsonValue_breaks_iff)

theorem endsBy_ofContent (file : FilePath) (content : ByteArray) :
    EndsBy file (IsTractable file content) (ofContent file content) := by
  unfold ofContent IsTractable
  split
  · rename_i t hdecode
    exact (endsBy_ofText file t.uniformLines).congr (by simp [hdecode])
  · rename_i hdecode
    exact endsBy_breakdown (by simp [hdecode])

/-- Loading ends as foreseen if the file is read and its content is tractable, or if the file system
says why it is not read; it breaks down otherwise. -/
theorem endsBy_load (t : Tree) (file : FilePath) : EndsBy file
    (match t.read file with
      | .ok content => IsTractable file content
      | .error e => e.isReported)
    (load t file) := by
  unfold load
  cases t.read file with
  | ok content => exact endsBy_ofContent file content
  | error e =>
    change EndsBy file (e.isReported = true) (.error (readStop file e))
    unfold readStop
    split
    · rename_i he
      exact IsForeseen.endsBy (.unread e) he
    · rename_i he
      exact endsBy_breakdown he

end Routewright.Spec
