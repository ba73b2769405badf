/-
Batches that go on after failures. A document whose loading ends as foreseen, and which becomes
nothing, is told, and the next one is attempted; one whose loading does not ends the batch. Neither
changes a file. What a document that becomes something holds can end the batch in two ways only.
-/
import Routewright.Proofs.Module.Rendered
import Routewright.Proofs.Project.Failures
import Routewright.Proofs.Spec.Loading

namespace Routewright.Batch

open Routewright.Tree
open Run

variable {c : Config} {b : Batch} {file : FilePath} {p : Product} {s s' : Session}

/-! ## One document -/

/-- A batch passes over a document: it counts it as failed and goes on with the others, the files as
they were. -/
def PassesOver (c : Config) (b : Batch) (file : FilePath) (s : Session) : Prop :=
  ∃ s', s'.tree = s.tree ∧ ∀ rest, run c b (file :: rest) s =
    run c { b with failed := b.failed ++ [file.name] } rest s'

/-- A batch breaks down at a document, whatever comes after it, the files as they were. -/
def BreaksAt (c : Config) (b : Batch) (file : FilePath) (s : Session) : Prop :=
  ∃ d s', s'.tree = s.tree ∧ ∀ rest, run c b (file :: rest) s = .error (.breakdown d) s'

/-- A document that breaks down ends the batch, also one that goes on after failures. -/
theorem step_of_breakdown {d : Breakdown} (h : writeDocument c file
    (said s .progress ("Processing " ++ file.name)) = .error (.breakdown d) s') :
    b.step c file s = .error (.breakdown d) s' := by
  unfold step
  rw [bind_of_ok (say_eq _ _ _), bind_of_error (attempt_of_breakdown h)]

theorem breaksAt_of_writeDocument {d : Breakdown} (h : writeDocument c file
    (said s .progress ("Processing " ++ file.name)) = .error (.breakdown d) s')
    (htree : s'.tree = s.tree) : BreaksAt c b file s :=
  ⟨d, s', htree, fun rest => bind_of_error (step_of_breakdown h) fun b => run c b rest⟩

theorem passesOver_of_error {f : Failure} (hslow : c.failFast = false)
    (h : Product.ofDocument c s.tree file = .error (.failure f)) : PassesOver c b file s := by
  obtain ⟨s', hwrite, htree⟩ := writeDocument_of_error
    (s := said s .progress ("Processing " ++ file.name)) h
  have hstep := step_of_failure (b := b) hwrite
  rw [if_neg (by simp [hslow])] at hstep
  exact ⟨said s' .error (file.name ++ ": " ++ f.message), htree, fun rest => run_of_step hstep⟩

theorem breaksAt_of_error {d : Breakdown}
    (h : Product.ofDocument c s.tree file = .error (.breakdown d)) : BreaksAt c b file s := by
  obtain ⟨s', hwrite, htree⟩ := writeDocument_of_error
    (s := said s .progress ("Processing " ++ file.name)) h
  exact breaksAt_of_writeDocument hwrite htree

/-- A document becomes nothing in a way that is not foreseen only if its loading ends so. -/
theorem exists_failure_of_isForeseen {e : Stop} (h : Product.ofDocument c s.tree file = .error e)
    (hforeseen : Spec.IsForeseen file (Spec.load s.tree file)) : ∃ f, e = .failure f := by
  rcases Product.ofDocument_error h with hload | ⟨spec, fault, -, hrender, rfl⟩
  · rw [hload] at hforeseen
    cases hforeseen <;> exact ⟨_, rfl⟩
  · obtain ⟨mismatch, rfl⟩ := Module.render_error hrender
    exact ⟨_, rfl⟩

/-- An integer that has too many digits to be shown ends the batch before anything is written. -/
theorem breaksAt_of_longInteger (h : Product.ofDocument c s.tree file = .ok p)
    (hlong : Module.showsLongInteger p.spec) : BreaksAt c b file s := by
  obtain ⟨hload, hrender, -⟩ := Product.ofDocument_eq_ok_iff.1 h
  let s₀ := said s .progress ("Processing " ++ file.name)
  obtain ⟨log, hlog⟩ := Output.tell_warnings c p.spec s₀
  suffices hwrite : writeDocument c file s₀ =
      .error (.breakdown .longInteger) { s₀ with log := log } from
    breaksAt_of_writeDocument hwrite rfl
  have hspec : ofExcept id (Except.ok p.spec : Except Stop Spec) s₀ = .ok p.spec s₀ := rfl
  have htext : ∀ s, ofExcept Output.renderStop (Except.ok p.text) s = .ok p.text s := fun _ => rfl
  unfold writeDocument
  rw [bind_of_ok (tree_eq s₀), show Spec.load s₀.tree file = .ok p.spec from hload, bind_of_ok hspec]
  refine bind_of_error ?_ _
  unfold Output.writeModule
  rw [bind_of_ok (tree_eq s₀), bind_of_ok hlog,
    show Module.render s₀.tree.cwd c p.spec (some file) = .ok p.text from hrender,
    bind_of_ok (htext _), if_pos hlong]
  rfl

/-! ## Documents and the ones after them -/

/-- Loading a document ends as foreseen exactly if its content is tractable. In a batch that goes on
after failures, a document whose loading does not end so breaks the batch, and every other document
that becomes nothing is passed over. A document that becomes something breaks the batch if it shows an
integer that is too long; otherwise only its text, which may have no bytes, the manifest or the files
stop it from being written. -/
theorem attempts_next (hslow : c.failFast = false) (b : Batch) (file : FilePath) (s : Session) :
    (Spec.IsForeseen file (Spec.load s.tree file) ↔
      match s.tree.read file with
      | .ok content => Spec.IsTractable file content
      | .error e => e.isReported) ∧
    (¬Spec.IsForeseen file (Spec.load s.tree file) → BreaksAt c b file s) ∧
    (∀ e, Product.ofDocument c s.tree file = .error e →
      Spec.IsForeseen file (Spec.load s.tree file) → PassesOver c b file s) ∧
    ∀ p, Product.ofDocument c s.tree file = .ok p →
      (Module.showsLongInteger p.spec → BreaksAt c b file s) ∧
        ∀ e s', writeDocument c file s = .error e s' →
          Output.IsObstacle p.spec p.text p.manifest e := by
  have hends := Spec.endsBy_load s.tree file
  refine ⟨hends.isForeseen_iff, fun hnot => ?_, fun e he hforeseen => ?_, fun p hp =>
    ⟨breaksAt_of_longInteger hp, fun _ _ => writeDocument_error hp⟩⟩
  · obtain ⟨d, hload⟩ := hends.breaks fun h => hnot (hends.foreseen h)
    refine breaksAt_of_error (d := d) ?_
    rw [Product.ofDocument_eq, hload]
    rfl
  · obtain ⟨f, rfl⟩ := exists_failure_of_isForeseen he hforeseen
    exact passesOver_of_error hslow he

/-- A project of one document. -/
def loneProject (name : Text) (content : ByteArray) : Tree :=
  ⟨⟨1, ["p"]⟩, [(["p"], .directory), (["p", name], .file content)]⟩

def loneDocument (name : Text) : FilePath := ⟨1, ["p", name]⟩

theorem read_loneProject {name : Text} {content : ByteArray}
    (h : (loneProject name content).locate (loneDocument name) = .ok ["p", name]) :
    (loneProject name content).read (loneDocument name) = .ok content := by
  refine read_eq_ok_iff.2 ⟨["p", name], h, ?_⟩
  simp [loneProject, entry?, List.lookup_cons]

/-- A text whose reader gives up is not tractable as the content of a file. -/
theorem not_isTractable_of_overwhelms {file : FilePath} {t : Text} {content : ByteArray}
    (hcontent : t.encode? = some content) (hblank : t.uniformLines.strip.isEmpty = false)
    (h : Spec.Overwhelms file t.uniformLines) : ¬Spec.IsTractable file content := by
  rintro ⟨u, hu, hends⟩
  obtain rfl := Option.some.inj ((Text.decode?_eq_some_iff.2 hcontent).symm.trans hu)
  rw [hblank] at hends
  exact hends.resolve_left Bool.false_ne_true h

/-- Whether a text is refused for some reason. -/
def refuses {ε : Type} [DecidableEq ε] (reason : ε) : Except ε Document.Value → Bool
  | .error e => e = reason
  | .ok _ => false

theorem eq_error_of_refuses {ε : Type} [DecidableEq ε] {reason : ε}
    {x : Except ε Document.Value} (h : refuses reason x) : x = .error reason := by
  cases x with
  | ok v => cases h
  | error e => rw [of_decide_eq_true h]

/-- Bytes that are no text, lists that are nested too deep and a day that is none break a batch; a blank
document is passed over. -/
theorem attempts_next_lone :
    let c : Config := { smallConfig with failFast := false }
    let s (name : Text) (content : ByteArray) : Session := Run.start (loneProject name content)
    let bytes (t : Text) : ByteArray := t.encode?.getD ByteArray.empty
    let deep : Text := List.replicate 981 (CodePoint.ofChar '[')
    BreaksAt c {} (loneDocument "a.json") (s "a.json" ⟨#[0xff]⟩) ∧
      BreaksAt c {} (loneDocument "a.json") (s "a.json" (bytes deep)) ∧
      BreaksAt c {} (loneDocument "a.yaml") (s "a.yaml" (bytes "2024-13-45")) ∧
      PassesOver c {} (loneDocument "a.json") (s "a.json" (bytes " ")) := by
  intro c s bytes deep
  have hslow : c.failFast = false := rfl
  have hbytes (t : Text) (ht : t.IsScalar) : t.encode? = some (bytes t) := by
    obtain ⟨content, hcontent⟩ := Text.exists_encode? ht
    rw [hcontent, show bytes t = content from by simp only [bytes, hcontent]; rfl]
  have hbreaks (name : Text) (content : ByteArray)
      (hl : (loneProject name content).locate (loneDocument name) = .ok ["p", name])
      (hnot : ¬Spec.IsTractable (loneDocument name) content) :
      BreaksAt c {} (loneDocument name) (s name content) := by
    obtain ⟨hiff, hbreaks, -⟩ := attempts_next hslow {} (loneDocument name) (s name content)
    have hread : (s name content).tree.read (loneDocument name) = .ok content :=
      read_loneProject hl
    rw [hread] at hiff
    exact hbreaks fun h => hnot (hiff.1 h)
  refine ⟨hbreaks _ _ (by decide +kernel) ?_, hbreaks _ _ (by decide +kernel) ?_,
    hbreaks _ _ (by decide +kernel) ?_, ?_⟩
  · rintro ⟨t, ht, -⟩
    rw [show Text.decode? ⟨#[0xff]⟩ = none by decide +kernel] at ht
    cases ht
  · refine not_isTractable_of_overwhelms (hbytes deep ?_) (by decide +kernel) ?_
    · intro d hd
      rw [List.eq_of_mem_replicate hd]
      decide
    · have hread : Document.Json.read deep.uniformLines = .error .nestedTooDeep :=
        eq_error_of_refuses (by decide +kernel)
      exact ⟨_, Document.Json.exceeds_iff.2 ⟨hread, rfl⟩⟩
  · refine not_isTractable_of_overwhelms (hbytes _ (.ofString _)) (by decide +kernel) ?_
    have hread : Document.Yaml.read (Text.uniformLines "2024-13-45") = .error .valueOutOfRange :=
      eq_error_of_refuses (by decide +kernel)
    exact ⟨_, hread, by decide⟩
  · obtain ⟨hiff, -, hpasses, -⟩ := attempts_next hslow {} (loneDocument "a.json")
      (s "a.json" (bytes " "))
    have hread : (s "a.json" (bytes " ")).tree.read (loneDocument "a.json") = .ok (bytes " ") :=
      read_loneProject (by decide +kernel)
    have hempty : tellsEmpty "/p/a.json"
        (Product.ofDocument c (s "a.json" (bytes " ")).tree (loneDocument "a.json")) := by
      decide +kernel
    rw [hread] at hiff
    refine hpasses _ (eq_error_of_tellsEmpty hempty) (hiff.2 ⟨" ", ?_, .inl (by decide)⟩)
    exact Text.decode?_eq_some_iff.2 (hbytes _ (.ofString _))

end Routewright.Batch
