/-
What generating leaves when it succeeds. Each document is loaded from the tree that the ones before
it have come to, its module and its manifest are written, and the aggregator is written only if the
module changes it.
-/
import Routewright.Project.Generate
import Routewright.Proofs.Project.Run

namespace Routewright

open Run (Wrote)
open Files (Made)

namespace Output

/-! ## Modules -/

/-- What writing a module leaves: its directory, its text and its manifest. -/
structure WroteModule (c : Config) (spec : Spec) (text : Text) (m : Manifest) (t u : Tree) :
    Prop where
  steps : ∃ first second content place manifest manifestPlace,
    Made (Module.directory c spec) t first ∧ Text.encode? text = some content ∧
      Wrote (Module.modulePath c spec) content place first second ∧
        Text.encode? (m.json ++ "\n") = some manifest ∧
          Wrote (Module.manifestPath c spec) manifest manifestPlace second u

theorem writeModule_ok {c : Config} {spec : Spec} {source : Option FilePath} {s s' : Session}
    {m : Manifest} (h : writeModule c spec source s = .ok m s') :
    m = Module.manifest s.tree.cwd c spec source ∧
      ∃ text, Module.render s.tree.cwd c spec source = .ok text ∧
        WroteModule c spec text m s.tree s'.tree := by
  unfold writeModule at h
  obtain ⟨t, s₀, htree, h₀⟩ := Run.bind_ok h
  obtain ⟨rfl, rfl⟩ := Run.tree_ok htree
  obtain ⟨_, s₁, hwarn, h₁⟩ := Run.bind_ok h₀
  have hs₁ : s₁.tree = s.tree := Run.forM_say_ok hwarn
  obtain ⟨text, s₂, hrender, h₂⟩ := Run.bind_ok h₁
  obtain ⟨htext, rfl⟩ := Run.ofExcept_ok hrender
  obtain ⟨-, h₃⟩ := Run.guard_ok h₂
  obtain ⟨there, s₃, hask, h₄⟩ := Run.bind_ok h₃
  obtain ⟨hthere, rfl⟩ := Run.ask_ok hask
  obtain ⟨s₄, hmake, h₅⟩ := Run.when_seq_ok h₄
  obtain ⟨_, s₅, hmodule, h₆⟩ := Run.bind_ok h₅
  obtain ⟨-, h₇⟩ := Run.guard_ok h₆
  obtain ⟨_, s₆, hmanifest, h₈⟩ := Run.bind_ok h₇
  obtain ⟨rfl, rfl⟩ := Run.pure_ok h₈
  -- the directory is made, or it has been there
  have hmade : Made (Module.directory c spec) s.tree s₄.tree := by
    rw [← hs₁]
    rcases hmake with ⟨-, first, hfiles, hsay⟩ | ⟨hnot, rfl⟩
    · rw [Run.say_ok hsay]
      exact Files.makeDirectories_ok (Run.files_ok hfiles)
    · exact .refl (by rw [hthere]; simpa using hnot)
  obtain ⟨content, place, hcontent, hwrote⟩ := Run.write_ok hmodule
  obtain ⟨manifest, manifestPlace, hencode, hwrote'⟩ := Run.write_ok hmanifest
  exact ⟨rfl, text, htext, _, _, content, place, manifest, manifestPlace, hmade, hcontent, hwrote,
    hencode, hwrote'⟩

end Output

/-! ## Wiring -/

namespace Wiring

open Aggregator

theorem read_ok {c : Config} {s s' : Session} {text : Text} (h : read c s = .ok text s') :
    s' = s ∧ ∃ content, s.tree.read c.aggregatorPath = .ok content ∧
      Text.decode? content = some text := by
  unfold read at h
  obtain ⟨there, s₀, hask, h₀⟩ := Run.bind_ok h
  obtain ⟨-, rfl⟩ := Run.ask_ok hask
  split at h₀
  · obtain ⟨content, s₁, hread, h₁⟩ := Run.bind_ok h₀
    obtain ⟨hread, rfl⟩ := Run.ask_ok hread
    cases hd : Text.decode? content with
    | none =>
      simp only [hd] at h₁
      cases h₁
    | some t =>
      simp only [hd] at h₁
      obtain ⟨rfl, rfl⟩ := Run.pure_ok h₁
      exact ⟨rfl, content, hread, hd⟩
  · cases h₀

theorem read_of_ok {c : Config} {s : Session} {content : ByteArray} {text : Text}
    (hread : s.tree.read c.aggregatorPath = .ok content)
    (hd : Text.decode? content = some text) : read c s = .ok text s := by
  have hfile : s.tree.isFile c.aggregatorPath = .ok true :=
    Tree.isFile_eq_ok_true_iff.2 ⟨content, hread⟩
  unfold read
  rw [Run.bind_of_ok (Run.ask_of_ok hfile _), if_pos rfl, Run.bind_of_ok (Run.ask_of_ok hread _), hd]
  rfl

/-- What adding a module leaves: the tree as it is if the module is wired already, and else the text
with the module in it. -/
def Added (c : Config) (m : Manifest) (t u : Tree) : Prop :=
  ∃ content text, t.read c.aggregatorPath = .ok content ∧ Text.decode? content = some text ∧
    ((upsert text m).text = text ∧ u = t ∨
      ∃ content' place, Text.encode? (upsert text m).text = some content' ∧
        Wrote c.aggregatorPath content' place t u)

theorem add_ok {c : Config} {m : Manifest} {s s' : Session} {changed : Bool}
    (h : add c m s = .ok changed s') : Added c m s.tree s'.tree := by
  unfold add at h
  obtain ⟨text, s₀, hread, h₀⟩ := Run.bind_ok h
  obtain ⟨rfl, content, hread, hd⟩ := read_ok hread
  obtain ⟨s₁, hs₁, h₁⟩ := Run.when_say_ok h₀
  refine ⟨content, text, hread, hd, ?_⟩
  dsimp only at h₁
  split at h₁
  · rename_i hsame
    obtain ⟨_, s₂, hsay, h₂⟩ := Run.bind_ok h₁
    obtain ⟨-, rfl⟩ := Run.pure_ok h₂
    exact .inl ⟨hsame, (Run.say_ok hsay).trans hs₁⟩
  · obtain ⟨_, s₂, hwrite, h₂⟩ := Run.bind_ok h₁
    obtain ⟨s₃, hs₃, h₃⟩ := Run.when_say_ok h₂
    obtain ⟨s₄, hs₄, h₄⟩ := Run.when_say_ok h₃
    obtain ⟨-, rfl⟩ := Run.pure_ok h₄
    obtain ⟨content', place, hencode, hwrote⟩ := Run.write_ok hwrite
    rw [hs₁] at hwrote
    rw [hs₄, hs₃]
    exact .inr ⟨content', place, hencode, hwrote⟩

theorem not_noAggregator_of_fileStop {stop : FileError → Stop} {name : Text} {fault : FileError}
    (h : stop fault ≠ .failure (.noAggregator name)) :
    Run.fileStop stop fault ≠ .failure (.noAggregator name) := by
  unfold Run.fileStop
  split
  · exact h
  · exact Stop.noConfusion

theorem read_noAggregator {c : Config} {s s' : Session} {name : Text}
    (h : read c s = .error (.failure (.noAggregator name)) s') :
    s.tree.isFile c.aggregatorPath = .ok false ∧ s' = s := by
  have hunforeseen : ∀ fault, Run.fileStop Run.unforeseen fault ≠ .failure (.noAggregator name) :=
    fun _ => not_noAggregator_of_fileStop Stop.noConfusion
  unfold read at h
  rcases Run.bind_error h with hask | ⟨there, s₀, hask, h₀⟩
  · obtain ⟨fault, hfault⟩ := Run.ask_error hask
    exact absurd hfault.symm (hunforeseen fault)
  · obtain ⟨hthere, rfl⟩ := Run.ask_ok hask
    split at h₀
    · rcases Run.bind_error h₀ with hread | ⟨content, s₁, -, h₁⟩
      · obtain ⟨fault, hfault⟩ := Run.ask_error hread
        exact absurd hfault.symm (hunforeseen fault)
      · cases hd : Text.decode? content with
        | none =>
          simp only [hd] at h₁
          cases h₁
        | some t =>
          simp only [hd] at h₁
          cases h₁
    · rename_i hnot
      cases h₀
      exact ⟨by rw [hthere, Bool.eq_false_iff.2 hnot], rfl⟩

/-- Only a missing aggregator is told as missing. -/
theorem add_noAggregator {c : Config} {m : Manifest} {s s' : Session} {name : Text}
    (h : add c m s = .error (.failure (.noAggregator name)) s') :
    s.tree.isFile c.aggregatorPath = .ok false ∧ s' = s := by
  unfold add at h
  rcases Run.bind_error h with hread | ⟨text, s₀, hread, h₀⟩
  · exact read_noAggregator hread
  · -- once the aggregator has been read, nothing fails with its absence
    exfalso
    obtain ⟨s₁, -, h₁⟩ := Run.when_say_error h₀
    dsimp only at h₁
    split at h₁
    · rcases Run.bind_error h₁ with h₂ | ⟨_, s₂, -, h₂⟩ <;> cases h₂
    · rcases Run.bind_error h₁ with hwrite | ⟨_, s₂, -, h₂⟩
      · rcases Run.write_error hwrite with ⟨fault, hfault⟩ | ⟨-, hfault⟩
        · refine absurd hfault.symm (not_noAggregator_of_fileStop ?_)
          intro hstop
          cases hstop
        · cases hfault
      · obtain ⟨s₃, -, h₃⟩ := Run.when_say_error h₂
        obtain ⟨s₄, -, h₄⟩ := Run.when_say_error h₃
        cases h₄

end Wiring

/-! ## Batches -/

namespace Batch

/-- What wiring a module comes to. The first module that finds no aggregator is the last to look for
one. -/
inductive Wires (c : Config) (m : Manifest) : Bool → Bool → Tree → Tree → Prop
  | passed (t : Tree) : Wires c m true true t t
  | missing {t : Tree} (h : t.isFile c.aggregatorPath = .ok false) : Wires c m false true t t
  | added {t u : Tree} (h : Wiring.Added c m t u) : Wires c m false false t u

/-- A batch that goes through all of some documents, the aggregator given up before or not, with the
manifest of each. -/
inductive Runs (c : Config) : Bool → Tree → List FilePath → List Manifest → Tree → Prop
  | done (unwired : Bool) (t : Tree) : Runs c unwired t [] [] t
  | step {unwired unwired' : Bool} {t mid next u : Tree} {file : FilePath}
      {files : List FilePath} {spec : Spec} {text : Text} {m : Manifest} {ms : List Manifest}
      (load : Spec.load t file = .ok spec)
      (render : Module.render t.cwd c spec (some file) = .ok text)
      (manifest : m = Module.manifest t.cwd c spec (some file))
      (wrote : Output.WroteModule c spec text m t mid)
      (wires : Wires c m unwired unwired' mid next)
      (rest : Runs c unwired' next files ms u) : Runs c unwired t (file :: files) (m :: ms) u

variable {c : Config} {file : FilePath} {b b' : Batch} {m : Manifest} {s s' : Session}

theorem writeDocument_ok (h : writeDocument c file s = .ok m s') :
    ∃ spec text, Spec.load s.tree file = .ok spec ∧
      Module.render s.tree.cwd c spec (some file) = .ok text ∧
        m = Module.manifest s.tree.cwd c spec (some file) ∧
          Output.WroteModule c spec text m s.tree s'.tree := by
  unfold writeDocument at h
  obtain ⟨t, s₀, htree, h₀⟩ := Run.bind_ok h
  obtain ⟨rfl, rfl⟩ := Run.tree_ok htree
  obtain ⟨spec, s₁, hload, h₁⟩ := Run.bind_ok h₀
  obtain ⟨hload, rfl⟩ := Run.ofExcept_ok hload
  obtain ⟨m', s₂, hwrite, h₂⟩ := Run.bind_ok h₁
  obtain ⟨_, s₃, hsay, h₃⟩ := Run.bind_ok h₂
  obtain ⟨rfl, rfl⟩ := Run.pure_ok h₃
  obtain ⟨hm, text, hrender, hwrote⟩ := Output.writeModule_ok hwrite
  exact ⟨spec, text, hload, hrender, hm, by rwa [Run.say_ok hsay]⟩

/-- Where the first failure ends a run, no document of a run that has not ended has failed. -/
theorem not_fail_ok (hfast : c.failFast) {f : Failure} : fail c file f b s ≠ .ok b' s' := by
  rw [fail, if_pos hfast]
  intro h
  cases h

theorem wire_ok (hfast : c.failFast) (h : wire c file m b s = .ok b' s') :
    Wires c m b.unwired b'.unwired s.tree s'.tree := by
  unfold wire at h
  split at h
  · rename_i hunwired
    obtain ⟨rfl, rfl⟩ := Run.pure_ok h
    rw [hunwired]
    exact .passed _
  · rename_i hunwired
    rw [Bool.not_eq_true] at hunwired
    obtain ⟨x, s₀, hattempt, h₀⟩ := Run.bind_ok h
    rcases Run.attempt_ok hattempt with ⟨changed, rfl, hadd⟩ | ⟨f, rfl, hadd⟩
    · obtain ⟨rfl, rfl⟩ := Run.pure_ok h₀
      rw [hunwired]
      exact .added (Wiring.add_ok hadd)
    · -- every failure but one ends the run
      cases f with
      | noAggregator name =>
        obtain ⟨hmissing, rfl⟩ := Wiring.add_noAggregator hadd
        obtain ⟨_, s₁, hsay, h₁⟩ := Run.bind_ok h₀
        obtain ⟨rfl, rfl⟩ := Run.pure_ok h₁
        rw [hunwired, Run.say_ok hsay]
        exact .missing hmissing
      | document e => exact absurd h₀ (not_fail_ok hfast)
      | query e => exact absurd h₀ (not_fail_ok hfast)
      | file task e => exact absurd h₀ (not_fail_ok hfast)
      | config e => exact absurd h₀ (not_fail_ok hfast)
      | batch failed total => exact absurd h₀ (not_fail_ok hfast)

theorem step_ok (hfast : c.failFast) (h : step c file b s = .ok b' s') : ∃ spec text m mid,
    Spec.load s.tree file = .ok spec ∧ Module.render s.tree.cwd c spec (some file) = .ok text ∧
      m = Module.manifest s.tree.cwd c spec (some file) ∧
        Output.WroteModule c spec text m s.tree mid ∧
          Wires c m b.unwired b'.unwired mid s'.tree := by
  unfold step at h
  obtain ⟨_, s₀, hsay, h₀⟩ := Run.bind_ok h
  obtain ⟨x, s₁, hattempt, h₁⟩ := Run.bind_ok h₀
  rcases Run.attempt_ok hattempt with ⟨m, rfl, hwrite⟩ | ⟨f, rfl, -⟩
  · obtain ⟨spec, text, hload, hrender, hm, hwrote⟩ := writeDocument_ok hwrite
    rw [Run.say_ok hsay] at hload hrender hm hwrote
    let written := { b with written := b.written ++ [c.root.child m.modulePath] }
    exact ⟨spec, text, m, s₁.tree, hload, hrender, hm, hwrote, wire_ok (b := written) hfast h₁⟩
  · exact absurd h₁ (not_fail_ok hfast)

theorem run_ok (hfast : c.failFast) {files : List FilePath} (h : run c b files s = .ok b' s') :
    ∃ ms, Runs c b.unwired s.tree files ms s'.tree := by
  induction files generalizing b s with
  | nil =>
    obtain ⟨rfl, rfl⟩ := Run.pure_ok h
    exact ⟨[], .done _ _⟩
  | cons file files ih =>
    obtain ⟨next, s₀, hstep, hrest⟩ := Run.bind_ok h
    obtain ⟨spec, text, m, mid, hload, hrender, hm, hwrote, hwires⟩ := step_ok hfast hstep
    obtain ⟨ms, hruns⟩ := ih hrest
    exact ⟨m :: ms, .step hload hrender hm hwrote hwires hruns⟩

end Batch

/-- A generate run that succeeds has gone through all documents. -/
theorem generate_ok {c : Config} (hfast : c.failFast) {g : Generated} {s s' : Session}
    (h : generate c s = .ok g s') :
    Spec.filesIn s.tree c.specsPath c.specExtensions = .ok g.processed ∧
      ∃ ms, Batch.Runs c false s.tree g.processed ms s'.tree := by
  unfold generate at h
  obtain ⟨documents, s₀, hask, h₀⟩ := Run.bind_ok h
  obtain ⟨hfiles, rfl⟩ := Run.ask_ok hask
  cases documents with
  | nil =>
    obtain ⟨_, s₁, hsay, h₁⟩ := Run.bind_ok h₀
    obtain ⟨rfl, rfl⟩ := Run.pure_ok h₁
    rw [Run.say_ok hsay]
    exact ⟨hfiles, [], .done _ _⟩
  | cons file files =>
    obtain ⟨b, s₁, hrun, h₁⟩ := Run.bind_ok h₀
    obtain ⟨ms, hruns⟩ := Batch.run_ok hfast hrun
    split at h₁
    · obtain ⟨_, s₂, hsay, h₂⟩ := Run.bind_ok h₁
      obtain ⟨rfl, rfl⟩ := Run.pure_ok h₂
      rw [Run.say_ok hsay]
      exact ⟨hfiles, ms, hruns⟩
    · cases h₁

theorem generate_of_run_error {c : Config} {t : Tree} {documents : List FilePath} {e : Stop}
    {s : Session} (hf : Spec.filesIn t c.specsPath c.specExtensions = .ok documents)
    (h : Batch.run c {} documents (Run.start t) = .error e s) :
    generate c (Run.start t) = .error e s := by
  unfold generate
  rw [Run.bind_of_ok (Run.ask_of_ok (s := Run.start t) hf _)]
  cases documents with
  | nil => cases h
  | cons file files => exact Run.bind_of_error h _

/-- A run that has gone through all documents succeeds exactly if none has failed. -/
theorem generate_of_run {c : Config} {t : Tree} {documents : List FilePath} {b : Batch}
    {s : Session} (hf : Spec.filesIn t c.specsPath c.specExtensions = .ok documents)
    (h : Batch.run c {} documents (Run.start t) = .ok b s) : ∃ s', s'.tree = s.tree ∧
      (b.failed = [] ∧ (∃ g, generate c (Run.start t) = .ok g s') ∨
        b.failed ≠ [] ∧
          generate c (Run.start t) = .error (.failure (.batch b.failed documents.length)) s') := by
  unfold generate
  rw [Run.bind_of_ok (Run.ask_of_ok (s := Run.start t) hf _)]
  cases documents with
  | nil =>
    obtain ⟨rfl, rfl⟩ := Run.pure_ok h
    exact ⟨Run.said (Run.start t) .info ("No spec documents found in " ++ c.specsDir), rfl,
      .inl ⟨rfl, ⟨[], []⟩, Run.bind_of_ok (Run.say_eq _ _ _) _⟩⟩
  | cons file files =>
    dsimp only
    rw [Run.bind_of_ok h]
    cases hfailed : b.failed with
    | nil =>
      refine ⟨Run.said s .info ("Generated " ++ Text.ofNat b.written.length ++ " module(s)"), rfl,
        .inl ⟨rfl, ⟨file :: files, b.written⟩, ?_⟩⟩
      rw [List.isEmpty_nil, if_pos rfl]
      exact Run.bind_of_ok (Run.say_eq _ _ _) _
    | cons name names => exact ⟨s, rfl, .inr ⟨List.cons_ne_nil _ _, rfl⟩⟩

end Routewright
