/-
Batches in which documents fail. A document that fails by a fault of its own has written nothing by
then, and telling the failure changes no files; so a run that goes on leaves what a run over the other
documents leaves, and a run that ends leaves what a run over the documents before leaves.
-/
import Routewright.Proofs.Module.Recorded
import Routewright.Proofs.Project.Log
import Routewright.Proofs.Project.Product

namespace Routewright

open Routewright.Tree

/-! ## Faults -/

/-- Whether a document is at fault: it is no spec, or a query of its does not fit its conditions. -/
def Stop.isFault : Stop → Bool
  | .failure (.document _) => true
  | .failure (.query _) => true
  | _ => false

theorem Stop.eq_failure_of_isFault {e : Stop} (h : e.isFault) : ∃ f, e = .failure f := by
  cases e with
  | failure f => exact ⟨f, rfl⟩
  | breakdown b => cases h

/-- Whether the aggregator is missing. -/
def Stop.isAbsence : Stop → Bool
  | .failure (.noAggregator _) => true
  | _ => false

theorem Stop.eq_noAggregator_of_isAbsence {e : Stop} (h : e.isAbsence) :
    ∃ name, e = .failure (.noAggregator name) := by
  unfold isAbsence at h
  split at h
  · exact ⟨_, rfl⟩
  · cases h

namespace Run

variable {α β : Type}

/-- A run that is stopped in some ways only. -/
def StopsIn (P : Stop → Prop) (r : Run α) : Prop := ∀ s e s', r s = .error e s' → P e

variable {P : Stop → Prop}

theorem StopsIn.bind {r : Run α} {f : α → Run β} (hr : StopsIn P r) (hf : ∀ a, StopsIn P (f a)) :
    StopsIn P (r >>= f) := by
  intro s e s' h
  rcases bind_error h with h | ⟨a, mid, -, h⟩
  · exact hr s e s' h
  · exact hf a mid e s' h

theorem stopsIn_pure (a : α) : StopsIn P (pure a : Run α) := by
  intro s e s' h
  cases h

theorem stopsIn_say (level : Level) (t : Text) : StopsIn P (say level t) := by
  intro s e s' h
  cases h

section Optional

variable {p : Prop} [Decidable p] {f : Unit → Run α}

theorem StopsIn.guard {stop : Stop} (hstop : p → P stop) (hf : ¬p → StopsIn P (f ())) :
    StopsIn P (if p then throw stop >>= f else f ()) := by
  split
  · rename_i hp
    intro s e s' h
    cases h
    exact hstop hp
  · rename_i hp
    exact hf hp

theorem StopsIn.when_seq {r r' : Run Unit} (hr : StopsIn P r) (hr' : StopsIn P r')
    (hf : ∀ u, StopsIn P (f u)) : StopsIn P (if p then r >>= fun _ => r' >>= f else f ()) := by
  split
  · exact hr.bind fun _ => hr'.bind hf
  · exact hf ()

end Optional

section Files

variable {stop : FileError → Stop} (hs : ∀ fault, P (fileStop stop fault))
include hs

theorem stopsIn_ask (question : Tree → Except FileError α) : StopsIn P (ask stop question) := by
  intro s e s' h
  obtain ⟨fault, rfl⟩ := ask_error h
  exact hs fault

theorem stopsIn_files (act : Files α) : StopsIn P (files stop act) := by
  intro s e s' h
  obtain ⟨fault, rfl⟩ := files_error h
  exact hs fault

theorem stopsIn_write (p : FilePath) {t : Text} (ht : t.encode? = none → P (.breakdown .surrogate)) :
    StopsIn P (write stop p t) := by
  intro s e s' h
  rcases write_error h with ⟨fault, rfl⟩ | ⟨hnone, rfl⟩
  · exact hs fault
  · exact ht hnone

end Files

end Run

open Run

/-! ## Modules that are not written -/

namespace Output

/-- The warnings about a spec are told, and nothing else happens. -/
theorem tell_warnings (c : Config) (spec : Spec) (s : Session) : ∃ log,
    (Module.warnings c spec 1 spec.routes).forM (say .warning) s = .ok () { s with log := log } :=
  forM_say .warning id _ s

/-- What stops a module with a text from being written: its files; an integer of its that has too many
digits to be shown; or its text or its manifest, which has no bytes. -/
inductive IsObstacle (spec : Spec) (text : Text) (m : Manifest) : Stop → Prop
  | files (fault : FileError) : IsObstacle spec text m (fileStop (writeStop spec) fault)
  | longInteger (h : Module.showsLongInteger spec) : IsObstacle spec text m (.breakdown .longInteger)
  | text (h : text.encode? = none) : IsObstacle spec text m (.breakdown .surrogate)
  | manifest (h : ¬m.isWritable) : IsObstacle spec text m (.breakdown .manifestSurrogate)

theorem writeModule_error {c : Config} {spec : Spec} {source : Option FilePath} {text : Text}
    {e : Stop} {s s' : Session} (hrender : Module.render s.tree.cwd c spec source = .ok text)
    (h : writeModule c spec source s = .error e s') :
    IsObstacle spec text (Module.manifest s.tree.cwd c spec source) e := by
  unfold writeModule at h
  obtain ⟨log, hlog⟩ := tell_warnings c spec s
  have htext : ∀ s, ofExcept renderStop (Except.ok text) s = .ok text s := fun _ => rfl
  rw [bind_of_ok (tree_eq s), bind_of_ok hlog, hrender, bind_of_ok (htext _)] at h
  -- what is left only asks for files and writes them
  refine StopsIn.guard .longInteger (fun _ => ?_) _ _ _ h
  refine (stopsIn_ask .files _).bind fun there => ?_
  refine .when_seq (stopsIn_files .files _) (stopsIn_say _ _) fun _ => ?_
  refine (stopsIn_write .files _ .text).bind fun _ => ?_
  refine .guard (fun hmanifest => .manifest (by simpa using hmanifest)) fun hwritable => ?_
  refine (stopsIn_write .files _ fun hnone => ?_).bind fun _ => stopsIn_pure _
  -- a manifest that is writable has bytes
  have hscalar := Manifest.isWritable_iff.1 (by simpa using hwritable)
  obtain ⟨content, hcontent⟩ := Text.exists_encode? (hscalar.json.append (.ofString "\n"))
  exact nomatch hnone.symm.trans hcontent

end Output

/-! ## Documents -/

namespace Batch

variable {c : Config} {file : FilePath} {p : Product} {e : Stop} {s s' : Session}

/-- A document that is not loaded is not written either. -/
theorem writeDocument_of_load_error (h : Spec.load s.tree file = .error e) :
    writeDocument c file s = .error e s := by
  unfold writeDocument
  rw [bind_of_ok (tree_eq s), h]
  exact bind_of_error rfl _

/-- What a document is stopped by stops writing it, before anything is written. -/
theorem writeDocument_of_error (h : Product.ofDocument c s.tree file = .error e) :
    ∃ s', writeDocument c file s = .error e s' ∧ s'.tree = s.tree := by
  rcases Product.ofDocument_error h with hload | ⟨spec, fault, hload, hrender, rfl⟩
  · exact ⟨s, writeDocument_of_load_error hload, rfl⟩
  · unfold writeDocument
    have hspec : ofExcept id (Except.ok spec : Except Stop Spec) s = .ok spec s := rfl
    obtain ⟨log, hlog⟩ := Output.tell_warnings c spec s
    rw [bind_of_ok (tree_eq s), hload, bind_of_ok hspec]
    refine ⟨{ s with log := log }, bind_of_error ?_ _, rfl⟩
    unfold Output.writeModule
    rw [bind_of_ok (tree_eq s), bind_of_ok hlog, hrender]
    exact bind_of_error rfl _

/-- A document that becomes something is stopped by what stops its module from being written. -/
theorem writeDocument_error (h : Product.ofDocument c s.tree file = .ok p)
    (hw : writeDocument c file s = .error e s') :
    Output.IsObstacle p.spec p.text p.manifest e := by
  obtain ⟨hload, hrender, hm⟩ := Product.ofDocument_eq_ok_iff.1 h
  unfold writeDocument at hw
  have hspec : ofExcept id (Except.ok p.spec : Except Stop Spec) s = .ok p.spec s := rfl
  rw [bind_of_ok (tree_eq s), hload, bind_of_ok hspec] at hw
  rcases bind_error hw with hw | ⟨m, mid, -, hw⟩
  · rw [hm]
    exact Output.writeModule_error hrender hw
  · rcases bind_error hw with hw | ⟨_, _, -, hw⟩ <;> cases hw

/-- That is no fault of the document. -/
theorem isFault_of_writeDocument (h : Product.ofDocument c s.tree file = .ok p)
    (hw : writeDocument c file s = .error e s') : e.isFault = false := by
  cases writeDocument_error h hw with
  | files fault =>
    unfold fileStop
    split <;> rfl
  | _ => rfl

/-! ## Batches without other errors -/

/-- Whether a document is written and wired, finds the aggregator missing, or is at fault. -/
def settles (c : Config) (file : FilePath) (unwired : Bool) (s : Session) : Bool :=
  match writeDocument c file s with
  | .error e _ => e.isFault
  | .ok m mid =>
    unwired ||
      match Wiring.add c m mid with
      | .ok _ _ => true
      | .error e _ => e.isAbsence

/-- Whether all documents that a batch comes to do so: nothing goes wrong in it but faults of
documents, so all that is written can be written and the aggregator can be read unless it is missing. -/
def meetsOnlyFaults (c : Config) : Batch → List FilePath → Session → Bool
  | _, [], _ => true
  | b, file :: rest, s =>
    settles c file b.unwired s &&
      match b.step c file s with
      | .ok b s => meetsOnlyFaults c b rest s
      | .error _ _ => true

variable {b : Batch} {files : List FilePath}

theorem wires_of_settles {m : Manifest} {mid : Session} {unwired : Bool}
    (hw : writeDocument c file s = .ok m mid) (h : settles c file unwired s) :
    ∃ unwired' next, Wires c m unwired unwired' mid.tree next ∧
      ∀ (d : Batch) (r : Session), d.unwired = unwired → r.tree = mid.tree →
        ∃ d' r', wire c file m d r = .ok d' r' ∧ d'.failed = d.failed ∧ d'.unwired = unwired' ∧
          r'.tree = next := by
  rw [settles, hw, Bool.or_eq_true] at h
  by_cases hunwired : unwired
  · subst hunwired
    refine ⟨true, mid.tree, .passed _, fun d r hd hr => ⟨d, r, ?_, rfl, hd, hr⟩⟩
    rw [wire, if_pos hd]
    rfl
  · have hsettles := h.resolve_left hunwired
    rw [Bool.not_eq_true] at hunwired
    subst hunwired
    cases hadd : Wiring.add c m mid with
    | ok changed s₁ =>
      refine ⟨false, s₁.tree, .added (Wiring.add_ok hadd), fun d r hd hr => ?_⟩
      obtain ⟨r', hr', htree⟩ := (ignoresLog_add c m).ok hr.symm hadd
      refine ⟨d, r', ?_, rfl, hd, htree⟩
      rw [wire, if_neg (by simp [hd]), bind_of_ok (attempt_of_ok hr')]
      rfl
    | error stop s₁ =>
      rw [hadd] at hsettles
      obtain ⟨name, rfl⟩ := Stop.eq_noAggregator_of_isAbsence hsettles
      obtain ⟨hmissing, rfl⟩ := Wiring.add_noAggregator hadd
      refine ⟨true, s₁.tree, .missing hmissing, fun d r hd hr => ?_⟩
      obtain ⟨r', hr', htree⟩ := (ignoresLog_add c m).error hr.symm hadd
      refine ⟨{ d with unwired := true }, said r' .warning
        ((Failure.noAggregator name).message ++ "; skipping route registration"), ?_, rfl, rfl, htree⟩
      rw [wire, if_neg (by simp [hd]), bind_of_ok (attempt_of_failure hr')]
      exact bind_of_ok (say_eq _ _ _) _

/-- What stops a document that settles is a fault of it. -/
theorem isFault_of_settles {unwired : Bool} (he : Product.ofDocument c s.tree file = .error e)
    (h : settles c file unwired s) : e.isFault := by
  obtain ⟨s', hwrite, -⟩ := writeDocument_of_error he
  rwa [settles, hwrite] at h

/-- A document that becomes something and settles is written and wired, by every batch that comes to it
with the same files. -/
theorem step_of_settles (hp : Product.ofDocument c s.tree file = .ok p)
    (h : settles c file b.unwired s) : ∃ unwired' mid next,
      Output.WroteModule c p.spec p.text p.manifest s.tree mid ∧
        Wires c p.manifest b.unwired unwired' mid next ∧
          ∀ (d : Batch) (r : Session), d.unwired = b.unwired → r.tree = s.tree →
            ∃ d' r', d.step c file r = .ok d' r' ∧ d'.failed = d.failed ∧ d'.unwired = unwired' ∧
              r'.tree = next := by
  cases hw : writeDocument c file s with
  | error e s₁ =>
    rw [settles, hw] at h
    have hfault : e.isFault := h
    rw [isFault_of_writeDocument hp hw] at hfault
    cases hfault
  | ok m s₁ =>
    obtain ⟨spec, text, hload, hrender, hm, hwrote⟩ := writeDocument_ok hw
    have hp' : Product.ofDocument c s.tree file = .ok ⟨spec, text, m⟩ :=
      Product.ofDocument_eq_ok_iff.2 ⟨hload, hrender, hm⟩
    obtain rfl := Except.ok.inj (hp.symm.trans hp')
    obtain ⟨unwired', next, hwires, hsame⟩ := wires_of_settles hw h
    refine ⟨unwired', s₁.tree, next, hwrote, hwires, fun d r hd hr => ?_⟩
    have hsaid : s.tree = (said r .progress ("Processing " ++ file.name)).tree := hr.symm
    obtain ⟨r₁, hr₁, htree⟩ := (ignoresLog_writeDocument c file).ok hsaid hw
    let written := { d with written := d.written ++ [c.root.child m.modulePath] }
    obtain ⟨d', r', hwire, hfailed, hunwired, hnext⟩ := hsame written r₁ hd htree
    refine ⟨d', r', ?_, hfailed, hunwired, hnext⟩
    unfold step
    rw [bind_of_ok (say_eq _ _ _), bind_of_ok (attempt_of_ok hr₁)]
    exact hwire

/-- A document that fails is told, or ends the batch. -/
theorem step_of_failure {f : Failure} (h : writeDocument c file
    (said s .progress ("Processing " ++ file.name)) = .error (.failure f) s') :
    b.step c file s = if c.failFast then .error (.failure f) s'
      else .ok { b with failed := b.failed ++ [file.name] }
        (said s' .error (file.name ++ ": " ++ f.message)) := by
  unfold step
  rw [bind_of_ok (say_eq _ _ _), bind_of_ok (attempt_of_failure h)]
  dsimp only
  unfold fail
  split <;> rfl

/-- A document at fault is told, and nothing else happens; or it ends the batch. -/
theorem step_of_fault (he : Product.ofDocument c s.tree file = .error e) (hfault : e.isFault) :
    ∃ s', s'.tree = s.tree ∧ if c.failFast then b.step c file s = .error e s'
      else b.step c file s = .ok { b with failed := b.failed ++ [file.name] } s' := by
  obtain ⟨f, rfl⟩ := Stop.eq_failure_of_isFault hfault
  obtain ⟨s', hs', htree⟩ := writeDocument_of_error
    (s := said s .progress ("Processing " ++ file.name)) he
  rw [step_of_failure hs']
  by_cases hfast : c.failFast
  · simp only [if_pos hfast]
    exact ⟨s', htree, rfl⟩
  · simp only [if_neg hfast]
    exact ⟨said s' .error (file.name ++ ": " ++ f.message), htree, rfl⟩

/-! ## Runs of batches -/

theorem run_of_step {b' : Batch} {rest : List FilePath} (h : b.step c file s = .ok b' s') :
    run c b (file :: rest) s = run c b' rest s' :=
  bind_of_ok h _

/-- A batch that has gone through some documents goes on from there. -/
theorem run_append {b' : Batch} {rest : List FilePath} (h : run c b files s = .ok b' s') :
    run c b (files ++ rest) s = run c b' rest s' := by
  induction files generalizing b s with
  | nil =>
    obtain ⟨rfl, rfl⟩ := pure_ok h
    rfl
  | cons file files ih =>
    obtain ⟨next, mid, hstep, hrest⟩ := bind_ok h
    rw [List.cons_append, run_of_step hstep]
    exact ih hrest

theorem meetsOnlyFaults_append {rest : List FilePath}
    (h : meetsOnlyFaults c b (files ++ rest) s) : meetsOnlyFaults c b files s ∧
      ∀ b' s', run c b files s = .ok b' s' → meetsOnlyFaults c b' rest s' := by
  induction files generalizing b s with
  | nil =>
    refine ⟨rfl, fun b' s' hrun => ?_⟩
    obtain ⟨rfl, rfl⟩ := pure_ok hrun
    exact h
  | cons file files ih =>
    rw [List.cons_append, meetsOnlyFaults, Bool.and_eq_true] at h
    rw [meetsOnlyFaults, h.1, Bool.true_and]
    obtain ⟨-, h⟩ := h
    cases hstep : b.step c file s with
    | error e mid =>
      refine ⟨rfl, fun b' s' hrun => ?_⟩
      rw [run, bind_of_error hstep] at hrun
      cases hrun
    | ok next mid =>
      rw [hstep] at h
      obtain ⟨hfirst, hrest⟩ := ih h
      refine ⟨hfirst, fun b' s' hrun => hrest b' s' ?_⟩
      rwa [run_of_step hstep] at hrun

end Batch

/-- Whether a document becomes something; the others fail. -/
def Product.isMade (c : Config) (t : Tree) (file : FilePath) : Bool :=
  match Product.ofDocument c t file with
  | .ok _ => true
  | .error _ => false

/-- The names of the documents that become nothing. -/
def failing (c : Config) (t : Tree) (files : List FilePath) : List Text :=
  (files.filter fun file => !Product.isMade c t file).map (·.name)

namespace Batch

variable {c : Config} {t : Tree} {file : FilePath} {files : List FilePath}

/-- A batch over some documents comes to the files `next`, with the products `ps` of those that become
something, and tells the names of the others; and so does every batch over those that become something
alone. -/
structure ComesTo (c : Config) (t : Tree) (files : List FilePath) (b : Batch) (s : Session)
    (ps : List Product) (next : Tree) : Prop where
  products : AreProducts c t (files.filter (Product.isMade c t)) ps
  delivers : Delivers c b.unwired s.tree ps next
  run : ∃ b' s', run c b files s = .ok b' s' ∧ b'.failed = b.failed ++ failing c t files ∧
    s'.tree = next
  alone : ∀ (d : Batch) (r : Session), d.unwired = b.unwired → r.tree = s.tree → ∃ d' r',
    Batch.run c d (files.filter (Product.isMade c t)) r = .ok d' r' ∧ d'.failed = d.failed ∧
      r'.tree = next

theorem comesTo_nil (c : Config) (t : Tree) (b : Batch) (s : Session) :
    ComesTo c t [] b s [] s.tree :=
  ⟨.nil, .done _ _, ⟨b, s, rfl, by simp [failing], rfl⟩, fun d r _ hr => ⟨d, r, rfl, rfl, hr⟩⟩

section Step

variable {b b' : Batch} {s s' : Session} {ps : List Product} {next : Tree}

/-- A document that becomes something adds its product. -/
theorem ComesTo.of_made {p : Product} {mid : Tree} (hp : Product.ofDocument c t file = .ok p)
    (hwrote : Output.WroteModule c p.spec p.text p.manifest s.tree mid)
    (hwires : Wires c p.manifest b.unwired b'.unwired mid s'.tree)
    (hsame : ∀ (d : Batch) (r : Session), d.unwired = b.unwired → r.tree = s.tree →
      ∃ d' r', d.step c file r = .ok d' r' ∧ d'.failed = d.failed ∧ d'.unwired = b'.unwired ∧
        r'.tree = s'.tree)
    (hstep : b.step c file s = .ok b' s') (hfailed : b'.failed = b.failed)
    (h : ComesTo c t files b' s' ps next) : ComesTo c t (file :: files) b s (p :: ps) next := by
  have hmade : Product.isMade c t file := by rw [Product.isMade, hp]
  have hfailing : failing c t (file :: files) = failing c t files := by
    rw [failing, List.filter_cons_of_neg (by simp [hmade]), failing]
  have hfilter := List.filter_cons_of_pos (l := files) hmade
  obtain ⟨hps, hdelivers, ⟨b₁, s₁, hrun, hfailed₁, htree⟩, halone⟩ := h
  refine ⟨hfilter ▸ .cons hp hps, .step (Product.isNamed hp) hwrote hwires hdelivers,
    ⟨b₁, s₁, by rw [run_of_step hstep, hrun], by rw [hfailed₁, hfailed, hfailing], htree⟩,
    fun d r hd hr => ?_⟩
  obtain ⟨d₁, r₁, hstep', hfailed', hunwired', htree'⟩ := hsame d r hd hr
  obtain ⟨d', r', hrun', hfailed'', htree''⟩ := halone d₁ r₁ hunwired' htree'
  exact ⟨d', r', by rw [hfilter, run_of_step hstep', hrun'], by rw [hfailed'', hfailed'], htree''⟩

/-- A document that fails is told, and leaves nothing. -/
theorem ComesTo.of_failing (hmade : Product.isMade c t file = false) (htree : s'.tree = s.tree)
    (hstep : b.step c file s = .ok { b with failed := b.failed ++ [file.name] } s')
    (h : ComesTo c t files { b with failed := b.failed ++ [file.name] } s' ps next) :
    ComesTo c t (file :: files) b s ps next := by
  have hfilter : (file :: files).filter (Product.isMade c t) = files.filter (Product.isMade c t) :=
    List.filter_cons_of_neg (by simp [hmade])
  obtain ⟨hps, hdelivers, ⟨b₁, s₁, hrun, hfailed, hnext⟩, halone⟩ := h
  rw [htree] at hdelivers halone
  refine ⟨hfilter ▸ hps, hdelivers, ⟨b₁, s₁, by rw [run_of_step hstep, hrun], ?_, hnext⟩,
    hfilter ▸ halone⟩
  rw [hfailed, failing, failing, List.filter_cons_of_pos (by simp [hmade])]
  simp

end Step

/-- A batch that meets only faults, and goes on after them if there are any, comes to the same files as
every batch over the other documents alone. -/
theorem comesTo_of_meetsOnlyFaults (hapart : IsApart t.cwd c)
    (hgo : c.failFast = false ∨ ∀ file ∈ files, Product.isMade c t file)
    (hfiles : ∀ file ∈ files, IsListed c t file) {b : Batch} {s : Session}
    (hk : KeepsDocuments c t s.tree) (h : meetsOnlyFaults c b files s) :
    ∃ ps next, ComesTo c t files b s ps next := by
  induction files generalizing b s with
  | nil => exact ⟨[], s.tree, comesTo_nil c t b s⟩
  | cons file files ih =>
    rw [meetsOnlyFaults, Bool.and_eq_true] at h
    obtain ⟨hsettles, hrest⟩ := h
    have hgo' : c.failFast = false ∨ ∀ file ∈ files, Product.isMade c t file :=
      hgo.imp_right fun hall other hother => hall other (List.mem_cons_of_mem _ hother)
    have hfiles' : ∀ file ∈ files, IsListed c t file := fun other hother =>
      hfiles other (List.mem_cons_of_mem _ hother)
    have hdocument := hk.ofDocument (hfiles file List.mem_cons_self)
    cases hp : Product.ofDocument c t file with
    | ok p =>
      rw [hp] at hdocument
      obtain ⟨unwired', mid, next₁, hwrote, hwires, hsame⟩ := step_of_settles hdocument hsettles
      have hkeeps := hk.trans (.of_step (by rwa [hk.cwd]) (Product.isNamed hp) hwrote hwires)
      obtain ⟨b₁, s₁, hstep, hfailed, rfl, rfl⟩ := hsame b s rfl rfl
      rw [hstep] at hrest
      obtain ⟨ps, next, hnext⟩ := ih hgo' hfiles' hkeeps hrest
      exact ⟨p :: ps, next, .of_made hp hwrote hwires hsame hstep hfailed hnext⟩
    | error e =>
      have hmade : Product.isMade c t file = false := by rw [Product.isMade, hp]
      rw [hp] at hdocument
      have hslow : c.failFast = false := hgo.resolve_right fun hall => by
        rw [hall file List.mem_cons_self] at hmade
        cases hmade
      have hfault := isFault_of_settles hdocument hsettles
      obtain ⟨s₁, htree, hstep⟩ := step_of_fault (b := b) hdocument hfault
      rw [if_neg (by simp [hslow])] at hstep
      rw [hstep] at hrest
      obtain ⟨ps, next, hnext⟩ := ih hgo' hfiles' (by rwa [htree]) hrest
      exact ⟨ps, next, .of_failing hmade htree hstep hnext⟩

end Batch

/-! ## Generating -/

/-- What a run over some documents that all become something has come to: it has gone through them
without a failure, and leaves their products. -/
structure Completes (c : Config) (t : Tree) (files : List FilePath) (u : Tree) : Prop where
  run : ∃ b s, Batch.run c {} files (Run.start t) = .ok b s ∧ b.failed = [] ∧ s.tree = u
  leaves : ∃ ps, AreProducts c t files ps ∧ Leaves c ps t u

theorem Completes.keepsDocuments {c : Config} {t : Tree} {files : List FilePath} {u : Tree}
    (h : Completes c t files u) (hapart : IsApart t.cwd c) : KeepsDocuments c t u := by
  obtain ⟨ps, hps, hleaves⟩ := h.leaves
  refine hleaves.keepsDocuments hapart fun p hp => ?_
  obtain ⟨file, -, ho⟩ := hps.exists_of_mem hp
  exact Product.isNamed ho

theorem failing_eq_nil_iff {c : Config} {t : Tree} {files : List FilePath} :
    failing c t files = [] ↔ ∀ file ∈ files, Product.isMade c t file := by
  simp [failing]

section Generating

variable {c : Config} {t : Tree} {documents : List FilePath} (hapart : IsApart t.cwd c)
  (hlisted : ∀ file ∈ documents, IsListed c t file)
  (honly : Batch.meetsOnlyFaults c {} documents (Run.start t))
include hapart hlisted honly

/-- A batch that goes on after failures goes through, and completes the documents that do not fail. -/
theorem Batch.run_of_goesOn
    (hgo : c.failFast = false ∨ ∀ file ∈ documents, Product.isMade c t file) : ∃ b s,
    Batch.run c {} documents (Run.start t) = .ok b s ∧ b.failed = failing c t documents ∧
      Completes c t (documents.filter (Product.isMade c t)) s.tree := by
  obtain ⟨ps, next, hps, hdelivers, ⟨b, s, hrun, hfailed, rfl⟩, halone⟩ :=
    Batch.comesTo_of_meetsOnlyFaults hapart hgo hlisted (.refl c t) honly
  exact ⟨b, s, hrun, hfailed, halone {} (Run.start t) rfl rfl, ps, hps, hdelivers.leaves hapart⟩

/-- A batch that ends at the first failure completes the documents before it. -/
theorem Batch.run_of_endsAt (hfast : c.failFast) {before after : List FilePath} {file : FilePath}
    {e : Stop} (hsplit : documents = before ++ file :: after)
    (hmade : ∀ other ∈ before, Product.isMade c t other)
    (he : Product.ofDocument c t file = .error e) : ∃ s,
    Batch.run c {} documents (Run.start t) = .error e s ∧ Completes c t before s.tree := by
  subst hsplit
  obtain ⟨hbefore, hrest⟩ := Batch.meetsOnlyFaults_append honly
  obtain ⟨b, s, hrun, -, hcompletes⟩ := Batch.run_of_goesOn hapart
    (fun other ho => hlisted other (List.mem_append_left _ ho)) hbefore (.inr hmade)
  rw [List.filter_eq_self.2 hmade] at hcompletes
  -- the document that fails is read where the ones before have left it as it was
  have hdocument : Product.ofDocument c s.tree file = .error e :=
    ((hcompletes.keepsDocuments hapart).ofDocument (hlisted file (by simp))).trans he
  have hsettles := hrest b s hrun
  rw [Batch.meetsOnlyFaults, Bool.and_eq_true] at hsettles
  have hfault := Batch.isFault_of_settles hdocument hsettles.1
  obtain ⟨s', htree, hstep⟩ := Batch.step_of_fault (b := b) hdocument hfault
  rw [if_pos hfast] at hstep
  refine ⟨s', ?_, by rwa [htree]⟩
  rw [Batch.run_append hrun]
  exact bind_of_error hstep _

end Generating

/-- A project that is apart, in which nothing goes wrong but faults of documents. If the run goes on
after them, it leaves what a run over the other documents leaves, and it tells the names of those that
have failed if there are any. If it ends at the first, it leaves what a run over the documents before
leaves, and tells its failure. -/
theorem generate_leaves_products {c : Config} {t : Tree} {documents : List FilePath}
    (hf : Spec.filesIn t c.specsPath c.specExtensions = .ok documents) (hapart : IsApart t.cwd c)
    (honly : Batch.meetsOnlyFaults c {} documents (Run.start t)) :
    (documents.Pairwise fun file other => Text.le file.name other.name) ∧
      (c.failFast = false → ∃ s, Completes c t (documents.filter (Product.isMade c t)) s.tree ∧
        ((∀ file ∈ documents, Product.isMade c t file) ∧ (∃ g, generate c (Run.start t) = .ok g s) ∨
          (∃ file ∈ documents, ¬Product.isMade c t file) ∧ generate c (Run.start t) =
            .error (.failure (.batch (failing c t documents) documents.length)) s)) ∧
        (c.failFast → ∀ before file after e, documents = before ++ file :: after →
          (∀ other ∈ before, Product.isMade c t other) → Product.ofDocument c t file = .error e →
            ∃ s, Completes c t before s.tree ∧ generate c (Run.start t) = .error e s) := by
  have hlisted : ∀ file ∈ documents, IsListed c t file := fun _ hfile => Spec.mem_filesIn hf hfile
  refine ⟨Spec.pairwise_filesIn hf, fun hslow => ?_, fun hfast before file after e hsplit hmade he => ?_⟩
  · obtain ⟨b, s, hrun, hfailed, hcompletes⟩ :=
      Batch.run_of_goesOn hapart hlisted honly (.inl hslow)
    obtain ⟨s', htree, hend⟩ := generate_of_run hf hrun
    rw [hfailed, ne_eq, failing_eq_nil_iff] at hend
    refine ⟨s', by rwa [htree], ?_⟩
    simpa using hend
  · obtain ⟨s, hrun, hcompletes⟩ :=
      Batch.run_of_endsAt hapart hlisted honly hfast hsplit hmade he
    exact ⟨s, hcompletes, generate_of_run_error hf hrun⟩

/-- A project with an empty document between two others, and the configuration that says whether it
ends the run. -/
def mixedProject : Tree :=
  smallProject [("ship.json", emptyDocument "ship" "v1"), ("void.json", ""),
    ("zone.json", emptyDocument "zone" "v1")] "app\n  .use(homeRoutes);\n"

def mixedConfig (failFast : Bool) : Config := { smallConfig with failFast := failFast }

theorem isApart_mixedConfig (failFast : Bool) : IsApart mixedProject.cwd (mixedConfig failFast) := by
  have h := isApart_standard mixedProject.cwd ⟨1, ["p"]⟩
  exact ⟨h.aggregator, h.specs, h.modules⟩

theorem filesIn_mixedProject (failFast : Bool) : Spec.filesIn mixedProject
    (mixedConfig failFast).specsPath (mixedConfig failFast).specExtensions =
      .ok [smallDocument "ship.json", smallDocument "void.json", smallDocument "zone.json"] :=
  filesIn_smallProject (by decide +kernel) (by decide +kernel) (by decide +kernel) (by decide +kernel)

/-- Whether a document comes to nothing because it is empty. -/
def tellsEmpty (source : Text) : Except Stop Product → Bool
  | .error (.failure (.document (.emptyText other))) => other == source
  | _ => false

theorem eq_error_of_tellsEmpty {source : Text} {x : Except Stop Product} (h : tellsEmpty source x) :
    x = .error (.failure (.document (.emptyText source))) := by
  unfold tellsEmpty at h
  split at h
  · rw [beq_iff_eq.1 h]
  · cases h

/-- The empty document is left out, or ends the run after the first. -/
theorem generate_leaves_products_mixed :
    (∃ s, Completes (mixedConfig false) mixedProject
        [smallDocument "ship.json", smallDocument "zone.json"] s.tree ∧
      generate (mixedConfig false) (Run.start mixedProject) =
        .error (.failure (.batch ["void.json"] 3)) s) ∧
    ∃ s, Completes (mixedConfig true) mixedProject [smallDocument "ship.json"] s.tree ∧
      generate (mixedConfig true) (Run.start mixedProject) =
        .error (.failure (.document (.emptyText "/p/api-builder/json/void.json"))) s := by
  refine ⟨?_, ?_⟩
  · obtain ⟨-, hslow, -⟩ := generate_leaves_products (filesIn_mixedProject false)
      (isApart_mixedConfig false) (by decide +kernel)
    obtain ⟨s, hcompletes, ⟨hall, -⟩ | ⟨-, hgenerate⟩⟩ := hslow rfl
    · exact absurd (hall (smallDocument "void.json") (by simp)) (by decide +kernel)
    · refine ⟨s, ?_, ?_⟩
      · have hmade : [smallDocument "ship.json", smallDocument "void.json",
            smallDocument "zone.json"].filter (Product.isMade (mixedConfig false) mixedProject) =
              [smallDocument "ship.json", smallDocument "zone.json"] := by decide +kernel
        rwa [hmade] at hcompletes
      · have hfailing : failing (mixedConfig false) mixedProject [smallDocument "ship.json",
            smallDocument "void.json", smallDocument "zone.json"] = ["void.json"] := by
          decide +kernel
        rwa [hfailing] at hgenerate
  · obtain ⟨-, -, hfast⟩ := generate_leaves_products (filesIn_mixedProject true)
      (isApart_mixedConfig true) (by decide +kernel)
    have hmade : Product.isMade (mixedConfig true) mixedProject (smallDocument "ship.json") := by
      decide +kernel
    have hvoid : tellsEmpty "/p/api-builder/json/void.json"
        (Product.ofDocument (mixedConfig true) mixedProject (smallDocument "void.json")) := by
      decide +kernel
    exact hfast rfl [smallDocument "ship.json"] (smallDocument "void.json")
      [smallDocument "zone.json"] _ rfl (by simpa using hmade) (eq_error_of_tellsEmpty hvoid)

end Routewright
