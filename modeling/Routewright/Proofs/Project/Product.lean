/-
What documents become, and what a run over documents that become something leaves: the files of each
module, as the last document with those files has written them, and the aggregator with all modules
added in their order. Nothing else changes, so each document is read as it stood at the start.
-/
import Routewright.Proofs.Aggregator.Upsert
import Routewright.Proofs.Project.Apart
import Routewright.Proofs.Text.Utf8

namespace Routewright

open Routewright.Tree
open Files (Made)
open Run (Wrote)

/-! ## Products -/

/-- What a document becomes. -/
structure Product where
  spec : Spec
  /-- The text of the module. -/
  text : Text
  manifest : Manifest

namespace Product

/-- What a document of a tree becomes, or what stops it. -/
def ofDocument (c : Config) (t : Tree) (file : FilePath) : Except Stop Product := do
  let spec ← Spec.load t file
  let text ← (Module.render t.cwd c spec (some file)).mapError Output.renderStop
  .ok ⟨spec, text, Module.manifest t.cwd c spec (some file)⟩

/-- The files of a product with their texts, in the order in which they are written. -/
def writes (c : Config) (p : Product) : List (FilePath × Text) :=
  [(Module.modulePath c p.spec, p.text), (Module.manifestPath c p.spec, p.manifest.json ++ "\n")]

variable {c : Config} {t u : Tree} {file : FilePath} {p : Product}

theorem ofDocument_eq (c : Config) (t : Tree) (file : FilePath) : ofDocument c t file =
    (Spec.load t file).bind fun spec =>
      ((Module.render t.cwd c spec (some file)).mapError Output.renderStop).bind fun text =>
        .ok ⟨spec, text, Module.manifest t.cwd c spec (some file)⟩ :=
  rfl

theorem ofDocument_eq_ok_iff : ofDocument c t file = .ok p ↔ Spec.load t file = .ok p.spec ∧
    Module.render t.cwd c p.spec (some file) = .ok p.text ∧
      p.manifest = Module.manifest t.cwd c p.spec (some file) := by
  rw [ofDocument_eq, bind_eq_ok_iff]
  constructor
  · rintro ⟨spec, hload, h⟩
    obtain ⟨text, hrender, h⟩ := bind_eq_ok_iff.1 h
    obtain rfl := Except.ok.inj h
    refine ⟨hload, ?_, rfl⟩
    cases hr : Module.render t.cwd c spec (some file) with
    | error e =>
      rw [hr] at hrender
      cases hrender
    | ok other =>
      rw [hr] at hrender
      rw [Except.ok.inj hrender]
  · rintro ⟨hload, hrender, hm⟩
    refine ⟨p.spec, hload, bind_eq_ok_iff.2 ⟨p.text, by rw [hrender]; rfl, ?_⟩⟩
    rw [← hm]

/-- A document becomes nothing if it cannot be loaded, or if its module has no text. -/
theorem ofDocument_error {e : Stop} (h : ofDocument c t file = .error e) :
    Spec.load t file = .error e ∨ ∃ spec fault, Spec.load t file = .ok spec ∧
      Module.render t.cwd c spec (some file) = .error fault ∧ e = Output.renderStop fault := by
  rw [ofDocument_eq] at h
  cases hload : Spec.load t file with
  | error stop =>
    rw [hload] at h
    exact .inl (congrArg Except.error (Except.error.inj h))
  | ok spec =>
    rw [hload] at h
    cases hrender : Module.render t.cwd c spec (some file) with
    | error fault =>
      rw [Except.bind, hrender] at h
      exact .inr ⟨spec, fault, rfl, hrender, (Except.error.inj h).symm⟩
    | ok text =>
      rw [Except.bind, hrender] at h
      cases h

theorem isNamed (h : ofDocument c t file = .ok p) : p.spec.IsNamed :=
  Spec.isNamed_of_load (ofDocument_eq_ok_iff.1 h).1

/-- A document becomes the same wherever it is loaded as the same. -/
theorem ofDocument_congr (hload : Spec.load u file = Spec.load t file) (hcwd : u.cwd = t.cwd) :
    ofDocument c u file = ofDocument c t file := by
  rw [ofDocument, ofDocument, hload, hcwd]

end Product

/-! ## Steps that put files in some places -/

/-- A step that puts files in some places only: outside them it makes no file and changes none. -/
structure PutsAt (places : List (List Text)) (t u : Tree) : Prop where
  keeps : Keeps places t u
  files : ∀ place ∉ places, ∀ content, u.entry? place = some (.file content) →
    t.entry? place = some (.file content)

namespace PutsAt

variable {places more : List (List Text)} {t u v : Tree}

theorem refl (places : List (List Text)) (t : Tree) : PutsAt places t t :=
  ⟨.refl places t, fun _ _ _ h => h⟩

theorem weaken (h : PutsAt places t u) (hm : places ⊆ more) : PutsAt more t u :=
  ⟨h.keeps.weaken hm, fun place hplace => h.files place fun ha => hplace (hm ha)⟩

theorem trans (h : PutsAt places t u) (h' : PutsAt places u v) : PutsAt places t v :=
  ⟨h.keeps.trans h'.keeps fun _ hmem => .inl hmem,
    fun place hplace content hv => h.files place hplace content (h'.files place hplace content hv)⟩

/-- Where a step adds nothing but directories outside some places, it makes no file there. -/
theorem of_adds (hk : Keeps places t u) (hadds : ∀ x ∈ u.entries, x.1 ∉ places →
    x ∈ t.entries ∨ x.2 = .directory) : PutsAt places t u := by
  refine ⟨hk, fun place hplace content hu => ?_⟩
  have hne : place ≠ [] := by
    rintro rfl
    rw [entry?_nil] at hu
    cases hu
  rcases hadds _ (mem_entries hne hu) hplace with hold | hd
  · -- what stood there is kept, so it is what stands there now
    obtain ⟨e, he⟩ := exists_entry?_of_mem hold
    rw [he, ← hk.entry place hplace e he, hu]
  · cases hd

theorem locate_eq (h : PutsAt places t u) {p : FilePath} {place : List Text}
    (hl : t.locate p = .ok place) : u.locate p = .ok place :=
  h.keeps.locate hl

end PutsAt

theorem putsAt_of_made {p : FilePath} {t u : Tree} (h : Made p t u) : PutsAt [] t u :=
  .of_adds h.keeps fun x hx _ => (h.adds x hx).imp_right And.left

theorem putsAt_of_wrote {p : FilePath} {content : ByteArray} {place : List Text} {t u : Tree}
    (h : Wrote p content place t u) : PutsAt [p.place u.cwd] t u := by
  obtain rfl := eq_place_of_locate h.located
  refine .of_adds h.keeps fun x hx hplace => ?_
  rcases h.adds x hx with hold | rfl | ⟨hd, -⟩
  · exact .inl hold
  · exact absurd (List.mem_singleton_self _) hplace
  · exact .inr hd

/-! ## Files that are read -/

/-- A tree in which a path leads to a file that holds a text. -/
def ReadsAs (t : Tree) (p : FilePath) (text : Text) : Prop :=
  ∃ content, t.read p = .ok content ∧ Text.decode? content = some text

theorem ReadsAs.eq {t : Tree} {p : FilePath} {text other : Text} (h : ReadsAs t p text)
    (h' : ReadsAs t p other) : text = other := by
  obtain ⟨content, hread, hd⟩ := h
  obtain ⟨content', hread', hd'⟩ := h'
  rw [hread] at hread'
  rw [← Except.ok.inj hread', hd] at hd'
  exact Option.some.inj hd'

theorem readsAs_of_wrote {p : FilePath} {text : Text} {content : ByteArray} {place : List Text}
    {t u : Tree} (hc : text.encode? = some content) (h : Wrote p content place t u) :
    ReadsAs u p text :=
  ⟨content, read_eq_ok_iff.2 ⟨place, h.located, h.entry⟩, Text.decode?_eq_some_iff.2 hc⟩

/-- A file is read as before where files are put in other places. -/
theorem ReadsAs.putsAt {places : List (List Text)} {t u : Tree} {p : FilePath} {text : Text}
    (h : ReadsAs t p text) (hputs : PutsAt places t u) (hp : p.place t.cwd ∉ places) :
    ReadsAs u p text := by
  obtain ⟨content, hread, hd⟩ := h
  obtain ⟨place, hl, he⟩ := read_eq_ok_iff.1 hread
  rw [← eq_place_of_locate hl] at hp
  exact ⟨content, read_eq_ok_iff.2 ⟨place, hputs.locate_eq hl, hputs.keeps.entry place hp _ he⟩, hd⟩

/-! ## One product -/

section Step

variable {c : Config} {t u : Tree} {p : Product}
  (h : Output.WroteModule c p.spec p.text p.manifest t u)
include h

theorem putsAt_of_wroteModule : PutsAt ((p.writes c).map (·.1.place t.cwd)) t u := by
  obtain ⟨first, second, content, place, manifest, manifestPlace, hmade, -, hmodule, -, hmanifest⟩ :=
    h.steps
  have h₁ := putsAt_of_made hmade
  have h₂ := putsAt_of_wrote hmodule
  have h₃ := putsAt_of_wrote hmanifest
  rw [h₂.keeps.cwd, h₁.keeps.cwd] at h₂
  rw [h₃.keeps.cwd, h₂.keeps.cwd, h₁.keeps.cwd] at h₃
  refine ((h₁.weaken (by simp)).trans (h₂.weaken ?_)).trans (h₃.weaken ?_)
  · simp [Product.writes]
  · simp [Product.writes]

/-- A file of a module holds its text, unless the other one was written over it. -/
theorem readsAs_of_wroteModule {before after : List (FilePath × Text)} {w : FilePath × Text}
    (hw : p.writes c = before ++ w :: after)
    (hafter : ∀ later ∈ after, later.1.place t.cwd ≠ w.1.place t.cwd) : ReadsAs u w.1 w.2 := by
  obtain ⟨first, second, content, place, manifest, manifestPlace, hmade, hcontent, hmodule, hencode,
    hmanifest⟩ := h.steps
  have hcwd : second.cwd = t.cwd := by rw [hmodule.keeps.cwd, hmade.keeps.cwd]
  rw [Product.writes] at hw
  rcases before with _ | ⟨b, _ | ⟨b', before⟩⟩
  · obtain ⟨rfl, rfl⟩ := List.cons.inj hw
    have hread := readsAs_of_wrote hcontent hmodule
    refine hread.putsAt (putsAt_of_wrote hmanifest) ?_
    rw [hmanifest.keeps.cwd, hcwd, List.mem_singleton]
    exact (hafter _ (List.mem_singleton_self _)).symm
  · obtain ⟨-, hw⟩ := List.cons.inj hw
    obtain ⟨rfl, -⟩ := List.cons.inj hw
    exact readsAs_of_wrote hencode hmanifest
  · simp at hw

end Step

/-! ## Wiring one product -/

section Wires

variable {c : Config} {m : Manifest} {unwired unwired' : Bool} {t u : Tree}
  (h : Batch.Wires c m unwired unwired' t u)
include h

theorem putsAt_of_wires : PutsAt [c.aggregatorPath.place t.cwd] t u := by
  cases h with
  | passed => exact .refl _ _
  | missing => exact .refl _ _
  | added hadded =>
    obtain ⟨content, text, -, -, ⟨-, rfl⟩ | ⟨content', place, -, hwrote⟩⟩ := hadded
    · exact .refl _ _
    · have hputs := putsAt_of_wrote hwrote
      rwa [hputs.keeps.cwd] at hputs

/-- Where an aggregator is read and none has been missed, the module is added. -/
theorem readsAs_of_wires (hunwired : unwired = false) {text : Text}
    (hread : ReadsAs t c.aggregatorPath text) : unwired' = false ∧
      ReadsAs u c.aggregatorPath (Aggregator.upsert text m).text := by
  cases h with
  | passed => cases hunwired
  | missing hmissing =>
    obtain ⟨content, hread, -⟩ := hread
    rw [isFile_eq_ok_true_iff.2 ⟨content, hread⟩] at hmissing
    cases hmissing
  | added hadded =>
    obtain ⟨content, text', hread', hdecode, hcases⟩ := hadded
    obtain rfl := hread.eq ⟨content, hread', hdecode⟩
    refine ⟨rfl, ?_⟩
    rcases hcases with ⟨hsame, rfl⟩ | ⟨content', place, hencode, hwrote⟩
    · rwa [hsame]
    · exact readsAs_of_wrote hencode hwrote

/-- Where no aggregator stands, none is made. -/
theorem eq_of_wires_of_absent
    (habsent : ∀ content, t.entry? (c.aggregatorPath.place t.cwd) ≠ some (.file content)) : u = t := by
  cases h with
  | passed => rfl
  | missing => rfl
  | added hadded =>
    obtain ⟨content, text, hread, -⟩ := hadded
    obtain ⟨place, hl, he⟩ := read_eq_ok_iff.1 hread
    rw [eq_place_of_locate hl] at he
    exact absurd he (habsent content)

end Wires

/-! ## Products one after the other -/

/-- A run that writes and wires some products, the aggregator given up before or not. -/
inductive Delivers (c : Config) : Bool → Tree → List Product → Tree → Prop
  | done (unwired : Bool) (t : Tree) : Delivers c unwired t [] t
  | step {unwired unwired' : Bool} {t mid next u : Tree} {p : Product} {ps : List Product}
      (named : p.spec.IsNamed)
      (wrote : Output.WroteModule c p.spec p.text p.manifest t mid)
      (wires : Batch.Wires c p.manifest unwired unwired' mid next)
      (rest : Delivers c unwired' next ps u) : Delivers c unwired t (p :: ps) u

/-- The files of some products with their texts, in the order in which they are written. -/
def allWrites (c : Config) (ps : List Product) : List (FilePath × Text) := ps.flatMap (·.writes c)

/-- What a run over some products leaves: each of their files as it was written last, the aggregator
with their modules, if there is one, and all else as it was. -/
structure Leaves (c : Config) (ps : List Product) (t u : Tree) : Prop where
  puts : PutsAt (c.aggregatorPath.place t.cwd :: (allWrites c ps).map (·.1.place t.cwd)) t u
  written : ∀ before w after, allWrites c ps = before ++ w :: after →
    (∀ later ∈ after, later.1.place t.cwd ≠ w.1.place t.cwd) → ReadsAs u w.1 w.2
  wired : ∀ text, ReadsAs t c.aggregatorPath text →
    ReadsAs u c.aggregatorPath (Aggregator.upsertAll text (ps.map (·.manifest)))
  absent : (∀ content, t.entry? (c.aggregatorPath.place t.cwd) ≠ some (.file content)) →
    ∀ content, u.entry? (c.aggregatorPath.place t.cwd) ≠ some (.file content)

namespace Delivers

variable {c : Config} {unwired : Bool} {t u : Tree} {ps : List Product}

theorem puts (h : Delivers c unwired t ps u) :
    PutsAt (c.aggregatorPath.place t.cwd :: (allWrites c ps).map (·.1.place t.cwd)) t u := by
  induction h with
  | done => exact .refl _ _
  | step named wrote wires rest ih =>
    have hmodule := putsAt_of_wroteModule wrote
    have hwires := putsAt_of_wires wires
    rw [hmodule.keeps.cwd] at hwires
    rw [hwires.keeps.cwd, hmodule.keeps.cwd] at ih
    refine ((hmodule.weaken ?_).trans (hwires.weaken ?_)).trans (ih.weaken ?_)
    · intro place hplace
      simp [allWrites, List.mem_map.1 hplace]
    · simp
    · simp [allWrites]

theorem allWrites_cons (c : Config) (p : Product) (ps : List Product) :
    allWrites c (p :: ps) = p.writes c ++ allWrites c ps :=
  List.flatMap_cons

/-- A file of a module holds what was written last to its place. -/
theorem written (h : Delivers c unwired t ps u) (hapart : IsApart t.cwd c)
    {before after : List (FilePath × Text)} {w : FilePath × Text}
    (hw : allWrites c ps = before ++ w :: after)
    (hafter : ∀ later ∈ after, later.1.place t.cwd ≠ w.1.place t.cwd) : ReadsAs u w.1 w.2 := by
  induction h generalizing before with
  | done => simp [allWrites] at hw
  | step named wrote wires rest ih =>
    rename_i p ps
    have hmodule := putsAt_of_wroteModule wrote
    have hwires := putsAt_of_wires wires
    have hcwd := hwires.keeps.cwd.trans hmodule.keeps.cwd
    rw [← hcwd] at hafter
    rw [allWrites_cons] at hw
    rcases List.append_eq_append_iff.1 hw with ⟨later, -, hlater⟩ | ⟨mine, hmine, hrest⟩
    · exact ih (by rwa [hcwd]) hlater hafter
    · cases mine with
      | nil =>
        have hfirst : allWrites c ps = [] ++ w :: after := hrest.symm
        exact ih (by rwa [hcwd]) hfirst hafter
      | cons first mine =>
        obtain ⟨rfl, rfl⟩ := List.cons.inj hrest
        -- what comes later is written to other places, and the aggregator stands elsewhere
        rw [hcwd] at hafter
        have hread : ReadsAs _ w.1 w.2 := readsAs_of_wroteModule wrote hmine fun later hl =>
          hafter later (List.mem_append_left _ hl)
        have hfile : w.1 ∈ Module.files c p.spec := by
          change w.1 ∈ (p.writes c).map (·.1)
          rw [hmine]
          simp
        have haggregator := hapart.modules p.spec named w.1 hfile
        have hread' := hread.putsAt hwires (by simpa [hmodule.keeps.cwd] using haggregator)
        refine hread'.putsAt rest.puts ?_
        rw [hcwd, List.mem_cons, List.mem_map, not_or]
        refine ⟨haggregator, ?_⟩
        rintro ⟨later, hl, hsame⟩
        exact hafter later (List.mem_append_right _ hl) hsame

/-- No file of a module stands where the aggregator does. -/
theorem aggregatorPath_notMem (hapart : IsApart t.cwd c) {p : Product} (hp : p.spec.IsNamed) :
    c.aggregatorPath.place t.cwd ∉ (p.writes c).map (·.1.place t.cwd) := by
  intro hmem
  obtain ⟨w, hw, hplace⟩ := List.mem_map.1 hmem
  exact hapart.modules p.spec hp w.1 (List.mem_map_of_mem hw) hplace

/-- The aggregator has all modules added, one after the other. -/
theorem wired (h : Delivers c unwired t ps u) (hapart : IsApart t.cwd c)
    (hunwired : unwired = false) {text : Text} (hread : ReadsAs t c.aggregatorPath text) :
    ReadsAs u c.aggregatorPath (Aggregator.upsertAll text (ps.map (·.manifest))) := by
  induction h generalizing text with
  | done => exact hread
  | step named wrote wires rest ih =>
    have hmodule := putsAt_of_wroteModule wrote
    have hcwd := (putsAt_of_wires wires).keeps.cwd.trans hmodule.keeps.cwd
    have hmid := hread.putsAt hmodule (aggregatorPath_notMem hapart named)
    obtain ⟨hunwired', hnext⟩ := readsAs_of_wires wires hunwired hmid
    exact ih (by rwa [hcwd]) hunwired' hnext

/-- Where no aggregator stands, none comes to stand. -/
theorem absent (h : Delivers c unwired t ps u) (hapart : IsApart t.cwd c)
    (habsent : ∀ content, t.entry? (c.aggregatorPath.place t.cwd) ≠ some (.file content)) :
    ∀ content, u.entry? (c.aggregatorPath.place t.cwd) ≠ some (.file content) := by
  induction h with
  | done => exact habsent
  | step named wrote wires rest ih =>
    have hmodule := putsAt_of_wroteModule wrote
    have hmid := fun content hfile => habsent content
      (hmodule.files _ (aggregatorPath_notMem hapart named) content hfile)
    rw [← hmodule.keeps.cwd] at hmid
    obtain rfl := eq_of_wires_of_absent wires hmid
    rw [hmodule.keeps.cwd] at ih hmid
    exact ih hapart hmid

theorem leaves (h : Delivers c false t ps u) (hapart : IsApart t.cwd c) : Leaves c ps t u :=
  ⟨h.puts, fun _ _ _ => h.written hapart, fun _ => h.wired hapart rfl, h.absent hapart⟩

end Delivers

/-! ## Documents that are kept -/

/-- A tree in which the documents of another one are as they were. -/
def KeepsDocuments (c : Config) (t u : Tree) : Prop :=
  ∃ places, PutsAt places t u ∧ ∀ place ∈ places, ¬c.specsPath.place t.cwd <+: place

namespace KeepsDocuments

variable {c : Config} {t u v : Tree}

theorem refl (c : Config) (t : Tree) : KeepsDocuments c t t :=
  ⟨[], .refl _ _, fun _ hmem => absurd hmem List.not_mem_nil⟩

theorem cwd (h : KeepsDocuments c t u) : u.cwd = t.cwd := by
  obtain ⟨places, hputs, -⟩ := h
  exact hputs.keeps.cwd

theorem trans (h : KeepsDocuments c t u) (h' : KeepsDocuments c u v) : KeepsDocuments c t v := by
  have hcwd := h.cwd
  obtain ⟨places, hputs, hp⟩ := h
  obtain ⟨more, hputs', hp'⟩ := h'
  rw [hcwd] at hp'
  refine ⟨places ++ more, (hputs.weaken (List.subset_append_left _ _)).trans
    (hputs'.weaken (List.subset_append_right _ _)), fun place hplace => ?_⟩
  exact (List.mem_append.1 hplace).elim (hp place) (hp' place)

/-- A document becomes what it would have become at the start. -/
theorem ofDocument (h : KeepsDocuments c t u) {file : FilePath} (hfile : IsListed c t file) :
    Product.ofDocument c u file = Product.ofDocument c t file := by
  refine Product.ofDocument_congr ?_ h.cwd
  obtain ⟨places, hputs, hp⟩ := h
  obtain ⟨place, content, hl, he, hbelow⟩ := hfile.exists_place
  exact Spec.load_of_keeps hputs.keeps hl he fun hmem => hp place hmem hbelow

/-- Writing and wiring a module keeps the documents of a project that is apart. -/
theorem of_step (hapart : IsApart t.cwd c) {p : Product} (hp : p.spec.IsNamed) {mid : Tree}
    {unwired unwired' : Bool} (wrote : Output.WroteModule c p.spec p.text p.manifest t mid)
    (wires : Batch.Wires c p.manifest unwired unwired' mid u) : KeepsDocuments c t u := by
  have hmodule := putsAt_of_wroteModule wrote
  have hwires := putsAt_of_wires wires
  rw [hmodule.keeps.cwd] at hwires
  refine ⟨c.aggregatorPath.place t.cwd :: (p.writes c).map (·.1.place t.cwd),
    (hmodule.weaken (List.subset_cons_self _ _)).trans (hwires.weaken (by simp)),
    fun place hplace => ?_⟩
  rcases List.mem_cons.1 hplace with rfl | hplace
  · exact hapart.aggregator
  · obtain ⟨w, hw, rfl⟩ := List.mem_map.1 hplace
    exact hapart.specs p.spec hp w.1 (List.mem_map_of_mem hw)

end KeepsDocuments

theorem Leaves.keepsDocuments {c : Config} {t u : Tree} {ps : List Product} (h : Leaves c ps t u)
    (hapart : IsApart t.cwd c) (hnamed : ∀ p ∈ ps, p.spec.IsNamed) : KeepsDocuments c t u := by
  refine ⟨_, h.puts, fun place hplace => ?_⟩
  rcases List.mem_cons.1 hplace with rfl | hplace
  · exact hapart.aggregator
  · obtain ⟨w, hw, rfl⟩ := List.mem_map.1 hplace
    obtain ⟨p, hp, hw⟩ := List.mem_flatMap.1 hw
    exact hapart.specs p.spec (hnamed p hp) w.1 (List.mem_map_of_mem hw)

/-- The products of some documents of a tree. -/
def AreProducts (c : Config) (t : Tree) (files : List FilePath) (ps : List Product) : Prop :=
  List.Forall₂ (fun file p => Product.ofDocument c t file = .ok p) files ps

theorem AreProducts.exists_of_mem {c : Config} {t : Tree} {files : List FilePath}
    {ps : List Product} (h : AreProducts c t files ps) {p : Product} (hp : p ∈ ps) :
    ∃ file ∈ files, Product.ofDocument c t file = .ok p := by
  induction h with
  | nil => cases hp
  | cons hfirst _ ih =>
    rcases List.mem_cons.1 hp with rfl | hp
    · exact ⟨_, List.mem_cons_self, hfirst⟩
    · obtain ⟨file, hfile, ho⟩ := ih hp
      exact ⟨file, List.mem_cons_of_mem _ hfile, ho⟩

/-- A batch that goes through all of some documents delivers what they become. -/
theorem Batch.Runs.delivers {c : Config} {t u v : Tree} {unwired : Bool} {files : List FilePath}
    {ms : List Manifest} (h : Batch.Runs c unwired u files ms v) (hapart : IsApart t.cwd c)
    (hk : KeepsDocuments c t u) (hfiles : ∀ file ∈ files, IsListed c t file) :
    ∃ ps, AreProducts c t files ps ∧ ps.map (·.manifest) = ms ∧ Delivers c unwired u ps v := by
  induction h with
  | done => exact ⟨[], .nil, rfl, .done _ _⟩
  | step load render manifest wrote wires rest ih =>
    rename_i file files spec text m ms
    let p : Product := ⟨spec, text, m⟩
    have hproduct : Product.ofDocument c t file = .ok p := by
      rw [← hk.ofDocument (hfiles file List.mem_cons_self)]
      exact Product.ofDocument_eq_ok_iff.2 ⟨load, render, manifest⟩
    have hnamed := Product.isNamed hproduct
    have hnext := hk.trans (.of_step (p := p) (by rwa [hk.cwd]) hnamed wrote wires)
    obtain ⟨ps, hps, hms, hdelivers⟩ :=
      ih hnext fun other hother => hfiles other (List.mem_cons_of_mem _ hother)
    exact ⟨p :: ps, .cons hproduct hps, by rw [List.map_cons, hms], .step hnamed wrote wires hdelivers⟩

/-! ## Small projects -/

/-- A document of a module without routes. -/
def emptyDocument (module version : Text) : Text :=
  "\x7b\"module\":\"" ++ module ++ "\",\"version\":\"" ++ version ++ "\",\"routes\":[]\x7d"

/-- The path of a document in a small project. -/
def smallDocument (name : Text) : FilePath := ⟨1, ["p", "api-builder", "json", name]⟩

def smallConfig : Config := .standard ⟨1, ["p"]⟩

/-- A project with some documents by their names, and with an aggregator. -/
def smallProject (documents : List (Text × Text)) (aggregator : Text) : Tree where
  cwd := ⟨1, ["p"]⟩
  entries :=
    let directories : List (List Text) :=
      [["p"], ["p", "api-builder"], ["p", "api-builder", "json"], ["p", "src"]]
    let files : List (List Text × Text) := (["p", "src", "index.ts"], aggregator) ::
      documents.map fun d => ((smallDocument d.1).parts, d.2)
    directories.map (fun place => (place, Entry.directory)) ++
      files.map fun f => (f.1, Entry.file (f.2.encode?.getD ByteArray.empty))

section Small

variable {documents : List (Text × Text)} {aggregator : Text}

theorem names_smallProject (h : (documents.map (·.1)).Pairwise fun name other => Text.le name other) :
    (smallProject documents aggregator).names ["p", "api-builder", "json"] =
      documents.map (·.1) := by
  refine names_of_pairwise ?_ h
  simp [smallProject, smallDocument, List.filterMap_map, List.isPrefixOf?, Function.comp_def]

/-- Documents in order are found in a small project. -/
theorem filesIn_smallProject
    (hl : (smallProject documents aggregator).locate smallConfig.specsPath =
      .ok ["p", "api-builder", "json"])
    (hs : (documents.map (·.1)).Pairwise fun name other => Text.le name other)
    (hf : (documents.map (smallDocument ·.1)).filterM (smallProject documents aggregator).isFile =
      .ok (documents.map (smallDocument ·.1)))
    (hsuffix : ∀ d ∈ documents, Spec.hasSuffix smallConfig.specExtensions (smallDocument d.1)) :
    Spec.filesIn (smallProject documents aggregator) smallConfig.specsPath
      smallConfig.specExtensions = .ok (documents.map (smallDocument ·.1)) := by
  have hd : (smallProject documents aggregator).isDirectory smallConfig.specsPath = .ok true :=
    isDirectory_eq_ok_true_iff.2 ⟨_, hl, by simp [smallProject, entry?, List.lookup_cons]⟩
  have hmap : (documents.map (·.1)).map (fun name => smallConfig.specsPath.append ⟨0, [name]⟩) =
      documents.map (smallDocument ·.1) := by
    rw [List.map_map]
    rfl
  rw [← hmap] at hf
  rw [Spec.filesIn_of_names hd hl (names_smallProject hs) hf, hmap, List.filter_eq_self.2]
  intro file hfile
  obtain ⟨d, hd, rfl⟩ := List.mem_map.1 hfile
  exact hsuffix d hd

end Small

end Routewright
