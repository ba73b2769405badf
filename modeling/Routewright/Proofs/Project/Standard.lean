/-
What generating does to a project that sets nothing. Everything that is written stands below the
output root, the aggregator aside, so the documents are read as they were at the start, and below the
output root nothing is found but modules and manifests, which have names that lead there and texts
that can be read.
-/
import Routewright.Proofs.Aggregator.Upsert
import Routewright.Proofs.Module.Places
import Routewright.Proofs.Project.Clean

namespace Routewright

open Routewright.Tree
open Files (Made)
open Run (Wrote)

/-! ## Places -/

/-- The place of the output root below that of the root. -/
def outputPlace (top : List Text) : List Text := top ++ (["src", "builder"] : List Text)

/-- The place of the aggregator below that of the root. -/
def aggregatorPlace (top : List Text) : List Text := top ++ (["src", "index.ts"] : List Text)

theorem not_outputPlace_below (top : List Text) : ¬outputPlace top <+: aggregatorPlace top := by
  rw [outputPlace, aggregatorPlace, List.prefix_append_right_inj]
  decide

theorem ne_aggregatorPlace {top way : List Text} : outputPlace top ++ way ≠ aggregatorPlace top :=
  fun h => not_outputPlace_below top ⟨way, h⟩

/-- A tree before generating: the root stands at a place, with its source directory in it, and nothing
stands below the output root. -/
structure IsStart (project : FilePath) (top : List Text) (t : Tree) : Prop where
  root : t.follow [] (t.cwd.append project).parts = .ok top
  base : t.entry? top = some .directory
  source : t.entry? (top ++ (["src"] : List Text)) = some .directory
  vacant : t.waysBelow (outputPlace top) = []

theorem isPlainName_src : IsPlainName "src" := ⟨by decide, by decide⟩

theorem isPlainName_builder : IsPlainName "builder" := ⟨by decide, by decide⟩

theorem isPlainName_index : IsPlainName "index.ts" := ⟨by decide, by decide⟩

theorem isPlainName_down {names : List Text} (hn : ∀ name ∈ names, IsPlainName name) :
    ∀ name ∈ ("src" : Text) :: ("builder" : Text) :: names, IsPlainName name := by
  intro name hname
  rcases List.mem_cons.1 hname with rfl | hname
  · exact isPlainName_src
  · rcases List.mem_cons.1 hname with rfl | hname
    · exact isPlainName_builder
    · exact hn name hname

section Start

variable {root : FilePath} {top : List Text} {t : Tree}

/-- Where an aggregator is read, the root and its source directory are. -/
theorem exists_isStart {content : ByteArray}
    (hread : t.read (Config.standard root).aggregatorPath = .ok content)
    (hvacant : ∀ place, t.locate (Config.standard root).outputPath = .ok place →
      t.waysBelow place = []) (hfault : (Config.standard root).outputPath.fault? = none) :
    ∃ top, IsStart root top t ∧
      t.locate (Config.standard root).aggregatorPath = .ok (aggregatorPlace top) ∧
        t.locate (Config.standard root).outputPath = .ok (outputPlace top) ∧
          t.entry? (aggregatorPlace top) = some (.file content) := by
  -- the way to the aggregator passes the root and the source directory
  obtain ⟨place, hl, hentry⟩ := read_eq_ok_iff.1 hread
  obtain ⟨hfaultless, hf⟩ := locate_eq_ok_iff.1 hl
  rw [Config.aggregatorPath_standard, FilePath.parts_append_relative] at hf
  obtain ⟨top, htop, hf⟩ := follow_append_eq_ok_iff.1 hf
  obtain ⟨hbase, hshort, hf⟩ := (follow_cons_iff isPlainName_src).1 hf
  obtain ⟨hsource, -, hf⟩ := (follow_cons_iff isPlainName_index).1 hf
  obtain rfl : aggregatorPlace top = place := by
    rw [← Except.ok.inj hf, aggregatorPlace, List.append_assoc]
    rfl
  have hout : t.locate (Config.standard root).outputPath = .ok (outputPlace top) := by
    refine locate_eq_ok_iff.2 ⟨hfault, ?_⟩
    rw [Config.outputPath_standard, FilePath.parts_append_relative, follow_append, htop]
    refine (follow_cons_iff isPlainName_src).2 ⟨hbase, hshort, ?_⟩
    refine (follow_cons_iff isPlainName_builder).2 ⟨hsource, by decide +kernel, ?_⟩
    rw [follow, outputPlace, List.append_assoc]
    rfl
  exact ⟨top, ⟨htop, hbase, hsource, hvacant _ hout⟩, hl, hout, hentry⟩

variable (h : IsStart root top t) {u : Tree} {aside : List (List Text)} (hk : Keeps aside t u)
include h

theorem IsStart.entry?_eq_none (name : Text) (rest : List Text) :
    t.entry? (outputPlace top ++ name :: rest) = none := by
  refine Option.eq_none_iff_forall_ne_some.2 fun e he => ?_
  have hmem := mem_entries (by simp) he
  exact waysBelow_eq_nil_iff.1 h.vacant _ hmem name rest rfl

include hk

/-- From the root plain names lead straight down. -/
theorem IsStart.follow_eq {names q : List Text} (hn : ∀ name ∈ names, IsPlainName name)
    (hf : u.follow [] (u.cwd.append (root.append ⟨0, names⟩)).parts = .ok q) :
    q = top ++ names ∧ u.follow top names = .ok q := by
  rw [FilePath.parts_append_relative, follow_append, hk.cwd, hk.follow h.root] at hf
  exact ⟨follow_eq_append hn hf, hf⟩

/-- What is found below the output root on the way to a path is named on that path. -/
theorem IsStart.below {names : List Text} (hn : ∀ name ∈ names, IsPlainName name)
    {q : FilePath} (hq : q.IsAbove (root.append ⟨0, ("src" : Text) :: ("builder" : Text) :: names⟩))
    {name : Text} {rest : List Text} (hl : u.locate q = .ok (outputPlace top ++ name :: rest)) :
    name :: rest <+: names ∧ q = (Config.standard root).outputPath.append ⟨0, name :: rest⟩ := by
  obtain ⟨-, hf⟩ := locate_eq_ok_iff.1 hl
  obtain ⟨slashes, parts⟩ := q
  obtain ⟨rfl, hparts⟩ := hq
  dsimp only [FilePath.append_relative] at hparts hf
  rcases List.prefix_or_prefix_of_prefix hparts (List.prefix_append _ _) with ⟨more, hmore⟩ | hdown
  · -- above the root nothing new is found, for the way there was followed before
    exfalso
    have hroot : root = FilePath.append ⟨root.slashes, parts⟩ ⟨0, more⟩ := by
      rw [FilePath.append_relative, hmore]
    have htop := h.root
    rw [hroot, FilePath.parts_append_relative] at htop
    obtain ⟨mid, hmid, hrest⟩ := follow_append_eq_ok_iff.1 htop
    rw [hk.cwd] at hf
    obtain rfl := Except.ok.inj ((hk.follow hmid).symm.trans hf)
    have hd : t.entry? (outputPlace top ++ name :: rest) = some .directory := by
      cases more with
      | nil =>
        rw [Except.ok.inj hrest]
        exact h.base
      | cons part more => exact isDirectory_of_follow hrest
    rw [h.entry?_eq_none] at hd
    cases hd
  · -- below the root the path goes straight down
    obtain ⟨way, rfl⟩ := hdown
    rw [List.prefix_append_right_inj] at hparts
    have hway : ∀ part ∈ way, IsPlainName part := fun part hpart =>
      isPlainName_down hn part (hparts.subset hpart)
    have hplace := (h.follow_eq hk hway hf).1
    have heq : ("src" : Text) :: ("builder" : Text) :: name :: rest = way := by
      rw [outputPlace, List.append_assoc] at hplace
      exact List.append_cancel_left hplace
    subst heq
    refine ⟨?_, ?_⟩
    · rwa [List.prefix_cons_inj, List.prefix_cons_inj] at hparts
    · rw [Config.outputPath_standard]
      simp [FilePath.append_relative]

/-- Something that is found below the output root, on the way to a path that leads there, can be
removed by the name that it or what it stands in has in the output root. -/
theorem IsStart.isTop {names : List Text} (hn : ∀ name ∈ names, IsPlainName name)
    {q : FilePath} (hq : q.IsAbove (root.append ⟨0, ("src" : Text) :: ("builder" : Text) :: names⟩))
    {name : Text} {rest : List Text} (hl : u.locate q = .ok (outputPlace top ++ name :: rest)) :
    (∀ part ∈ name :: rest, IsPlainName part) ∧ IsTop (.standard root) name ∧
      (rest ≠ [] → u.entry? (outputPlace top ++ [name]) = some .directory) := by
  obtain ⟨hstart, rfl⟩ := h.below hk hn hq hl
  have hplain : ∀ part ∈ name :: rest, IsPlainName part := fun part hp => hn part (hstart.subset hp)
  obtain ⟨hfault, hf⟩ := locate_eq_ok_iff.1 hl
  have hfaultless : ((Config.standard root).outputPath.append ⟨0, [name]⟩).fault? = none := by
    have hsplit : (Config.standard root).outputPath.append ⟨0, name :: rest⟩ =
        ((Config.standard root).outputPath.append ⟨0, [name]⟩).append ⟨0, rest⟩ := by
      rw [FilePath.append_append_relative]
      rfl
    rw [hsplit] at hfault
    exact FilePath.fault?_of_append hfault
  have hpath : (Config.standard root).outputPath.append ⟨0, name :: rest⟩ =
      root.append ⟨0, ("src" : Text) :: ("builder" : Text) :: name :: rest⟩ := by
    simp [Config.outputPath_standard, FilePath.append_relative]
  rw [hpath] at hf
  have hf' := (h.follow_eq hk (isPlainName_down hplain) hf).2
  obtain ⟨-, -, hf'⟩ := (follow_cons_iff isPlainName_src).1 hf'
  obtain ⟨-, -, hf'⟩ := (follow_cons_iff isPlainName_builder).1 hf'
  have hname := hplain name List.mem_cons_self
  obtain ⟨-, hshort, hf'⟩ := (follow_cons_iff hname).1 hf'
  refine ⟨hplain, ⟨hname, hshort, hfaultless⟩, fun hrest => ?_⟩
  obtain ⟨part, rest, rfl⟩ := List.exists_cons_of_ne_nil hrest
  have hplace : outputPlace top ++ [name] = top ++ [Text.ofString "src"] ++
      [Text.ofString "builder"] ++ [name] := by simp [outputPlace]
  rw [hplace]
  exact isDirectory_of_follow hf'

end Start

/-! ## What stands below the output root -/

/-- Something that can stand below the output root of a tree: it has plain names all the way, it can
be removed, and if it is a file it holds a text. -/
structure IsMade (root : FilePath) (top : List Text) (t : Tree) (name : Text) (rest : List Text)
    (e : Entry) : Prop where
  plain : ∀ part ∈ name :: rest, IsPlainName part
  removable : IsTop (.standard root) name
  listed : name ∈ t.names (outputPlace top)
  text : ∀ content, e = .file content → ∃ text, Text.decode? content = some text

/-- What generating has come to from a tree: it has kept what was there, the aggregator aside, and
what stands below the output root has been made by it. -/
structure IsGenerated (root : FilePath) (top : List Text) (t u : Tree) : Prop where
  keeps : Keeps [aggregatorPlace top] t u
  made : ∀ x ∈ u.entries, ∀ name rest, x.1 = outputPlace top ++ name :: rest →
    IsMade root top u name rest x.2

theorem IsGenerated.refl {root : FilePath} {top : List Text} {t : Tree} (h : IsStart root top t) :
    IsGenerated root top t t :=
  ⟨.refl _ _, fun x hx name rest hx' => absurd hx' (waysBelow_eq_nil_iff.1 h.vacant x hx name rest)⟩

/-- A step that adds directories on the way to a path below the output root, and files there that
hold texts. -/
structure Adds (root : FilePath) (top names : List Text) (aside : List (List Text)) (u v : Tree) :
    Prop where
  keeps : Keeps aside u v
  there : ∀ place ∈ aside, ∃ e, v.entry? place = some e
  plain : ∀ name ∈ names, IsPlainName name
  adds : ∀ x ∈ v.entries, x ∈ u.entries ∨ x.1 = aggregatorPlace top ∨
    (∀ content, x.2 = .file content → ∃ text, Text.decode? content = some text) ∧
      ∃ q, q.IsAbove (root.append ⟨0, ("src" : Text) :: ("builder" : Text) :: names⟩) ∧
        v.locate q = .ok x.1

theorem mem_names_of_keeps {aside : List (List Text)} {u v : Tree} (hk : Keeps aside u v)
    (hthere : ∀ place ∈ aside, ∃ e, v.entry? place = some e) {place : List Text} {name : Text}
    (h : name ∈ u.names place) : name ∈ v.names place := by
  obtain ⟨e, he⟩ := mem_names.1 h
  obtain ⟨e', he'⟩ := exists_entry?_of_mem he
  have hv : ∃ e, v.entry? (place ++ [name]) = some e := by
    by_cases ha : place ++ [name] ∈ aside
    · exact hthere _ ha
    · exact ⟨e', hk.entry _ ha e' he'⟩
  obtain ⟨e'', he''⟩ := hv
  exact mem_names.2 ⟨e'', mem_entries (by simp) he''⟩

theorem IsGenerated.adds {root : FilePath} {top names : List Text} {aside : List (List Text)}
    {t u v : Tree} (h : IsStart root top t) (hg : IsGenerated root top t u)
    (ha : Adds root top names aside u v)
    (haside : ∀ place ∈ aside, place ∈ [aggregatorPlace top] ∨ t.entry? place = none) :
    IsGenerated root top t v := by
  have hk := hg.keeps.trans ha.keeps haside
  refine ⟨hk, fun x hx name rest hx' => ?_⟩
  rcases ha.adds x hx with hold | hagg | ⟨htext, q, hq, hl⟩
  · -- what was made before is still listed
    have hmade := hg.made x hold name rest hx'
    exact ⟨hmade.plain, hmade.removable, mem_names_of_keeps ha.keeps ha.there hmade.listed, hmade.text⟩
  · exact absurd (hx'.symm.trans hagg) ne_aggregatorPlace
  · rw [hx'] at hl
    obtain ⟨hplain, htop, hdir⟩ := h.isTop hk ha.plain hq hl
    refine ⟨hplain, htop, ?_, htext⟩
    cases rest with
    | nil => exact mem_names.2 ⟨x.2, by rw [← hx']; exact hx⟩
    | cons part rest =>
      have hd := hdir (List.cons_ne_nil _ _)
      exact mem_names.2 ⟨.directory, mem_entries (by simp) hd⟩

/-! ## Steps -/

section Steps

variable {root : FilePath} {top : List Text} {t u v : Tree} (h : IsStart root top t)
  (hg : IsGenerated root top t u)

theorem adds_of_made {names : List Text} (hn : ∀ name ∈ names, IsPlainName name) {p : FilePath}
    (hp : p = root.append ⟨0, ("src" : Text) :: ("builder" : Text) :: names⟩) (hm : Made p u v) :
    Adds root top names [] u v := by
  subst hp
  refine ⟨hm.keeps, fun _ hmem => absurd hmem List.not_mem_nil, hn, fun x hx => ?_⟩
  rcases hm.adds x hx with hold | ⟨hd, q, hq, hl⟩
  · exact .inl hold
  · refine .inr (.inr ⟨fun content hc => ?_, q, hq, hl⟩)
    rw [hd] at hc
    cases hc

theorem adds_of_wrote {names : List Text} (hn : ∀ name ∈ names, IsPlainName name) {p : FilePath}
    (hp : p = root.append ⟨0, ("src" : Text) :: ("builder" : Text) :: names⟩)
    {text : Text} {content : ByteArray} {place : List Text} (hc : Text.encode? text = some content)
    (hw : Wrote p content place u v) : Adds root top names [place] u v := by
  subst hp
  refine ⟨hw.keeps, fun other hother => ?_, hn, fun x hx => ?_⟩
  · rw [List.mem_singleton.1 hother]
    exact ⟨_, hw.entry⟩
  · rcases hw.adds x hx with hold | rfl | ⟨hd, q, hq, hl⟩
    · exact .inl hold
    · refine .inr (.inr ⟨fun content' hc' => ?_, _, .refl _, hw.located⟩)
      cases hc'
      exact ⟨text, Text.decode?_eq_some_iff.2 hc⟩
    · refine .inr (.inr ⟨fun content' hc' => ?_, q, hq.trans (FilePath.parent_isAbove _), hl⟩)
      rw [hd] at hc'
      cases hc'

theorem adds_of_wrote_aggregator {content : ByteArray}
    (hw : Wrote (Config.standard root).aggregatorPath content (aggregatorPlace top) u v) :
    Adds root top [] [aggregatorPlace top] u v := by
  have hparent : (Config.standard root).aggregatorPath.parent.IsAbove
      (root.append ⟨0, (["src", "builder"] : List Text)⟩) := by
    rw [Config.parent_aggregatorPath]
    exact ⟨rfl, (List.prefix_append_right_inj _).2 (by decide)⟩
  refine ⟨hw.keeps, fun other hother => ?_, by simp, fun x hx => ?_⟩
  · rw [List.mem_singleton.1 hother]
    exact ⟨_, hw.entry⟩
  · rcases hw.adds x hx with hold | rfl | ⟨hd, q, hq, hl⟩
    · exact .inl hold
    · exact .inr (.inl rfl)
    · refine .inr (.inr ⟨fun content' hc' => ?_, q, hq.trans hparent, hl⟩)
      rw [hd] at hc'
      cases hc'

include h hg

/-- A path below the output root is a new place. -/
theorem IsGenerated.place_of_wrote {name : Text} {rest : List Text}
    (hn : ∀ part ∈ name :: rest, IsPlainName part) {p : FilePath}
    (hp : p = root.append ⟨0, ("src" : Text) :: ("builder" : Text) :: name :: rest⟩)
    {content : ByteArray} {place : List Text} (hw : Wrote p content place u v) :
    place = outputPlace top ++ name :: rest ∧ t.entry? place = none := by
  have hk : Keeps [aggregatorPlace top, place] t v := by
    refine (hg.keeps.weaken fun _ hmem => ?_).trans hw.keeps fun other hother => .inl ?_
    · rw [List.mem_singleton.1 hmem]
      exact List.mem_cons_self
    · rw [List.mem_singleton.1 hother]
      exact List.mem_cons_of_mem _ List.mem_cons_self
  obtain ⟨-, hf⟩ := locate_eq_ok_iff.1 hw.located
  rw [hp] at hf
  have hplace : place = outputPlace top ++ name :: rest := by
    rw [(h.follow_eq hk (isPlainName_down hn) hf).1, outputPlace, List.append_assoc]
    rfl
  exact ⟨hplace, by rw [hplace, h.entry?_eq_none]⟩

theorem IsGenerated.wroteFile {name : Text} {rest : List Text}
    (hn : ∀ part ∈ name :: rest, IsPlainName part) {p : FilePath}
    (hp : p = root.append ⟨0, ("src" : Text) :: ("builder" : Text) :: name :: rest⟩)
    {text : Text} {content : ByteArray} {place : List Text} (hc : Text.encode? text = some content)
    (hw : Wrote p content place u v) : IsGenerated root top t v ∧
      ∀ e, u.entry? (aggregatorPlace top) = some e → v.entry? (aggregatorPlace top) = some e := by
  obtain ⟨hplace, hnone⟩ := hg.place_of_wrote h hn hp hw
  refine ⟨hg.adds h (adds_of_wrote hn hp hc hw) fun other hother => .inr ?_, ?_⟩
  · rw [List.mem_singleton.1 hother, hnone]
  · refine hw.keeps.entry _ fun hmem => ?_
    rw [hplace] at hmem
    exact ne_aggregatorPlace (List.mem_singleton.1 hmem).symm

/-- A module is written below the output root, which is there then, and nowhere else. -/
theorem IsGenerated.wroteModule {spec : Spec} (hs : spec.IsNamed) {text : Text} {m : Manifest}
    (hw : Output.WroteModule (.standard root) spec text m u v) : IsGenerated root top t v ∧
      v.entry? (outputPlace top) = some .directory ∧
        ∀ text, HoldsText (aggregatorPlace top) text u → HoldsText (aggregatorPlace top) text v := by
  obtain ⟨first, second, content, place, manifest, manifestPlace, hmade, hcontent, hmodule,
    hmanifest, hwrote⟩ := hw.steps
  have hdir : ∀ part ∈ [spec.module, spec.version], IsPlainName part := by
    simp [hs.module.isPlainName, hs.version.isPlainName]
  have hfile : ∀ last : Text, (∀ c ∈ last, c.val < 128) →
      ∀ part ∈ [spec.module, spec.version, Module.fileOf spec last], IsPlainName part := by
    intro last hl
    simp [hs.module.isPlainName, hs.version.isPlainName, Module.isPlainName_fileOf hs hl]
  have hg₁ : IsGenerated root top t first :=
    hg.adds h (adds_of_made hdir (Module.directory_standard root hs) hmade)
      fun _ hmem => absurd hmem List.not_mem_nil
  obtain ⟨hg₂, hagg₂⟩ := hg₁.wroteFile h (hfile _ (by decide))
    (Module.modulePath_standard root hs) hcontent hmodule
  obtain ⟨hg₃, hagg₃⟩ := hg₂.wroteFile h (hfile _ (by decide))
    (Module.manifestPath_standard root hs) hmanifest hwrote
  -- the output root is passed on the way to the directory that was made
  obtain ⟨place, hl, -⟩ := isDirectory_eq_ok_true_iff.1 hmade.made
  obtain ⟨-, hf⟩ := locate_eq_ok_iff.1 hl
  rw [Module.directory_standard root hs] at hf
  have hf' := (h.follow_eq hg₁.keeps (isPlainName_down hdir) hf).2
  obtain ⟨-, -, hf'⟩ := (follow_cons_iff isPlainName_src).1 hf'
  obtain ⟨-, -, hf'⟩ := (follow_cons_iff isPlainName_builder).1 hf'
  have hd := isDirectory_of_follow hf'
  rw [List.append_assoc] at hd
  refine ⟨hg₃, hwrote.keeps.directory _ (hmodule.keeps.directory _ hd), ?_⟩
  rintro text ⟨content, hentry, hdecode⟩
  have hentry₁ := hmade.keeps.entry _ List.not_mem_nil _ hentry
  exact ⟨content, hagg₃ _ (hagg₂ _ hentry₁), hdecode⟩

/-- Adding a module leaves the text with the module in it, and has found out whether the aggregator
can be written. -/
theorem IsGenerated.added
    (hl : t.locate (Config.standard root).aggregatorPath = .ok (aggregatorPlace top))
    {text : Text} (ht : HoldsText (aggregatorPlace top) text u) {m : Manifest}
    (ha : Wiring.Added (.standard root) m u v) : IsGenerated root top t v ∧
      (∀ place, u.entry? place = some .directory → v.entry? place = some .directory) ∧
        HoldsText (aggregatorPlace top) (Aggregator.upsert text m).text v ∧
          ((Aggregator.upsert text m).text ≠ text →
            (Files.draftPath (Config.standard root).aggregatorPath).fault? = none) := by
  obtain ⟨content, text', hread, hdecode, hcases⟩ := ha
  have hlu := hg.keeps.locate hl
  -- the text that was read is the one that the tree holds
  obtain rfl : text' = text := by
    obtain ⟨content', hentry, hdecode'⟩ := ht
    have hread' := read_eq_ok_iff.2 ⟨_, hlu, hentry⟩
    rw [hread] at hread'
    obtain rfl := Except.ok.inj hread'
    exact Option.some.inj (hdecode.symm.trans hdecode')
  rcases hcases with ⟨hsame, rfl⟩ | ⟨content', place, hencode, hwrote⟩
  · rw [hsame]
    exact ⟨hg, fun _ hd => hd, ht, fun hne => absurd rfl hne⟩
  · have hplace : place = aggregatorPlace top := by
      have hlv := hwrote.keeps.locate hlu
      exact Except.ok.inj (hwrote.located.symm.trans hlv)
    subst hplace
    obtain ⟨draft, hdraft⟩ := hwrote.drafted
    exact ⟨hg.adds h (adds_of_wrote_aggregator hwrote) fun _ hmem => .inl hmem,
      hwrote.keeps.directory, ⟨content', hwrote.entry, Text.decode?_eq_some_iff.2 hencode⟩,
      fun _ => (locate_eq_ok_iff.1 hdraft).1⟩

end Steps

end Routewright
