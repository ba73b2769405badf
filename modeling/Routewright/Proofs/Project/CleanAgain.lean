/-
Cleaning a project that has been cleaned. A clean run leaves a tree with less in it, so whatever it
could ask of the tree can still be asked; the output root is bare, and the aggregator has no import
left that is taken for a generated one, for no line becomes an import by taking a semicolon over.
A project like that is settled: cleaning it removes nothing and writes nothing.
-/
import Routewright.Proofs.Aggregator.Repeat
import Routewright.Proofs.Project.Apart
import Routewright.Proofs.Project.Thins

namespace Routewright

open Routewright.Tree

/-! ## Manifests that are gone -/

namespace Aggregator

/-- What is taken for generated without any manifest is with some. -/
theorem acceptance_of_nil {cwd : FilePath} {c : Config} (ms : List Manifest) (name path : Text)
    (h : acceptance cwd c [] name path) : acceptance cwd c ms name path := by
  unfold acceptance matcher at h ⊢
  cases hmode : c.cleanMatch with
  | manifest => rw [hmode] at h; cases h
  | outputRoot => rw [hmode] at h; exact h
  | both =>
    -- there is no manifest to go by, so the place of the import decides
    rw [hmode] at h
    have hplace : outputMatcher cwd c ⟨name, path, 0⟩ = true := by
      simpa [manifestMatcher] using h
    dsimp only
    rw [hplace, Bool.or_true]

end Aggregator

/-! ## Settled projects -/

/-- An output root that is no directory, or holds nothing. -/
def IsBare (c : Config) (t : Tree) : Prop :=
  t.isDirectory c.outputPath = .ok false ∨
    t.isDirectory c.outputPath = .ok true ∧ Output.topPaths c t = []

/-- An aggregator that is missing, or has no import that is taken for a generated one while there
are no manifests. -/
def IsUnwired (c : Config) (t : Tree) : Prop :=
  t.isFile c.aggregatorPath = .ok false ∨
    ∃ place text, t.locate c.aggregatorPath = .ok place ∧ HoldsText place text t ∧
      ∀ line ∈ text.lines, Aggregator.isTarget (Aggregator.acceptance t.cwd c []) line = false

theorem IsBare.thins {c : Config} {t u : Tree} (ht : IsBare c t) (h : Thins t u) : IsBare c u := by
  have hasked : ∃ b, u.isDirectory c.outputPath = .ok b := by
    rcases ht with ht | ⟨ht, -⟩ <;> exact h.asks ht
  obtain ⟨b, hb⟩ := hasked
  cases b with
  | false => exact .inl hb
  | true =>
    -- the directory is the one that held nothing before
    obtain ⟨place, hl, hd⟩ := isDirectory_eq_ok_true_iff.1 hb
    have hl' := h.locate hl
    have htrue : t.isDirectory c.outputPath = .ok true :=
      isDirectory_eq_ok_true_iff.2 ⟨place, hl', h.directory hd⟩
    rcases ht with ht | ⟨-, ht⟩
    · rw [htrue] at ht
      cases ht
    · refine .inr ⟨hb, ?_⟩
      rw [Output.topPaths, hl'] at ht
      rw [Output.topPaths, hl]
      exact List.map_eq_nil_iff.2 (h.names_eq_nil (List.map_eq_nil_iff.1 ht))

namespace Output

variable {c : Config} {s s' : Session}

/-! ## What a clean run does to the output root -/

theorem readManifests_ok {ms : List Manifest} (h : readManifests c s = .ok ms s') :
    s'.tree = s.tree := by
  unfold readManifests at h
  obtain ⟨b, mid, hask, hread⟩ := Run.bind_ok h
  rw [(Run.ask_ok hask).2] at hread
  split at hread
  · rw [Run.bind_of_ok (Run.tree_eq s)] at hread
    obtain ⟨-, -, rfl⟩ := readAll_ok hread
    rfl
  · rw [(Run.pure_ok hread).2]

/-- Whatever is removed by a plain name goes from where the output root leads. -/
theorem forM_remove_ok {names : List Text} (hplain : ∀ name ∈ names, IsPlainName name)
    (h : (names.map fun name => c.outputPath.append ⟨0, [name]⟩).forM
      (fun p => Run.files (removeStop p) (Files.remove p)) s = .ok () s') :
    s'.tree = eraseAll (c.outputPath.place s.tree.cwd) names s.tree := by
  induction names generalizing s with
  | nil => rw [(Run.pure_ok h).2]; rfl
  | cons name names ih =>
    have hname := hplain name List.mem_cons_self
    obtain ⟨_, mid, hremove, hrest⟩ := Run.bind_ok h
    have hmid : mid.tree = s.tree.erase (c.outputPath.place s.tree.cwd ++ [name]) := by
      obtain ⟨place, hl, htree⟩ := Files.remove_ok (Run.files_ok hremove)
      rw [htree, eq_place_of_locate hl, FilePath.place_append (by simpa using hname.down),
        List.map_singleton, hname.listed]
    have hcwd : mid.tree.cwd = s.tree.cwd := by rw [hmid]; rfl
    rw [ih (fun n hn => hplain n (List.mem_cons_of_mem _ hn)) hrest, hcwd, hmid]
    rfl

/-- A clean run leaves the output root bare. -/
theorem removeAll_ok {paths : List FilePath} (hplain : s.tree.HasPlainNames)
    (h : removeAll c s = .ok paths s') : Thins s.tree s'.tree ∧ IsBare c s'.tree := by
  unfold removeAll at h
  obtain ⟨b, mid, hask, hrun⟩ := Run.bind_ok h
  obtain ⟨hb, hmid⟩ := Run.ask_ok hask
  rw [hmid] at hrun
  cases b with
  | false =>
    rw [(Run.pure_ok hrun).2]
    exact ⟨.refl _, .inl hb⟩
  | true =>
    rw [if_pos rfl, Run.bind_of_ok (Run.tree_eq s)] at hrun
    obtain ⟨_, last, hremove, hlast⟩ := Run.bind_ok hrun
    rw [(Run.pure_ok hlast).2]
    obtain ⟨place, hl, hd⟩ := isDirectory_eq_ok_true_iff.1 hb
    have hplace := eq_place_of_locate hl
    rw [topPaths, hl] at hremove
    have htree := forM_remove_ok (fun name hname => by
      obtain ⟨e, he⟩ := mem_names.1 hname
      exact hplain _ he name (by simp)) hremove
    rw [← hplace] at htree
    have hthins : Thins _ last.tree := htree ▸ thins_eraseAll _ place _
    refine ⟨hthins, ?_⟩
    obtain ⟨b, hb'⟩ := hthins.asks hb
    cases b with
    | false => exact .inl hb'
    | true =>
      refine .inr ⟨hb', ?_⟩
      obtain ⟨place', hl', -⟩ := isDirectory_eq_ok_true_iff.1 hb'
      -- a path leads to one place, in the fuller tree too
      have hsame := hthins.locate hl'
      rw [hl] at hsame
      obtain rfl := Except.ok.inj hsame
      rw [topPaths, hl', htree]
      exact List.map_eq_nil_iff.2 (names_eraseAll _ place)

/-! ## What a settled output root gives -/

/-- Nothing can be read below a place that holds nothing. -/
theorem read_ne_ok_of_names_eq_nil {t : Tree} {place way : List Text} (hplain : t.HasPlainNames)
    (hl : t.locate c.outputPath = .ok place) (hnames : t.names place = [])
    (hway : way ∈ t.waysBelow place) (content : ByteArray) :
    t.read (c.outputPath.append ⟨0, way⟩) ≠ .ok content := by
  intro hread
  obtain ⟨x, hx, name, rest, hx', rfl⟩ := mem_waysBelow.1 hway
  have hplainWay : ∀ n ∈ name :: rest, IsPlainName n := fun n hn =>
    hplain x hx n (by rw [hx']; exact List.mem_append_right _ hn)
  have hnone : ∀ e, t.entry? (place ++ [name]) ≠ some e := by
    intro e he
    have hmem := mem_names.2 ⟨e, mem_entries (by simp) he⟩
    rw [hnames] at hmem
    cases hmem
  obtain ⟨q, hq, hentry⟩ := read_eq_ok_iff.1 hread
  have hf := (locate_eq_ok_iff.1 hq).2
  rw [FilePath.parts_append_relative, follow_append, (locate_eq_ok_iff.1 hl).2] at hf
  obtain ⟨-, -, hf⟩ := (follow_cons_iff (hplainWay name List.mem_cons_self)).1 hf
  cases rest with
  | nil =>
    obtain rfl := Except.ok.inj hf
    exact hnone _ hentry
  | cons next rest => exact hnone _ (isDirectory_of_follow hf)

theorem readManifests_of_isBare (hplain : s.tree.HasPlainNames) (h : IsBare c s.tree) :
    ∃ log, readManifests c s = .ok [] { s with log := log } := by
  unfold readManifests
  rcases h with h | ⟨h, htop⟩
  · rw [Run.bind_of_ok (Run.ask_of_ok h _)]
    exact ⟨s.log, rfl⟩
  · rw [Run.bind_of_ok (Run.ask_of_ok h _), if_pos rfl, Run.bind_of_ok (Run.tree_eq s)]
    obtain ⟨place, hl, -⟩ := isDirectory_eq_ok_true_iff.1 h
    rw [topPaths, hl] at htop
    have hnone : ∀ p ∈ manifestPaths c s.tree, ∀ content, s.tree.read p ≠ .ok content := by
      intro p hp
      rw [manifestPaths, hl] at hp
      obtain ⟨way, hway, rfl⟩ := List.mem_map.1 hp
      exact read_ne_ok_of_names_eq_nil hplain hl (List.map_eq_nil_iff.1 htop)
        (List.mem_filter.1 hway).1
    have hread := readAll_of_texts (c := c) fun p hp content h => absurd h (hnone p hp content)
    rw [manifestsAt_of_unreadable hnone] at hread
    exact ⟨_, hread⟩

theorem removeAll_of_isBare (h : IsBare c s.tree) : removeAll c s = .ok [] s := by
  unfold removeAll
  rcases h with h | ⟨h, htop⟩
  · rw [Run.bind_of_ok (Run.ask_of_ok h _)]
    rfl
  · rw [Run.bind_of_ok (Run.ask_of_ok h _), if_pos rfl, Run.bind_of_ok (Run.tree_eq s), htop]
    rfl

end Output

/-! ## What a clean run does to the aggregator -/

namespace Wiring

open Aggregator

variable {c : Config} {ms : List Manifest} {s s' : Session}

/-- Only a missing aggregator is told as missing, and nothing is written then. -/
theorem removeAll_noAggregator {name : Text}
    (h : removeAll c ms s = .error (.failure (.noAggregator name)) s') :
    s.tree.isFile c.aggregatorPath = .ok false ∧ s' = s := by
  rcases Run.bind_error h with hread | ⟨text, s₁, hread, -⟩
  · exact read_noAggregator hread
  · -- once the aggregator has been read, only writing it can fail
    exfalso
    obtain ⟨log, hrun⟩ := removeAll_of_read ((read_ok hread).1 ▸ hread) ms rfl
    rw [hrun] at h
    split at h
    · rcases Run.bind_error h with hwrite | ⟨_, s₂, -, h₂⟩
      · rcases Run.write_error hwrite with ⟨fault, hfault⟩ | ⟨-, hfault⟩
        · refine absurd hfault.symm (not_noAggregator_of_fileStop ?_)
          intro hstop
          cases hstop
        · cases hfault
      · cases h₂
    · cases h

/-- The aggregator is left as the text that a removal makes of it, and nothing else changes. -/
theorem removeAll_ok {r : Removal} (h : removeAll c ms s = .ok r s') :
    ∃ place text, s'.tree.locate c.aggregatorPath = .ok place ∧
      HoldsText place (remove text (matcher s.tree.cwd c ms)).text s'.tree ∧
        Thins s.tree s'.tree := by
  obtain ⟨text, s₁, hread, -⟩ := Run.bind_ok h
  obtain ⟨hs₁, content, hcontent, hd⟩ := read_ok hread
  rw [hs₁] at hread
  obtain ⟨place, hl, hentry⟩ := read_eq_ok_iff.1 hcontent
  have hne : place ≠ [] := by
    rintro rfl
    cases hentry
  refine ⟨place, text, ?_⟩
  generalize hr : remove text (matcher s.tree.cwd c ms) = removal
  obtain ⟨log, hrun⟩ := removeAll_of_read hread ms hr
  rw [hrun] at h
  split at h
  · obtain ⟨_, s₂, hwrite, h₂⟩ := Run.bind_ok h
    obtain ⟨bytes, hbytes, htree⟩ := Run.write_located hwrite hl
    rw [(Run.pure_ok h₂).2, htree]
    have hkeeps : Keeps [place] s.tree (s.tree.put place (.file bytes)) :=
      keeps_put (by rw [hentry]; simp)
    exact ⟨hkeeps.locate hl, ⟨bytes, entry?_put_self _ hne _, Text.decode?_eq_some_iff.2 hbytes⟩,
      thins_put hentry bytes⟩
  · rename_i hsame
    rw [(Run.pure_ok h).2, not_not.1 hsame]
    exact ⟨hl, ⟨content, hentry, hd⟩, .refl _⟩

theorem removeAll_of_no_target {place : List Text} {text : Text}
    (hl : s.tree.locate c.aggregatorPath = .ok place) (ht : HoldsText place text s.tree)
    (h : ∀ line ∈ text.lines, isTarget (acceptance s.tree.cwd c ms) line = false) :
    removeAll c ms s = .ok ⟨text, [], []⟩ s := by
  obtain ⟨content, hentry, hd⟩ := ht
  have hread := read_of_ok (read_eq_ok_iff.2 ⟨place, hl, hentry⟩) hd
  have hremove := remove_of_no_target h
  rw [matcher_acceptance] at hremove
  unfold removeAll
  rw [Run.bind_of_ok hread, Run.bind_of_ok (Run.tree_eq s), hremove]
  simp only [ne_eq, not_true_eq_false, if_false]
  rfl

end Wiring

section

variable {c : Config} {ms : List Manifest} {s s' : Session}

theorem unwire_ok {counts : Nat × Nat} (h : unwire c ms s = .ok counts s') :
    Thins s.tree s'.tree ∧ IsUnwired c s'.tree := by
  unfold unwire at h
  obtain ⟨x, s₁, hattempt, h₁⟩ := Run.bind_ok h
  rcases Run.attempt_ok hattempt with ⟨r, rfl, hr⟩ | ⟨f, rfl, hf⟩
  · rw [(Run.pure_ok h₁).2]
    obtain ⟨place, text, hl, ht, hthins⟩ := Wiring.removeAll_ok hr
    refine ⟨hthins, .inr ⟨place, _, hl, ht, fun line hline => ?_⟩⟩
    rw [← Aggregator.matcher_acceptance] at hline
    rw [hthins.cwd]
    exact Aggregator.isTarget_eq_false_of_le (Aggregator.acceptance_of_nil ms)
      (Aggregator.isTarget_of_mem_lines_remove hline)
  · cases f with
    | noAggregator name =>
      obtain ⟨_, s₂, hsay, h₂⟩ := Run.bind_ok h₁
      obtain ⟨hmissing, hs₁⟩ := Wiring.removeAll_noAggregator hf
      rw [(Run.pure_ok h₂).2, Run.say_ok hsay, hs₁]
      exact ⟨.refl _, .inl hmissing⟩
    | _ => cases h₁

theorem unwire_of_isUnwired (h : IsUnwired c s.tree) :
    ∃ log, unwire c [] s = .ok (0, 0) { s with log := log } := by
  unfold unwire
  rcases h with hmissing | ⟨place, text, hl, ht, hnone⟩
  · have hread : Wiring.removeAll c [] s = .error (.failure (.noAggregator c.aggregator)) s := by
      have hread : Wiring.read c s = .error (.failure (.noAggregator c.aggregator)) s := by
        unfold Wiring.read
        rw [Run.bind_of_ok (Run.ask_of_ok hmissing _)]
        rfl
      exact Run.bind_of_error hread _
    rw [Run.bind_of_ok (Run.attempt_of_failure hread)]
    exact ⟨_, rfl⟩
  · rw [Run.bind_of_ok (Run.attempt_of_ok (Wiring.removeAll_of_no_target hl ht hnone))]
    exact ⟨s.log, rfl⟩

end

/-! ## Cleaning -/

/-- A project that a clean run finds nothing to do in. -/
structure IsSettled (c : Config) (t : Tree) : Prop where
  plain : t.HasPlainNames
  bare : IsBare c t
  unwired : IsUnwired c t

section

variable {c : Config} {s s' : Session}

/-- A clean run leaves a settled project. -/
theorem isSettled_of_clean {done : Cleaned} (hplain : s.tree.HasPlainNames)
    (h : clean c s = .ok done s') : IsSettled c s'.tree := by
  unfold clean at h
  obtain ⟨ms, s₁, hread, h₁⟩ := Run.bind_ok h
  obtain ⟨_, s₂, hfound, h₂⟩ := Run.bind_ok h₁
  obtain ⟨paths, s₃, hremove, h₃⟩ := Run.bind_ok h₂
  obtain ⟨_, s₄, htold, h₄⟩ := Run.bind_ok h₃
  obtain ⟨counts, s₅, hunwire, h₅⟩ := Run.bind_ok h₄
  obtain ⟨_, s₆, hdone, h₆⟩ := Run.bind_ok h₅
  have hs₂ : s₂.tree = s.tree := (Run.say_ok hfound).trans (Output.readManifests_ok hread)
  have hs₄ : s₄.tree = s₃.tree := by
    obtain ⟨log, hlog⟩ := Run.forM_say .info (fun p => "Removed " ++ shownBelow c.root p) paths s₃
    cases htold.symm.trans hlog
    rfl
  have hs' : s'.tree = s₅.tree := by rw [(Run.pure_ok h₆).2, Run.say_ok hdone]
  obtain ⟨hthins, hbare⟩ := Output.removeAll_ok (hs₂.symm ▸ hplain) hremove
  obtain ⟨hthins', hunwired⟩ := unwire_ok hunwire
  rw [hs₂] at hthins
  rw [hs₄] at hthins'
  rw [hs']
  -- what is done to the aggregator does not fill the output root again
  exact ⟨(hthins.trans hthins').hasPlainNames hplain, hbare.thins hthins', hunwired⟩

/-- Cleaning a settled project removes nothing, and leaves all files as they are. -/
theorem clean_of_isSettled (h : IsSettled c s.tree) :
    ∃ s', clean c s = .ok ⟨[], 0, 0, []⟩ s' ∧ s'.tree = s.tree := by
  obtain ⟨log, hread⟩ := Output.readManifests_of_isBare h.plain h.bare
  let found : Text := "Found " ++ Text.ofNat 0 ++ " manifest(s) under " ++ c.outputRoot
  let s₂ : Session := Run.said { s with log := log } .debug found
  have hremove : Output.removeAll c s₂ = .ok [] s₂ := Output.removeAll_of_isBare h.bare
  obtain ⟨log', hunwire⟩ := unwire_of_isUnwired (s := s₂) h.unwired
  refine ⟨Run.said { s₂ with log := log' } .success ("Cleaned " ++ Text.ofNat 0 ++ " path(s), " ++
    Text.ofNat 0 ++ " import(s), " ++ Text.ofNat 0 ++ " registration(s)"), ?_, rfl⟩
  unfold clean
  rw [Run.bind_of_ok hread, Run.bind_of_ok (Run.say_eq _ _ _)]
  refine (Run.bind_of_ok hremove _).trans ?_
  exact Run.bind_of_ok hunwire _

/-- Cleaning a project that has been cleaned succeeds, removes nothing, and leaves all files as they
are, whatever the configuration takes for generated. -/
theorem clean_again {t : Tree} {done : Cleaned} (hplain : t.HasPlainNames)
    (h : clean c (Run.start t) = .ok done s) :
    ∃ s', clean c (Run.start s.tree) = .ok ⟨[], 0, 0, []⟩ s' ∧ s'.tree = s.tree := by
  have hsettled : IsSettled c s.tree := isSettled_of_clean (s := Run.start t) hplain h
  exact clean_of_isSettled (s := Run.start s.tree) hsettled

end

/-- The manifest of a module that its path does not give away. -/
def movedManifest : Manifest := ⟨"a", "v1", "aV1Routes", "./x/a.routes", "src/x/a.routes.ts", none⟩

/-- A project with that manifest, and an aggregator whose chain ends in the module's registration. -/
def movedProject : Tree where
  cwd := ⟨1, ["p"]⟩
  entries :=
    let manifest : Text := movedManifest.json
    let aggregator : Text := "import aV1Routes from \"./x/a.routes\";\n" ++
      "const app = new Elysia()\n  .use(homeRoutes)\n  .use(aV1Routes);"
    [(["p"], .directory), (["p", "src"], .directory), (["p", "src", "builder"], .directory),
      (["p", "src", "builder", "a-v1.manifest.json"],
        .file (manifest.encode?.getD ByteArray.empty)),
      (["p", "src", "index.ts"], .file (aggregator.encode?.getD ByteArray.empty))]

theorem hasPlainNames_movedProject : movedProject.HasPlainNames := by
  have hplain : ∀ name ∈ (["p", "src", "builder", "a-v1.manifest.json", "index.ts"] : List Text),
      IsPlainName name := by
    intro name hname
    refine isPlainName_of_ascii ?_ ?_
    · revert name
      decide
    · revert name
      decide
  intro x hx name hname
  refine hplain name ?_
  have hplace := List.mem_map_of_mem (f := Prod.fst) hx
  generalize x.1 = place at hplace hname
  revert name
  revert place
  decide

/-- The first run goes by the manifest, which the second no longer finds. -/
theorem clean_again_movedProject : movedProject.HasPlainNames ∧
    ∃ done s s', clean (.standard ⟨1, ["p"]⟩) (Run.start movedProject) = .ok done s ∧
      done.paths.length = 1 ∧ done.imports = 1 ∧ done.uses = 1 ∧ done.manifests = [movedManifest] ∧
        clean (.standard ⟨1, ["p"]⟩) (Run.start s.tree) = .ok ⟨[], 0, 0, []⟩ s' ∧
          s'.tree = s.tree := by
  obtain ⟨done, s, hclean, hdone⟩ := Run.exists_of_yields
    (p := fun done => done.paths.length = 1 ∧ done.imports = 1 ∧ done.uses = 1 ∧
      done.manifests = [movedManifest])
    (r := clean (.standard ⟨1, ["p"]⟩) (Run.start movedProject)) (by decide +kernel)
  obtain ⟨hpaths, himports, huses, hmanifests⟩ := of_decide_eq_true hdone
  obtain ⟨s', hagain, htree⟩ := clean_again hasPlainNames_movedProject hclean
  exact ⟨hasPlainNames_movedProject, done, s, s', hclean, hpaths, himports, huses, hmanifests,
    hagain, htree⟩

end Routewright
