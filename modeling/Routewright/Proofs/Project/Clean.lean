/-
Cleaning succeeds where generating has been. What stands below the output root is reached by plain
names and its files are texts, so every manifest is read or passed over, every module is removed, and
the aggregator is left as the text that a removal makes of it.
-/
import Routewright.Project.Clean
import Routewright.Proofs.Aggregator.Remove
import Routewright.Proofs.Project.Generate
import Routewright.Proofs.Project.Manifests

namespace Routewright

open Routewright.Tree

/-! ## The output root -/

/-- A name that something in the output root can be removed by. -/
structure IsTop (c : Config) (name : Text) : Prop extends IsPlainName name where
  short : isLongName name = false
  faultless : (c.outputPath.append ⟨0, [name]⟩).fault? = none

/-- A tree whose output root, at a place, can be emptied. -/
structure IsEmptiable (c : Config) (place : List Text) (t : Tree) : Prop where
  directory : t.entry? place = some .directory
  top : ∀ x ∈ t.entries, ∀ name rest, x.1 = place ++ name :: rest →
    IsTop c name ∧ name ∈ t.names place

/-- A tree whose output root, at a place, holds what generating puts there. -/
structure IsOutput (c : Config) (place : List Text) (t : Tree) : Prop extends
    IsEmptiable c place t where
  plain : ∀ x ∈ t.entries, ∀ way, x.1 = place ++ way → ∀ name ∈ way, IsPlainName name
  text : ∀ content name rest, (place ++ name :: rest, .file content) ∈ t.entries →
    ∃ text, Text.decode? content = some text

namespace Tree

theorem not_prefix_of_concat (place : List Text) (name : Text) : ¬place ++ [name] <+: place := by
  intro h
  have hlen := h.length_le
  rw [List.length_append, List.length_singleton] at hlen
  omega

/-- A tree without some of what stands directly in a place. -/
def eraseAll (place : List Text) (names : List Text) (t : Tree) : Tree :=
  names.foldl (fun u name => u.erase (place ++ [name])) t

theorem entry?_eraseAll {place other : List Text} {names : List Text}
    (h : ∀ name ∈ names, ¬place ++ [name] <+: other) (t : Tree) :
    Tree.entry? (eraseAll place names t) other = t.entry? other := by
  induction names generalizing t with
  | nil => rfl
  | cons name names ih =>
    have hrest : ∀ n ∈ names, ¬place ++ [n] <+: other := fun n hn => h n (List.mem_cons_of_mem _ hn)
    exact (ih hrest (t.erase (place ++ [name]))).trans (entry?_erase (h name List.mem_cons_self))

theorem mem_eraseAll {place : List Text} {names : List Text} {t : Tree}
    {x : List Text × Entry} : x ∈ (eraseAll place names t).entries ↔
      x ∈ t.entries ∧ ∀ name ∈ names, ¬place ++ [name] <+: x.1 := by
  induction names generalizing t with
  | nil => simp [eraseAll]
  | cons name names ih =>
    rw [eraseAll, List.foldl_cons]
    refine ih.trans ?_
    rw [mem_erase, List.forall_mem_cons, and_assoc]

/-- What a tree keeps of one that has nothing below a place stays when things below it go. -/
theorem Keeps.eraseAll {aside : List (List Text)} {t u : Tree} {place : List Text}
    (h : Keeps aside t u) (hv : t.waysBelow place = []) (names : List Text) :
    Keeps aside t (eraseAll place names u) := by
  -- nothing that goes stands below something that the first tree has
  have hnot : ∀ other e, t.entry? other = some e →
      Tree.entry? (Tree.eraseAll place names u) other = u.entry? other := by
    refine fun other e he => entry?_eraseAll (fun name _ hprefix => ?_) u
    obtain ⟨rest, rfl⟩ := hprefix
    have hmem := mem_entries (by simp) he
    exact waysBelow_eq_nil_iff.1 hv _ hmem name rest (by simp)
  have hcwd : (Tree.eraseAll place names u).cwd = u.cwd := by
    clear hnot h
    induction names generalizing u with
    | nil => rfl
    | cons name names ih => exact ih (u := u.erase (place ++ [name]))
  refine ⟨hcwd.trans h.cwd, fun other hother => ?_, fun other hother e he => ?_⟩
  · rw [hnot other _ hother]
    exact h.directory other hother
  · rw [hnot other e he]
    exact h.entry other hother e he

end Tree

/-- A directory with nothing below it. -/
def IsEmptyDirectory (p : FilePath) (t : Tree) : Prop :=
  ∃ place, t.locate p = .ok place ∧ t.entry? place = some .directory ∧ t.waysBelow place = []

namespace Output

variable {c : Config} {t : Tree} {place : List Text} {aside : List (List Text)}

section

variable (hl : t.locate c.outputPath = .ok place)
include hl

/-- From the output root the same ways lead down in every tree that keeps the way to it. -/
theorem follow_below {u : Tree} (hk : Keeps aside t u) (way : List Text) :
    u.follow [] (u.cwd.append (c.outputPath.append ⟨0, way⟩)).parts = u.follow place way := by
  rw [FilePath.parts_append_relative, follow_append, hk.cwd,
    hk.follow (locate_eq_ok_iff.1 hl).2]
  rfl

theorem readManifests_isOk {s : Session} (hk : Keeps aside t s.tree)
    (ho : IsOutput c place s.tree) :
    ∃ ms s', readManifests c s = .ok ms s' ∧ s'.tree = s.tree := by
  have hlocate := hk.locate hl
  have hd : s.tree.isDirectory c.outputPath = .ok true :=
    isDirectory_eq_ok_true_iff.2 ⟨place, hlocate, ho.directory⟩
  have htexts : ∀ p ∈ manifestPaths c s.tree, IsTextAt s.tree p := by
    intro p hp content hread
    obtain ⟨way, e, hx, hne, -, rfl⟩ := (mem_manifestPaths hlocate).1 hp
    obtain ⟨q, hq, hentry⟩ := read_eq_ok_iff.1 hread
    -- the way was listed, and plain names lead back to where it was
    have hplain := ho.plain _ hx _ rfl
    have hf := (locate_eq_ok_iff.1 hq).2
    rw [follow_below hl hk] at hf
    obtain rfl := follow_eq_append hplain hf
    obtain ⟨name, rest, rfl⟩ := List.exists_cons_of_ne_nil hne
    exact ho.text content name rest (mem_entries (by simp) hentry)
  exact ⟨_, _, (readManifests_of_directory hd).trans (readAll_of_texts htexts), rfl⟩

/-! ## Removing -/

theorem forM_remove (hv : t.waysBelow place = []) {names : List Text}
    (hn : ∀ name ∈ names, IsTop c name) {s : Session} (hk : Keeps aside t s.tree)
    (hd : s.tree.entry? place = some .directory) :
    (names.map fun name => c.outputPath.append ⟨0, [name]⟩).forM
      (fun p => Run.files (removeStop p) (Files.remove p)) s =
        .ok () { s with tree := Tree.eraseAll place names s.tree } := by
  induction names generalizing s with
  | nil => rfl
  | cons name names ih =>
    have hname := hn name List.mem_cons_self
    have hlocate : s.tree.locate (c.outputPath.append ⟨0, [name]⟩) = .ok (place ++ [name]) := by
      refine locate_eq_ok_iff.2 ⟨hname.faultless, ?_⟩
      rw [follow_below hl hk]
      exact (follow_cons_iff hname.toIsPlainName).2 ⟨hd, hname.short, rfl⟩
    have hremove := Run.files_of_ok (Files.remove_of_locate hlocate)
      (removeStop (c.outputPath.append ⟨0, [name]⟩))
    have hk' := hk.eraseAll hv [name]
    have hd' : Tree.entry? (s.tree.erase (place ++ [name])) place = some .directory := by
      rw [entry?_erase (not_prefix_of_concat place name), hd]
    refine (Run.bind_of_ok hremove _).trans ?_
    exact ih (fun n h => hn n (List.mem_cons_of_mem _ h)) hk' hd'

/-- The output root is emptied, and nothing else changes. -/
theorem removeAll_isOk (hv : t.waysBelow place = []) {s : Session} (hk : Keeps aside t s.tree)
    (ho : IsEmptiable c place s.tree) : ∃ paths s', removeAll c s = .ok paths s' ∧
      Keeps aside t s'.tree ∧ s'.tree.entry? place = some .directory ∧
        s'.tree.waysBelow place = [] ∧
          ∀ other, ¬place <+: other → s'.tree.entry? other = s.tree.entry? other := by
  have hlocate := hk.locate hl
  have hd : s.tree.isDirectory c.outputPath = .ok true :=
    isDirectory_eq_ok_true_iff.2 ⟨place, hlocate, ho.directory⟩
  have hn : ∀ name ∈ s.tree.names place, IsTop c name := by
    intro name hname
    obtain ⟨e, he⟩ := mem_names.1 hname
    exact (ho.top _ he name [] rfl).1
  have hpaths : topPaths c s.tree =
      (s.tree.names place).map fun name => c.outputPath.append ⟨0, [name]⟩ := by
    rw [topPaths, hlocate]
  have hremove := forM_remove hl hv hn hk ho.directory
  refine ⟨topPaths c s.tree, { s with tree := Tree.eraseAll place (s.tree.names place) s.tree },
    ?_, hk.eraseAll hv _, ?_, ?_, fun other hother => ?_⟩
  · unfold removeAll
    rw [Run.bind_of_ok (Run.ask_of_ok hd _), if_pos rfl, Run.bind_of_ok (Run.tree_eq s), hpaths]
    exact Run.bind_of_ok hremove _
  · exact (entry?_eraseAll (fun name _ => not_prefix_of_concat place name) _).trans ho.directory
  · -- whatever stands below the output root stands below one of the names that go
    refine waysBelow_eq_nil_iff.2 fun x hx name rest hplace => ?_
    obtain ⟨hx, hnot⟩ := mem_eraseAll.1 hx
    refine hnot name (ho.top x hx name rest hplace).2 ⟨rest, ?_⟩
    rw [hplace, List.append_assoc]
    rfl
  · refine entry?_eraseAll (fun name _ hprefix => hother ?_) _
    exact (List.prefix_append _ _).trans hprefix

end

end Output

/-! ## The aggregator -/

/-- A tree whose file at a place holds a text. -/
def HoldsText (place : List Text) (text : Text) (t : Tree) : Prop :=
  ∃ content, t.entry? place = some (.file content) ∧ Text.decode? content = some text

/-- A tree whose aggregator can be written. -/
structure IsWritable (c : Config) (t : Tree) : Prop where
  parent : t.isDirectory c.aggregatorPath.parent = .ok true
  draft : ∃ place, t.locate (Files.draftPath c.aggregatorPath) = .ok place
  file : Files.endsAtDirectory c.aggregatorPath = false

theorem IsWritable.keeps {c : Config} {aside : List (List Text)} {t u : Tree}
    (h : IsWritable c t) (hk : Keeps aside t u) : IsWritable c u := by
  obtain ⟨place, hl, hd⟩ := isDirectory_eq_ok_true_iff.1 h.parent
  obtain ⟨draft, hdraft⟩ := h.draft
  exact ⟨isDirectory_eq_ok_true_iff.2 ⟨place, hk.locate hl, hk.directory place hd⟩,
    ⟨draft, hk.locate hdraft⟩, h.file⟩

namespace Aggregator

/-- What a configuration takes for generated, by variable and path. -/
def acceptance (cwd : FilePath) (c : Config) (ms : List Manifest) : Acceptance :=
  fun name path => matcher cwd c ms ⟨name, path, 0⟩

theorem matcher_acceptance (cwd : FilePath) (c : Config) (ms : List Manifest) :
    (acceptance cwd c ms).matcher = matcher cwd c ms := by
  funext record
  unfold acceptance Acceptance.matcher matcher
  cases c.cleanMatch <;> rfl

/-- What a removal leaves of a text that has bytes has bytes. -/
theorem exists_encode?_remove {text : Text} {content : ByteArray}
    (h : Text.decode? content = some text) (accepts : Acceptance) :
    ∃ bytes, Text.encode? (remove text accepts.matcher).text = some bytes := by
  obtain ⟨hscalar, -⟩ := Text.encode?_eq_some_iff.1 (Text.decode?_eq_some_iff.1 h)
  refine ⟨_, Text.encode?_eq_some_iff.2 ⟨fun c hc => ?_, rfl⟩⟩
  rcases mem_of_mem_remove accepts hc with hc | rfl | rfl
  · exact hscalar c hc
  · decide
  · decide

end Aggregator

namespace Wiring

open Aggregator

/-- Once the aggregator has been read, what is left to do is to write it if it changes; messages only
reach the log. -/
theorem removeAll_of_read {c : Config} {s : Session} {text : Text} (hread : read c s = .ok text s)
    (ms : List Manifest) {r : Removal} (hr : remove text (matcher s.tree.cwd c ms) = r) :
    ∃ log, removeAll c ms s = (if r.text ≠ text then write c r.text >>= fun _ => pure r
      else pure r) { s with log := log } := by
  obtain ⟨log, hlog⟩ := Run.forM_say .info
    (fun i : ImportRecord => "Removed import " ++ i.name ++ " (" ++ i.path ++ ")") r.imports s
  obtain ⟨log', hlog'⟩ := Run.forM_say .info
    (fun u : UseRecord => "Removed .use(" ++ u.name ++ ")") r.uses { s with log := log }
  refine ⟨log', ?_⟩
  unfold removeAll
  rw [Run.bind_of_ok hread, Run.bind_of_ok (Run.tree_eq s), hr]
  dsimp only
  rw [Run.bind_of_ok hlog, Run.bind_of_ok hlog']

variable {c : Config} {t : Tree} {place : List Text} {text : Text} {aside : List (List Text)}
  (hl : t.locate c.aggregatorPath = .ok place) (hw : IsWritable c t)
include hl hw

theorem removeAll_isOk {s : Session} (hk : Keeps aside t s.tree)
    (ht : HoldsText place text s.tree) (ms : List Manifest) : ∃ r s', removeAll c ms s = .ok r s' ∧
      HoldsText place (remove text (matcher s.tree.cwd c ms)).text s'.tree ∧
        Keeps [place] s.tree s'.tree ∧
          ∀ x ∈ s'.tree.entries, x ∈ s.tree.entries ∨ x.1 = place := by
  obtain ⟨content, hentry, hd⟩ := ht
  have hlocate := hk.locate hl
  have hwritable := hw.keeps hk
  obtain ⟨draft, hdraft⟩ := hwritable.draft
  have hread := read_of_ok (Tree.read_eq_ok_iff.2 ⟨place, hlocate, hentry⟩) hd
  have hne : place ≠ [] := by
    rintro rfl
    cases hentry
  obtain ⟨bytes, hbytes⟩ := exists_encode?_remove hd (acceptance s.tree.cwd c ms)
  rw [matcher_acceptance] at hbytes
  generalize hr : remove text (matcher s.tree.cwd c ms) = r at hbytes ⊢
  obtain ⟨log, hrun⟩ := removeAll_of_read hread ms hr
  by_cases hsame : r.text = text
  · refine ⟨r, { s with log := log }, ?_, ⟨content, hentry, by rw [hsame]; exact hd⟩,
      .refl _ _, fun _ hx => .inl hx⟩
    rw [hrun, if_neg (by simpa using hsame)]
    rfl
  · have hfile : s.tree.entry? place ≠ some .directory := by
      rw [hentry]
      simp
    have hwrite := Run.write_of_isDirectory (s := { s with log := log }) hwritable.parent hdraft
      hlocate hwritable.file hfile hbytes
      fun e => .failure (.file (.writeAggregator c.aggregatorPath) e)
    refine ⟨r, ⟨s.tree.put place (.file bytes), log⟩, ?_,
      ⟨bytes, entry?_put_self _ hne _, Text.decode?_eq_some_iff.2 hbytes⟩, keeps_put hfile,
      fun x hx => (mem_put hx).imp_right (congrArg Prod.fst)⟩
    rw [hrun, if_pos hsame]
    exact Run.bind_of_ok hwrite _

end Wiring

section

variable {c : Config} {t : Tree} {output place : List Text} {text : Text}
  {aside : List (List Text)}

theorem unwire_isOk (hl : t.locate c.aggregatorPath = .ok place) (hw : IsWritable c t)
    {s : Session} (hk : Keeps aside t s.tree) (ht : HoldsText place text s.tree)
    (ms : List Manifest) : ∃ counts s', unwire c ms s = .ok counts s' ∧
      HoldsText place (Aggregator.remove text (Aggregator.matcher s.tree.cwd c ms)).text s'.tree ∧
        Keeps [place] s.tree s'.tree ∧
          ∀ x ∈ s'.tree.entries, x ∈ s.tree.entries ∨ x.1 = place := by
  obtain ⟨r, s', hr, htext, htree⟩ := Wiring.removeAll_isOk hl hw hk ht ms
  refine ⟨(r.imports.length, r.uses.length), s', ?_, htext, htree⟩
  unfold unwire
  rw [Run.bind_of_ok (Run.attempt_of_ok hr)]
  rfl

/-- Once the manifests have been read, cleaning succeeds, whatever they hold: it leaves the output root
empty, and the aggregator as a removal leaves its text. -/
theorem clean_of_read (hl : t.locate c.outputPath = .ok output) (hv : t.waysBelow output = [])
    (hla : t.locate c.aggregatorPath = .ok place) (hw : IsWritable c t)
    (hplace : ¬output <+: place) {s s₁ : Session} (hk : Keeps aside t s.tree)
    (ho : IsEmptiable c output s.tree) (ht : HoldsText place text s.tree) {ms : List Manifest}
    (hread : Output.readManifests c s = .ok ms s₁) (hs₁ : s₁.tree = s.tree) :
    ∃ cleaned s', clean c s = .ok cleaned s' ∧ cleaned.manifests = ms ∧
      IsEmptyDirectory c.outputPath s'.tree ∧ s'.tree.locate c.aggregatorPath = .ok place ∧
        HoldsText place (Aggregator.remove text (Aggregator.matcher t.cwd c ms)).text s'.tree := by
  let found : Text := "Found " ++ Text.ofNat ms.length ++ " manifest(s) under " ++ c.outputRoot
  have hs₂ : (Run.said s₁ .debug found).tree = s.tree := hs₁
  obtain ⟨paths, s₃, hremove, hk₃, hd₃, hv₃, hother⟩ := Output.removeAll_isOk hl hv
    (s := Run.said s₁ .debug found) (by rw [hs₂]; exact hk) (by rw [hs₂]; exact ho)
  obtain ⟨log, hlog⟩ := Run.forM_say .info (fun p => "Removed " ++ shownBelow c.root p) paths s₃
  -- the aggregator does not stand in the output root, so emptying that keeps it
  have ht₃ : HoldsText place text s₃.tree := by
    rw [HoldsText, hother place hplace, hs₂]
    exact ht
  obtain ⟨counts, s₄, hunwire, htext, hk₄, hmem⟩ :=
    unwire_isOk (s := ⟨s₃.tree, log⟩) hla hw hk₃ ht₃ ms
  let done : Text := "Cleaned " ++ Text.ofNat paths.length ++ " path(s), " ++
    Text.ofNat counts.1 ++ " import(s), " ++ Text.ofNat counts.2 ++ " registration(s)"
  refine ⟨⟨paths, counts.1, counts.2, ms⟩, Run.said s₄ .success done, ?_, rfl, ?_, ?_, ?_⟩
  · unfold clean
    rw [Run.bind_of_ok hread, Run.bind_of_ok (Run.say_eq _ _ _), Run.bind_of_ok hremove,
      Run.bind_of_ok hlog, Run.bind_of_ok hunwire]
    rfl
  · refine ⟨output, hk₄.locate (hk₃.locate hl), hk₄.directory _ hd₃, ?_⟩
    refine waysBelow_eq_nil_iff.2 fun x hx name rest hx' => ?_
    rcases hmem x hx with hx | hx
    · exact waysBelow_eq_nil_iff.1 hv₃ x hx name rest hx'
    · exact hplace ⟨name :: rest, by rw [← hx', hx]⟩
  · exact hk₄.locate (hk₃.locate hla)
  · rw [hk₃.cwd] at htext
    exact htext

/-- Where generating has been, cleaning succeeds. -/
theorem clean_isOk (hl : t.locate c.outputPath = .ok output) (hv : t.waysBelow output = [])
    (hla : t.locate c.aggregatorPath = .ok place) (hw : IsWritable c t)
    (hplace : ¬output <+: place) {s : Session} (hk : Keeps aside t s.tree)
    (ho : IsOutput c output s.tree) (ht : HoldsText place text s.tree) :
    ∃ cleaned s', clean c s = .ok cleaned s' ∧ IsEmptyDirectory c.outputPath s'.tree ∧
      s'.tree.locate c.aggregatorPath = .ok place ∧
        HoldsText place (Aggregator.remove text
          (Aggregator.matcher t.cwd c cleaned.manifests)).text s'.tree := by
  obtain ⟨ms, s₁, hread, hs₁⟩ := Output.readManifests_isOk hl hk ho
  obtain ⟨cleaned, s', hclean, rfl, hdone⟩ :=
    clean_of_read hl hv hla hw hplace hk ho.toIsEmptiable ht hread hs₁
  exact ⟨cleaned, s', hclean, hdone⟩

end

end Routewright
