/-
What a removal does to chains. The lines that stay are joined where lines between them go, so a link
comes to stand behind another line than before; the removal hands that line a semicolon by the last
code points of the lines that go, and the main statement says which chains this leaves whole.
-/
import Routewright.Proofs.Aggregator.Calls
import Routewright.Proofs.Aggregator.Chain

namespace Routewright.Aggregator

/-! ## What becomes of a line -/

/-- What a removal makes of a line: it stays, it goes as an import, or as a registration. -/
inductive Fate where
  | stays
  | unimported
  | unregistered
deriving DecidableEq

/-- The lines of a text with what a removal makes of them. -/
def fates (t : Text) (isGenerated : ImportMatcher) : List (Text × Fate) :=
  (t.lines.zipIdx 1).map fun p =>
    (p.1, if ((removedImports t isGenerated).map (·.line)).contains p.2 then .unimported
      else if registersAny (removedNames t isGenerated) p.1 then .unregistered else .stays)

/-- The run of registrations that go right behind a line; imports go before they are looked at. -/
def goneBehind (below : List (Text × Fate)) : List Text :=
  ((below.filter fun p => p.2 != .unimported).takeWhile fun p => p.2 == .unregistered).map (·.1)

/-- The lines that stay, with the semicolons they are handed. -/
def settle : List (Text × Fate) → List Text
  | [] => []
  | (line, fate) :: rest =>
    if fate = .stays then settled (goneBehind rest) line :: settle rest else settle rest

theorem goneBehind_cons (line : Text) (fate : Fate) (rest : List (Text × Fate)) :
    goneBehind ((line, fate) :: rest) =
      match fate with
      | .stays => []
      | .unimported => goneBehind rest
      | .unregistered => line :: goneBehind rest := by
  cases fate <;> rfl

/-- A run ends where a line stays. -/
theorem goneBehind_append (gap : List (Text × Fate)) (line : Text) (below : List (Text × Fate)) :
    goneBehind (gap ++ (line, .stays) :: below) = goneBehind gap := by
  induction gap with
  | nil => rfl
  | cons p gap ih =>
    obtain ⟨first, fate⟩ := p
    rw [List.cons_append, goneBehind_cons, goneBehind_cons, ih]

theorem settle_append (above : List (Text × Fate)) (line : Text) (below : List (Text × Fate)) :
    settle (above ++ (line, .stays) :: below) =
      settle above ++ settled (goneBehind below) line :: settle below := by
  induction above with
  | nil => rfl
  | cons p above ih =>
    obtain ⟨first, fate⟩ := p
    rw [List.cons_append, settle, settle, goneBehind_append, ih]
    split <;> rfl

/-- Each line that is left is one that stays. -/
theorem exists_of_settle_eq {marked : List (Text × Fate)} {before after : List Text} {line : Text}
    (h : settle marked = before ++ line :: after) : ∃ above old below,
      marked = above ++ (old, .stays) :: below ∧ before = settle above ∧
        line = settled (goneBehind below) old := by
  induction marked generalizing before with
  | nil => simp [settle] at h
  | cons p marked ih =>
    obtain ⟨first, fate⟩ := p
    rw [settle] at h
    split at h
    · rename_i hstays
      cases before with
      | nil =>
        obtain ⟨hline, -⟩ := List.cons.inj h
        exact ⟨[], first, marked, by rw [hstays]; rfl, rfl, hline.symm⟩
      | cons kept before =>
        obtain ⟨hkept, hrest⟩ := List.cons.inj h
        obtain ⟨above, old, below, rfl, rfl, hline⟩ := ih hrest
        refine ⟨(first, fate) :: above, old, below, rfl, ?_, hline⟩
        rw [settle, if_pos hstays, ← hkept, goneBehind_append]
    · rename_i hgoes
      obtain ⟨above, old, below, rfl, rfl, hline⟩ := ih h
      exact ⟨(first, fate) :: above, old, below, rfl, by rw [settle, if_neg hgoes], hline⟩

/-- Walking over the lines that are no import that goes leaves the lines that stay. -/
theorem unlink_eq_settle {p : Text → Bool} {marked : List (Text × Fate)}
    (h : ∀ m ∈ marked, m.2 ≠ .unimported → (p m.1 ↔ m.2 = .unregistered)) :
    unlink p ((marked.filter fun m => m.2 != .unimported).map (·.1)) =
      (settle marked, handsUp (goneBehind marked)) := by
  induction marked with
  | nil => rfl
  | cons m marked ih =>
    obtain ⟨line, fate⟩ := m
    have hrest := ih fun m hm => h m (List.mem_cons_of_mem _ hm)
    have hline := h (line, fate) List.mem_cons_self
    cases fate with
    | unimported => exact hrest
    | stays =>
      have hp : p line = false := by simpa using hline
      rw [List.filter_cons_of_pos (by rfl), List.map_cons, unlink, hrest, settle, if_pos rfl,
        settled_eq, goneBehind_cons]
      simp only [hp, Bool.false_eq_true, if_false]
      rfl
    | unregistered =>
      have hp : p line := by simpa using hline
      rw [List.filter_cons_of_pos (by rfl), List.map_cons, unlink, hrest, settle,
        if_neg (by decide), goneBehind_cons]
      simp only [hp, if_true, handsUp_cons]
      cases hhanded : handsUp (goneBehind marked)
      · simp
      · simp [isTerminated_takeTerminator]

theorem map_fst_fates (t : Text) (isGenerated : ImportMatcher) :
    (fates t isGenerated).map (·.1) = t.lines := by
  rw [fates, List.map_map]
  exact List.zipIdx_map_fst 1 t.lines

/-- A removal leaves the lines that stay. -/
theorem settle_fates (t : Text) (isGenerated : ImportMatcher) :
    settle (fates t isGenerated) =
      (unlink (registersAny (removedNames t isGenerated)) (unimported t isGenerated)).1 := by
  have hleft : ((fates t isGenerated).filter fun m => m.2 != .unimported).map (·.1) =
      unimported t isGenerated := by
    rw [fates, unimported, List.filter_map, List.map_map]
    refine congrArg (List.map _) (List.filter_congr fun p _ => ?_)
    simp only [Function.comp_apply]
    split
    · rename_i hgone
      rw [hgone]
      rfl
    · rename_i hkept
      rw [Bool.not_eq_true] at hkept
      rw [hkept]
      split <;> rfl
  have hfates : ∀ m ∈ fates t isGenerated, m.2 ≠ .unimported →
      (registersAny (removedNames t isGenerated) m.1 ↔ m.2 = .unregistered) := by
    intro m hm hkept
    obtain ⟨p, -, rfl⟩ := List.mem_map.1 hm
    dsimp only at hkept ⊢
    split at hkept
    · exact absurd rfl hkept
    · rename_i hnot
      rw [if_neg hnot]
      cases registersAny (removedNames t isGenerated) p.1 <;> simp
  rw [← hleft, unlink_eq_settle hfates]

/-! ## Gaps -/

/-- Wherever lines go from right above a link that stays, blank lines and comments aside, there is a
line above the gap, and it is open with the semicolon that it is handed. -/
def Bridges (marked : List (Text × Fate)) : Prop :=
  ∀ above gap link below, marked = above ++ gap ++ (link, .stays) :: below → startsLink link →
    (∃ p ∈ gap, p.2 ≠ .stays) → (∀ p ∈ gap, p.2 = .stays → isSkipped p.1) →
    (∀ p, above.getLast? = some p → p.2 = .stays ∧ isSkipped p.1 = false) →
    ∃ carrier, above.getLast? = some (carrier, .stays) ∧
      isOpen (settled (goneBehind gap) carrier)

/-- Above every place there is a gap, which may be empty. -/
theorem exists_gap (marked : List (Text × Fate)) : ∃ above gap, marked = above ++ gap ∧
    (∀ p ∈ gap, p.2 = .stays → isSkipped p.1) ∧
      ∀ p, above.getLast? = some p → p.2 = .stays ∧ isSkipped p.1 = false := by
  refine ⟨marked.rdropWhile fun p => p.2 != .stays || isSkipped p.1,
    marked.rtakeWhile fun p => p.2 != .stays || isSkipped p.1,
    (List.rdropWhile_append_rtakeWhile ..).symm, fun p hp hstays => ?_, fun p hp => ?_⟩
  · have := List.mem_rtakeWhile_imp hp
    simpa [hstays] using this
  · obtain ⟨init, hinit⟩ := List.getLast?_eq_some_iff.1 hp
    have hlast := List.rdropWhile_last_not (fun p => p.2 != .stays || isSkipped p.1) marked
      (by rw [hinit]; simp)
    simp only [hinit, List.getLast_concat] at hlast
    simpa using hlast

theorem startsLink_settled (run : List Text) (line : Text) :
    startsLink (settled run line) = startsLink line := by
  unfold settled
  split
  · rw [← addTerminator_eq]
    exact startsLink_addTerminator line
  · rfl

theorem isSkipped_settled (run : List Text) (line : Text) :
    isSkipped (settled run line) = isSkipped line := by
  cases hlink : startsLink line
  · simp [settled, hlink]
  · rw [isSkipped_of_startsLink hlink,
      isSkipped_of_startsLink (by rw [startsLink_settled, hlink])]

theorem isSkipped_of_mem_settle {gap : List (Text × Fate)}
    (h : ∀ p ∈ gap, p.2 = .stays → isSkipped p.1) : ∀ line ∈ settle gap, isSkipped line := by
  induction gap with
  | nil => exact fun line hline => absurd hline List.not_mem_nil
  | cons p gap ih =>
    obtain ⟨first, fate⟩ := p
    have hrest := ih fun p hp => h p (List.mem_cons_of_mem _ hp)
    intro line hline
    rw [settle] at hline
    split at hline
    · rename_i hstays
      rcases List.mem_cons.1 hline with rfl | hline
      · rw [isSkipped_settled]
        exact h (first, fate) List.mem_cons_self hstays
      · exact hrest line hline
    · exact hrest line hline

/-- What is left above a gap and of it carries a link exactly if the line above the gap does. -/
theorem carries_settle_iff {above gap : List (Text × Fate)}
    (hgap : ∀ p ∈ gap, p.2 = .stays → isSkipped p.1)
    (habove : ∀ p, above.getLast? = some p → p.2 = .stays ∧ isSkipped p.1 = false) :
    Carries (settle (above ++ gap)) ↔ ∃ carrier, above.getLast? = some (carrier, .stays) ∧
      isOpen (settled (goneBehind gap) carrier) := by
  have hskipped := isSkipped_of_mem_settle hgap
  rcases List.eq_nil_or_concat above with rfl | ⟨init, ⟨carrier, fate⟩, rfl⟩
  · rw [List.nil_append, ← List.nil_append (settle gap), carries_append_skipped hskipped]
    simp [Carries]
  · rw [List.concat_eq_append] at habove ⊢
    obtain ⟨hstays, hcarrier⟩ := habove (carrier, fate) List.getLast?_concat
    dsimp only at hstays hcarrier
    rw [hstays, List.append_assoc, List.singleton_append, settle_append, List.append_cons,
      carries_append_skipped hskipped, carries_concat (by rw [isSkipped_settled, hcarrier])]
    simp

/-- The line above a gap, if a link may stand below it. -/
theorem exists_carrier {above : List (Text × Fate)} (h : Carries (above.map (·.1)))
    (habove : ∀ p, above.getLast? = some p → p.2 = .stays ∧ isSkipped p.1 = false) :
    ∃ carrier, above.getLast? = some (carrier, .stays) ∧ isOpen carrier := by
  rcases List.eq_nil_or_concat above with rfl | ⟨init, ⟨carrier, fate⟩, rfl⟩
  · simp [Carries] at h
  · rw [List.concat_eq_append] at habove h ⊢
    obtain ⟨rfl, hcarrier⟩ := habove (carrier, fate) List.getLast?_concat
    rw [List.map_append, List.map_singleton, carries_concat hcarrier] at h
    exact ⟨carrier, List.getLast?_concat, h⟩

/-- The lines that stay are chained exactly if what is left above each link carries it. -/
theorem isChained_settle_iff {marked : List (Text × Fate)} : IsChained (settle marked) ↔
    ∀ above link below, marked = above ++ (link, .stays) :: below → startsLink link →
      Carries (settle above) := by
  constructor
  · rintro h above link below rfl hlink
    exact h _ _ _ (settle_append above link below) (by rw [startsLink_settled, hlink])
  · intro h before link after hsplit hlink
    obtain ⟨above, old, below, hmarked, rfl, rfl⟩ := exists_of_settle_eq hsplit
    rw [startsLink_settled] at hlink
    exact h above old below hmarked hlink

/-- Only where lines go can a link lose the line that carries it. -/
theorem isChained_settle_iff_bridges {marked : List (Text × Fate)}
    (h : IsChained (marked.map (·.1))) : IsChained (settle marked) ↔ Bridges marked := by
  rw [isChained_settle_iff]
  constructor
  · intro hcarried above gap link below hmarked hlink _ hgap habove
    exact (carries_settle_iff hgap habove).1 (hcarried (above ++ gap) link below hmarked hlink)
  · intro hbridges place link below hmarked hlink
    obtain ⟨above, gap, rfl, hgap, habove⟩ := exists_gap place
    rw [carries_settle_iff hgap habove]
    by_cases hgone : ∃ p ∈ gap, p.2 ≠ .stays
    · exact hbridges above gap link below hmarked hlink hgone hgap habove
    · -- nothing goes from here, so the link stands as it stood
      have hstays : ∀ p ∈ gap, p.2 = .stays := by simpa using hgone
      have hbehind : goneBehind gap = [] := by
        cases gap with
        | nil => rfl
        | cons p gap =>
          obtain ⟨line, fate⟩ := p
          rw [goneBehind_cons, show fate = .stays from hstays _ List.mem_cons_self]
      have hskipped : ∀ line ∈ gap.map (·.1), isSkipped line := by
        intro line hline
        obtain ⟨p, hp, rfl⟩ := List.mem_map.1 hline
        exact hgap p hp (hstays p hp)
      have hcarries := h ((above ++ gap).map (·.1)) link (below.map (·.1))
        (by rw [hmarked, List.map_append, List.map_cons]) hlink
      rw [List.map_append, carries_append_skipped hskipped] at hcarries
      obtain ⟨carrier, hlast, hopen⟩ := exists_carrier hcarries habove
      refine ⟨carrier, hlast, ?_⟩
      rw [hbehind, settled_eq]
      exact hopen

theorem isChained_lines_unlines {lines : List Text}
    (h : ∀ line ∈ lines, CodePoint.ofChar '\n' ∉ line) :
    IsChained (Text.unlines lines).lines ↔ IsChained lines := by
  by_cases hnil : lines = []
  · rw [hnil]
    decide
  · rw [Text.lines_unlines hnil h]

/-- A removal keeps a text chained exactly if it bridges the gaps that it makes. -/
theorem isChained_remove_iff {t : Text} (ht : IsChained t.lines) (isGenerated : ImportMatcher) :
    IsChained (remove t isGenerated).text.lines ↔ Bridges (fates t isGenerated) := by
  have hmarked : IsChained ((fates t isGenerated).map (·.1)) := by rwa [map_fst_fates]
  rw [text_remove_eq, isChained_lines_unlines, ← settle_fates, isChained_settle_iff_bridges hmarked]
  exact newline_notMem_unlink _ fun line hline =>
    Text.newline_notMem_of_mem_lines (mem_lines_of_mem_unimported hline)

/-! ## Plain texts -/

/-- Lines whose last code points tell where statements end: an import ends its own, a registration is
a link, and an anchor goes on with its statement once it has given its semicolon away. -/
structure IsPlain (lines : List Text) : Prop where
  imports : ∀ line ∈ lines, isImport line → isOpen line = false
  links : ∀ line ∈ lines, ∀ name, lineKind line = .useOf name →
    startsLink line ∧ (isTerminated line → isOpen line = false)
  anchors : ∀ line ∈ lines, isAnchor line →
    isSkipped line = false ∧ isOpen (unterminated line) ∧ (isTerminated line → isOpen line = false)

theorem isSkipped_of_isImport {line : Text} (h : isImport line) : isSkipped line = false := by
  obtain ⟨rest, hrest⟩ := opensImport_iff.1 (opensImport_of_isImport h)
  rw [isSkipped, ← hrest]
  rfl

/-- What follows the last import of a chained text is no link. -/
theorem not_opensWithLink_behind_imports {t : Text} (ht : IsChained t.lines)
    (hclosed : ∀ line ∈ t.lines, isImport line → isOpen line = false) :
    ¬OpensWithLink (t.lines.drop (Survey.ofText t).lastImportLine) := by
  obtain ⟨before, after, hsplit, himports⟩ := exists_importSplit t.lines
  have hdrop : t.lines.drop (Survey.ofText t).lastImportLine = after := by
    rw [Survey.ofText, hsplit, himports.lastImportLine_eq, List.drop_left]
  intro hopens
  rw [hdrop] at hopens
  rw [hsplit, isChained_append] at ht
  have hcarries := ht.2.2 hopens
  rcases List.eq_nil_or_concat before with rfl | ⟨init, last, rfl⟩
  · simp [Carries] at hcarries
  · rw [List.concat_eq_append] at hcarries hsplit himports
    have hlast : isImport last := himports.last last List.getLast?_concat
    rw [carries_concat (isSkipped_of_isImport hlast),
      hclosed last (by rw [hsplit]; simp) hlast] at hcarries
    cases hcarries

/-- A chained text takes an import behind its last one, and a registration behind a plain anchor. -/
theorem accommodates_of_isPlain {t : Text} (ht : IsChained t.lines) (hp : IsPlain t.lines)
    {m : Manifest} (hm : IsReadable m) : Accommodates t m := by
  have hcr := isEnd_lineEnd t
  have hnewline := newline_notMem_importStatement hm.name hm.newline hcr.newline_notMem
  have himported : TakesImport t m := by
    obtain ⟨first, rest, hlines, hlink, -⟩ := exists_lines_importStatement m (lineEnd t)
    unfold TakesImport
    dsimp only
    rw [Text.lines_of_newline_notMem hnewline] at hlines ⊢
    obtain ⟨rfl, -⟩ := List.cons.inj hlines
    exact ⟨isChained_iff.2 (by rw [chainedFrom, hlink]; rfl),
      fun hopens => absurd hopens (not_opensWithLink_behind_imports ht hp.imports)⟩
  refine ⟨fun _ => himported, fun _ before anchor after hsplit => ?_⟩
  obtain ⟨hlines, hanchor, -⟩ := eq_append_of_splitLast? hsplit
  have hold : ∀ line ∈ before ++ anchor :: after,
      line ∈ t.lines ∨ line = m.importStatement ++ lineEnd t :=
    fun line hline => of_mem_withImport (by rw [hlines]; exact hline)
  have hfeeds : ∀ line ∈ before ++ anchor :: after, CodePoint.ofChar '\n' ∉ line := by
    intro line hline
    rcases hold line hline with hold | rfl
    · exact Text.newline_notMem_of_mem_lines hold
    · exact hnewline
  have hmem : anchor ∈ t.lines := by
    rcases hold anchor (by simp) with hold | rfl
    · exact hold
    · rw [isAnchor_importStatement hcr hm] at hanchor
      cases hanchor
  obtain ⟨hskipped, hopen, hends⟩ := hp.anchors anchor hmem hanchor
  have hchained : IsChained ((withImport (lineEnd t) m t.lines).flatMap Text.lines) :=
    (isChained_withImport_iff ht).2 fun _ => himported
  rw [hlines, Text.flatMap_lines hfeeds, List.append_cons, isChained_append] at hchained
  have hopened : ∀ line ∈ before ++ [unterminated anchor], CodePoint.ofChar '\n' ∉ line := by
    intro line hline
    rcases List.mem_append.1 hline with hline | hline
    · exact hfeeds line (List.mem_append_left _ hline)
    · rw [List.mem_singleton.1 hline]
      exact newline_notMem_unterminated (hfeeds anchor (by simp))
  rw [Text.flatMap_lines hopened, Text.flatMap_lines fun line hline => hfeeds line (by simp [hline])]
  constructor
  · refine (carries_concat (Bool.eq_false_iff.2 fun hs => ?_)).2 hopen
    rw [isOpen_of_isSkipped hs] at hopen
    cases hopen
  · -- the anchor ended its statement, so no link followed
    intro hterminated hlink
    have hcarries := hchained.2.2 hlink
    rw [carries_concat hskipped, hends hterminated] at hcarries
    cases hcarries

theorem of_mem_fates {t : Text} {isGenerated : ImportMatcher} {p : Text × Fate}
    (h : p ∈ fates t isGenerated) : p.1 ∈ t.lines ∧ (p.2 = .unimported → isImport p.1) ∧
      (p.2 = .unregistered → ∃ name, lineKind p.1 = .useOf name) := by
  obtain ⟨q, hq, rfl⟩ := List.mem_map.1 h
  refine ⟨List.fst_mem_of_mem_zipIdx hq, fun hfate => ?_, fun hfate => ?_⟩
  · dsimp only at hfate
    split at hfate
    · exact isImport_of_contains hq ‹_›
    · split at hfate <;> cases hfate
  · dsimp only at hfate
    split at hfate
    · cases hfate
    · split at hfate
      · rename_i hregisters
        unfold registersAny at hregisters
        split at hregisters
        · exact ⟨_, ‹_›⟩
        · cases hregisters
      · cases hfate

/-- Going up a gap from a link that is carried: each line that goes is open, so it is a link and
carried itself, up to the line above the gap. -/
theorem carries_above_gap {above gap : List (Text × Fate)}
    (hchained : IsChained ((above ++ gap).map (·.1))) (hcarries : Carries ((above ++ gap).map (·.1)))
    (hstay : ∀ p ∈ gap, p.2 = .stays → isSkipped p.1)
    (hgo : ∀ p ∈ gap, p.2 ≠ .stays → isSkipped p.1 = false ∧ (isOpen p.1 → startsLink p.1)) :
    Carries (above.map (·.1)) ∧ ∀ p ∈ gap, p.2 ≠ .stays → isOpen p.1 := by
  induction gap using List.reverseRecOn with
  | nil =>
    rw [List.append_nil] at hcarries
    exact ⟨hcarries, fun p hp => absurd hp List.not_mem_nil⟩
  | append_singleton gap p ih =>
    rw [← List.append_assoc, List.map_append, List.map_singleton] at hchained hcarries
    rw [isChained_concat] at hchained
    have hrest := fun hc => ih hchained.1 hc (fun q hq => hstay q (List.mem_append_left _ hq))
      fun q hq => hgo q (List.mem_append_left _ hq)
    have hp : p ∈ gap ++ [p] := by simp
    by_cases hfate : p.2 = .stays
    · rw [carries_append_skipped (by simpa using hstay p hp hfate)] at hcarries
      obtain ⟨habove, hopen⟩ := hrest hcarries
      refine ⟨habove, fun q hq hgoes => ?_⟩
      rcases List.mem_append.1 hq with hq | hq
      · exact hopen q hq hgoes
      · rw [List.mem_singleton.1 hq] at hgoes
        exact absurd hfate hgoes
    · obtain ⟨hskipped, hlink⟩ := hgo p hp hfate
      rw [carries_concat hskipped] at hcarries
      obtain ⟨habove, hopen⟩ := hrest (hchained.2 (hlink hcarries))
      refine ⟨habove, fun q hq hgoes => ?_⟩
      rcases List.mem_append.1 hq with hq | hq
      · exact hopen q hq hgoes
      · rw [List.mem_singleton.1 hq]
        exact hcarries

theorem mem_of_mem_goneBehind {gap : List (Text × Fate)} {line : Text}
    (h : line ∈ goneBehind gap) : (line, Fate.unregistered) ∈ gap := by
  obtain ⟨⟨first, fate⟩, hp, rfl⟩ := List.mem_map.1 h
  have hfate : fate = .unregistered := by simpa using List.mem_takeWhile_imp hp
  rw [← hfate]
  exact (List.mem_filter.1 ((List.takeWhile_sublist _).subset hp)).1

/-- A removal takes open links out of a plain text, and no semicolon with them, wherever a link
follows. -/
theorem bridges_of_isPlain {t : Text} (ht : IsChained t.lines) (hp : IsPlain t.lines)
    (isGenerated : ImportMatcher) : Bridges (fates t isGenerated) := by
  intro above gap link below hmarked hlink _ hgap habove
  have hlines : t.lines = (above ++ gap).map (·.1) ++ link :: below.map (·.1) := by
    rw [← map_fst_fates t isGenerated, hmarked, List.map_append, List.map_cons]
  have hcarries := ht _ _ _ hlines hlink
  rw [hlines, isChained_append] at ht
  have hmem : ∀ p ∈ gap, p ∈ fates t isGenerated := by
    intro p hpgap
    rw [hmarked]
    simp [hpgap]
  obtain ⟨hupper, hopen⟩ := carries_above_gap ht.1 hcarries hgap (by
    intro p hpgap hgoes
    obtain ⟨hline, himport, huse⟩ := of_mem_fates (hmem p hpgap)
    cases hfate : p.2 with
    | stays => exact absurd hfate hgoes
    | unimported =>
      have hi := himport hfate
      refine ⟨isSkipped_of_isImport hi, fun hopen => ?_⟩
      rw [hp.imports p.1 hline hi] at hopen
      cases hopen
    | unregistered =>
      obtain ⟨name, hname⟩ := huse hfate
      have hstart := (hp.links p.1 hline name hname).1
      exact ⟨isSkipped_of_startsLink hstart, fun _ => hstart⟩)
  obtain ⟨carrier, hlast, hcarrier⟩ := exists_carrier hupper habove
  have hnone : handsUp (goneBehind gap) = false := by
    rw [handsUp, Bool.and_eq_false_iff, List.any_eq_false]
    refine .inl fun line hline hterminated => ?_
    have hpgap := mem_of_mem_goneBehind hline
    obtain ⟨hline, -, huse⟩ := of_mem_fates (hmem _ hpgap)
    obtain ⟨name, hname⟩ := huse rfl
    have hclosed := (hp.links line hline name hname).2 hterminated
    rw [hopen _ hpgap (by simp)] at hclosed
    cases hclosed
  refine ⟨carrier, hlast, ?_⟩
  rw [settled_eq, hnone]
  exact hcarrier

/-- Adding modules to a plain text and removing them from it keeps its chains in one piece. -/
theorem isChained_edits_of_isPlain {t : Text} (ht : IsChained t.lines) (hp : IsPlain t.lines) :
    (∀ m, IsReadable m → IsChained (upsert t m).text.lines) ∧
      ∀ isGenerated, IsChained (remove t isGenerated).text.lines :=
  ⟨fun _ hm => (isChained_upsert_iff ht hm.name).2 (accommodates_of_isPlain ht hp hm),
    fun isGenerated => (isChained_remove_iff ht isGenerated).2 (bridges_of_isPlain ht hp isGenerated)⟩

example : let t : Text := "import aRoutes from './a.routes';\napp\n  .use(aRoutes)\n  .use(bRoutes);\n"
    IsPlain t.lines := by
  intro t
  have hlinks : ∀ line ∈ t.lines, isImport line ∨ lineKind line = .other ∨
      startsLink line ∧ (isTerminated line → isOpen line = false) := by decide +kernel
  refine ⟨by decide +kernel, fun line hline name hk => ?_, by decide +kernel⟩
  rcases hlinks line hline with h | h | h
  · rw [isImport_eq_false_of_useOf hk] at h
    cases h
  · rw [h] at hk
    cases hk
  · exact h

/-! ## Edits -/

/-- An addition keeps a chained text chained exactly if the text accommodates the module, and a
removal exactly if it bridges the gaps that it makes. -/
theorem isChained_edits_iff {t : Text} (ht : IsChained t.lines) :
    (∀ m : Manifest, IsName m.variableName →
      (IsChained (upsert t m).text.lines ↔ Accommodates t m)) ∧
    ∀ isGenerated, IsChained (remove t isGenerated).text.lines ↔ Bridges (fates t isGenerated) :=
  ⟨fun _ hn => isChained_upsert_iff ht hn, isChained_remove_iff ht⟩

/-- A chain that a comment follows cannot take a registration, and a removal that takes the line at
the head of a chain leaves the rest without it. -/
theorem isChained_edits_iff_comment :
    let m : Manifest := ⟨"roles", "v1", "rolesV1Routes", "./roles.routes", "x", none⟩
    let gone : ImportMatcher := fun r => r.name == "aRoutes"
    let imports : Text := "import aRoutes from './a.routes';\n"
    let plain : Text := imports ++ "const app = base\n  .use(aRoutes)\n\n  .listen(80);\n"
    let commented : Text := imports ++ "const app = base\n  .use(aRoutes); // last\n"
    let headed : Text := imports ++ "const app = base.use(aRoutes)\n  .listen(80);\n"
    (IsChained plain.lines ∧ Accommodates plain m ∧ Bridges (fates plain gone)) ∧
      (IsChained commented.lines ∧ ¬Accommodates commented m ∧ Bridges (fates commented gone)) ∧
      (IsChained headed.lines ∧ Accommodates headed m ∧ ¬Bridges (fates headed gone)) := by
  intro m gone imports plain commented headed
  have hname : IsName m.variableName := ⟨by decide, by decide⟩
  have hplain : IsChained plain.lines := by decide +kernel
  have hcommented : IsChained commented.lines := by decide +kernel
  have hheaded : IsChained headed.lines := by decide +kernel
  refine ⟨⟨hplain, ?_, ?_⟩, ⟨hcommented, ?_, ?_⟩, ⟨hheaded, ?_, ?_⟩⟩
  · exact ((isChained_edits_iff hplain).1 m hname).1 (by decide +kernel)
  · exact ((isChained_edits_iff hplain).2 gone).1 (by decide +kernel)
  · rw [← (isChained_edits_iff hcommented).1 m hname]
    decide +kernel
  · exact ((isChained_edits_iff hcommented).2 gone).1 (by decide +kernel)
  · exact ((isChained_edits_iff hheaded).1 m hname).1 (by decide +kernel)
  · rw [← (isChained_edits_iff hheaded).2 gone]
    decide +kernel

end Routewright.Aggregator
