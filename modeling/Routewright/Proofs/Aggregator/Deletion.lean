/-
What a removal leaves, said line by line. The imports that are accepted go, then the registrations of
their variables; every other line stays as it is and where it is, except that a link takes over a
semicolon that the run of deleted lines right behind it hands up. Which links those are is said of
the lines before the deletion, without the order in which lines are deleted.
-/
import Routewright.Proofs.Aggregator.Remove

namespace Routewright.Aggregator

/-! ## Semicolons that are handed up -/

theorem isTerminated_addTerminator (line : Text) : isTerminated (addTerminator line) := by
  obtain ⟨blanks, -, hb, hadd⟩ := exists_addTerminator_eq line
  rw [hadd]
  exact isTerminated_iff.2 ⟨_, blanks, rfl, hb⟩

theorem isTerminated_takeTerminator (line : Text) :
    isTerminated (takeTerminator line) = (isTerminated line || startsLink line) := by
  unfold takeTerminator
  rw [isChainLink_eq]
  split
  · rename_i h
    simp only [Bool.and_eq_true] at h
    rw [isTerminated_addTerminator, h.1, Bool.or_true]
  · rename_i h
    cases ht : isTerminated line <;> cases hs : startsLink line <;> simp_all

/-! ## Runs -/

/-- Whether a run of deleted lines hands a semicolon up: one of its lines ends in one, and the lines
before the first such line are links. -/
def handsUp (run : List Text) : Bool :=
  run.any isTerminated && (run.takeWhile (!isTerminated ·)).all startsLink

theorem handsUp_cons (line : Text) (run : List Text) :
    handsUp (line :: run) = (isTerminated line || (startsLink line && handsUp run)) := by
  unfold handsUp
  cases h : isTerminated line
  · simp [h, Bool.and_left_comm]
  · simp [h]

/-- The longest run of lines with some numbers that lines, numbered from `number` on, start with. -/
def runFrom (gone : List Nat) (number : Nat) (lines : List Text) : List Text :=
  ((lines.zipIdx number).takeWhile fun p => gone.contains p.2).map (·.1)

theorem runFrom_cons (gone : List Nat) (number : Nat) (line : Text) (lines : List Text) :
    runFrom gone number (line :: lines) =
      if gone.contains number then line :: runFrom gone (number + 1) lines else [] := by
  unfold runFrom
  rw [List.zipIdx_cons, List.takeWhile_cons]
  split <;> rfl

/-- The run of lines with some numbers right behind a line of a text. -/
def runBehind (gone : List Nat) (lines : List Text) (number : Nat) : List Text :=
  runFrom gone (number + 1) (lines.drop number)

theorem deleteLinks_snd (gone : List Nat) (number : Nat) (lines : List Text) :
    (deleteLinks gone number lines).2 = handsUp (runFrom gone number lines) := by
  induction lines generalizing number with
  | nil => rfl
  | cons line lines ih =>
    rw [deleteLinks, runFrom_cons]
    dsimp only
    split
    · rw [handsUp_cons, ← ih (number + 1)]
      dsimp only
      split
      · rename_i hhanded
        rw [isTerminated_takeTerminator, hhanded, Bool.and_true]
      · rename_i hhanded
        rw [Bool.not_eq_true] at hhanded
        rw [hhanded, Bool.and_false, Bool.or_false]
    · rfl

/-- What becomes of a line that stays, where `run` is the run of deleted lines right behind it. A link
without a semicolon that is handed one has it between its code and the blanks that it ends in. -/
def settled (run : List Text) (line : Text) : Text :=
  if startsLink line && !isTerminated line && handsUp run then
    line.stripEnd ++ ";" ++ line.rtakeWhile CodePoint.isBlank
  else line

theorem settled_eq (run : List Text) (line : Text) :
    settled run line = if handsUp run then takeTerminator line else line := by
  unfold settled takeTerminator
  rw [isChainLink_eq, addTerminator_eq]
  cases handsUp run <;> simp

/-- Deleting from the last line to the first leaves the other lines as the runs behind them say. -/
theorem deleteLinks_fst (gone : List Nat) (number : Nat) (lines : List Text) :
    (deleteLinks gone (number + 1) lines).1 =
      ((lines.zipIdx (number + 1)).filter fun p => !gone.contains p.2).map fun p =>
        settled (runFrom gone (p.2 + 1) (lines.drop (p.2 - number))) p.1 := by
  induction lines generalizing number with
  | nil => rfl
  | cons line lines ih =>
    have hrest : ((lines.zipIdx (number + 1 + 1)).filter fun p => !gone.contains p.2).map (fun p =>
        settled (runFrom gone (p.2 + 1) ((line :: lines).drop (p.2 - number))) p.1) =
          (deleteLinks gone (number + 1 + 1) lines).1 := by
      rw [ih (number + 1)]
      refine List.map_congr_left fun p hp => ?_
      have hle := List.le_snd_of_mem_zipIdx (List.mem_filter.1 hp).1
      obtain ⟨k, hk⟩ : ∃ k, p.2 - number = k + 1 := ⟨p.2 - number - 1, by omega⟩
      have hk' : p.2 - (number + 1) = k := by omega
      rw [hk, hk', List.drop_succ_cons]
    rw [deleteLinks, List.zipIdx_cons]
    dsimp only
    cases hgone : gone.contains (number + 1)
    · rw [List.filter_cons_of_pos (by rw [hgone]; rfl), List.map_cons, hrest, settled_eq,
        deleteLinks_snd, Nat.add_sub_cancel_left]
      rfl
    · rw [List.filter_cons_of_neg (by rw [hgone]; simp), hrest]
      rfl

/-! ## Removals -/

/-- The registrations that a removal takes out, numbered without the imports that go. -/
def removedUses (t : Text) (isGenerated : ImportMatcher) : List UseRecord :=
  (Survey.ofLines 1 (unimported t isGenerated)).uses.filter fun r =>
    (removedNames t isGenerated).contains r.name

/-- The lines that a removal leaves: of those without the imports that go, the ones that hold no
registration that goes, with the semicolons they are handed. -/
def remainingLines (t : Text) (isGenerated : ImportMatcher) : List Text :=
  let lines := unimported t isGenerated
  let gone := (removedUses t isGenerated).map (·.line)
  ((lines.zipIdx 1).filter fun p => !gone.contains p.2).map fun p =>
    settled (runBehind gone lines p.2) p.1

/-- A removal without an import to take out changes nothing. Any other one takes out these imports
and the registrations of their variables, and leaves the remaining lines in order. -/
theorem remove_eq (t : Text) (isGenerated : ImportMatcher) :
    remove t isGenerated =
      if removedImports t isGenerated = [] then ⟨t, [], []⟩
      else ⟨Text.unlines (remainingLines t isGenerated), removedImports t isGenerated,
        removedUses t isGenerated⟩ := by
  have hleft : withoutLines ((removedImports t isGenerated).map (·.line)) 1 t.lines =
      unimported t isGenerated := withoutLines_eq_filter _ 1 _
  have hdeleted : remove t isGenerated = if (removedImports t isGenerated).isEmpty then ⟨t, [], []⟩
      else ⟨Text.unlines (deleteLinks ((removedUses t isGenerated).map (·.line)) 1
        (unimported t isGenerated)).1, removedImports t isGenerated, removedUses t isGenerated⟩ := by
    rw [removedUses, ← hleft]
    rfl
  have hlines : (deleteLinks ((removedUses t isGenerated).map (·.line)) 1
      (unimported t isGenerated)).1 = remainingLines t isGenerated := deleteLinks_fst _ 0 _
  rw [hdeleted, hlines]
  by_cases hnone : removedImports t isGenerated = []
  · rw [if_pos hnone, if_pos (List.isEmpty_iff.2 hnone)]
  · rw [if_neg hnone, if_neg (by rwa [List.isEmpty_iff])]

end Routewright.Aggregator
