/-
Removing from a text that has been removed from. Of the lines that stay some take a semicolon over,
and such a line is a link, which never reads as an import; so nothing is left that the same matcher,
or one that accepts less, would remove.
-/
import Routewright.Proofs.Aggregator.Layout

namespace Routewright.Aggregator

variable {accepts fewer : Acceptance} {t : Text} {line : Text}

theorem isTarget_eq_false_of_not_opensImport (accepts : Acceptance) (h : opensImport line = false) :
    isTarget accepts line = false := by
  unfold isTarget
  split
  · rename_i hk
    rw [opensImport_of_lineKind hk] at h
    cases h
  · rfl

theorem isTarget_eq_false_of_le (hle : ∀ name path, fewer name path → accepts name path)
    (h : isTarget accepts line = false) : isTarget fewer line = false := by
  unfold isTarget at h ⊢
  split
  · rename_i name path hk
    rw [hk] at h
    exact Bool.eq_false_iff.2 fun ha => Bool.eq_false_iff.1 h (hle name path ha)
  · rfl

theorem isTarget_takeTerminator (h : isTarget accepts line = false) :
    isTarget accepts (takeTerminator line) = false := by
  by_cases hsame : takeTerminator line = line
  · rw [hsame, h]
  · exact isTarget_eq_false_of_not_opensImport accepts (opensImport_takeTerminator hsame)

/-- No line that a removal leaves is one that it would remove. -/
theorem isTarget_of_mem_lines_remove (h : line ∈ (remove t accepts.matcher).text.lines) :
    isTarget accepts line = false := by
  rw [text_remove] at h
  have hcore : ∀ old ∈ core accepts t.lines, isTarget accepts old = false := by
    intro old hold
    simpa using (List.mem_filter.1 hold).2
  have hnewline := newline_notMem_unlink (registersAny (targetNames accepts t.lines))
    (fun line (hline : line ∈ core accepts t.lines) =>
      Text.newline_notMem_of_mem_lines (mem_of_mem_core hline))
  have hkept : ∀ line ∈ (unlink (registersAny (targetNames accepts t.lines))
      (core accepts t.lines)).1, isTarget accepts line = false := by
    intro line hline
    obtain ⟨old, hold, hline | hline⟩ := mem_unlink hline
    · rw [hline, hcore old hold]
    · rw [hline]
      exact isTarget_takeTerminator (hcore old hold)
  generalize (unlink _ _).1 = kept at h hnewline hkept
  by_cases hnil : kept = []
  · -- a text of no lines is one empty line
    rw [hnil] at h
    obtain rfl := List.mem_singleton.1 h
    exact isTarget_eq_false_of_not_opensImport accepts (by decide)
  · rw [Text.lines_unlines hnil hnewline] at h
    exact hkept line h

theorem remove_of_no_target (h : ∀ line ∈ t.lines, isTarget accepts line = false) :
    remove t accepts.matcher = ⟨t, [], []⟩ := by
  have hnone : (Survey.ofText t).imports.filter accepts.matcher = [] := by
    rw [← List.map_eq_nil_iff, Survey.ofText, places_imports, places_eq_nil h]
  rw [remove, hnone]
  rfl

/-- A removal leaves nothing to one that accepts no more. -/
theorem remove_remove (hle : ∀ name path, fewer name path → accepts name path) (t : Text) :
    remove (remove t accepts.matcher).text fewer.matcher =
      ⟨(remove t accepts.matcher).text, [], []⟩ :=
  remove_of_no_target fun _ hline => isTarget_eq_false_of_le hle (isTarget_of_mem_lines_remove hline)

end Routewright.Aggregator
