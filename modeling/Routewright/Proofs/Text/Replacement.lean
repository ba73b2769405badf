/-
Replacing the occurrences of a piece, one code point of the text at a time. The replacements that a
text goes through inside a template literal come out as a single pass: none of them meets what an
earlier one has put in, because a backslash opens no substitution and neither of the escapes starts
with the brace that would.
-/
import Mathlib.Data.List.Basic
import Mathlib.Tactic.SplitIfs
import Routewright.Text.Quoted

namespace Routewright.Text

/-! ## Pieces of one and of two code points -/

/-- A piece of one code point is replaced wherever it stands. -/
theorem replaceAll_one (d : CodePoint) (replacement t : Text) :
    t.replaceAll [d] replacement = t.flatMap fun c => if c = d then replacement else [c] := by
  unfold replaceAll
  induction t with
  | nil => rfl
  | cons c t ih =>
    rw [replaceAfter, List.flatMap_cons, ← ih]
    by_cases h : c = d
    · rw [if_pos (by simp [h]), if_pos h]
      rfl
    · rw [if_neg (by simpa using Ne.symm h), if_neg h]
      rfl

section Two

variable {c d e : CodePoint} (replacement t : Text)

/-- A piece of two code points is replaced where the first one stands before the second. -/
theorem replaceAll_two_pair :
    replaceAll (d :: e :: t) [d, e] replacement = replacement ++ replaceAll t [d, e] replacement := by
  unfold replaceAll
  rw [replaceAfter, if_pos (by simp)]
  rfl

theorem replaceAll_two_cons (h : ¬(c = d ∧ t.head? = some e)) :
    replaceAll (c :: t) [d, e] replacement = c :: replaceAll t [d, e] replacement := by
  unfold replaceAll
  rw [replaceAfter, if_neg]
  rw [List.isPrefixOf_iff_prefix, List.cons_prefix_cons]
  rintro ⟨rfl, tail, rfl⟩
  exact h ⟨rfl, rfl⟩

end Two

/-! ## Template literals -/

/-- What the first two replacements make of a code point. -/
def escapeMark (c : CodePoint) : Text :=
  if c = '\\' then ['\\', '\\'] else if c = '\x60' then ['\\', '\x60'] else [c]

theorem replaceAll_marks (t : Text) :
    (t.replaceAll "\\" "\\\\").replaceAll "\x60" "\\\x60" = t.flatMap escapeMark := by
  have hslash : Text.ofString "\\" = [CodePoint.ofChar '\\'] := rfl
  have htick : Text.ofString "\x60" = [CodePoint.ofChar '\x60'] := rfl
  rw [hslash, htick, replaceAll_one, replaceAll_one, List.flatMap_assoc]
  refine List.flatMap_congr fun c _ => ?_
  unfold escapeMark
  by_cases h : c = CodePoint.ofChar '\\'
  · rw [if_pos h, if_pos h]
    rfl
  · rw [if_neg h, if_neg h, List.flatMap_singleton]
    rfl

/-- The escapes start with a backslash, so a brace stands first only if it did before. -/
theorem head?_of_head?_flatMap_escapeMark {t : Text}
    (h : (t.flatMap escapeMark).head? = some (CodePoint.ofChar '\x7b')) :
    t.head? = some (CodePoint.ofChar '\x7b') := by
  cases t with
  | nil => cases h
  | cons c t =>
    rw [List.flatMap_cons, escapeMark] at h
    split_ifs at h
    · exact absurd (Option.some.inj h) (by decide)
    · exact absurd (Option.some.inj h) (by decide)
    · exact h

theorem escapeTemplate_nil : escapeTemplate [] = [] := rfl

/-- A text is escaped in a single pass. -/
theorem escapeTemplate_cons (c : CodePoint) (t : Text) : escapeTemplate (c :: t) =
    (if c = '\\' then '\\' :: '\\' :: escapeTemplate t
    else if c = '\x60' then '\\' :: '\x60' :: escapeTemplate t
    else if c = '$' ∧ t.head? = some (CodePoint.ofChar '\x7b') then '\\' :: '$' :: escapeTemplate t
    else c :: escapeTemplate t : Text) := by
  have hopen : Text.ofString "$\x7b" = [CodePoint.ofChar '$', CodePoint.ofChar '\x7b'] := rfl
  -- a code point that is no dollar sign is left alone by the last replacement
  have hplain {d : CodePoint} (hd : d ≠ CodePoint.ofChar '$') (s : Text) :
      replaceAll (d :: s) "$\x7b" "\\$\x7b" = d :: replaceAll s "$\x7b" "\\$\x7b" :=
    replaceAll_two_cons _ _ fun h => hd h.1
  unfold escapeTemplate
  rw [replaceAll_marks, replaceAll_marks, List.flatMap_cons, escapeMark]
  split_ifs with hslash htick hdollar
  · exact (hplain (by decide) _).trans (congrArg _ (hplain (by decide) _))
  · exact (hplain (by decide) _).trans (congrArg _ (hplain (by decide) _))
  · obtain ⟨rfl, hbrace⟩ := hdollar
    obtain ⟨rest, rfl⟩ := List.head?_eq_some_iff.1 hbrace
    have hmark : escapeMark (CodePoint.ofChar '\x7b') = [CodePoint.ofChar '\x7b'] := by decide
    rw [List.flatMap_cons, hmark, List.singleton_append, List.singleton_append, hopen,
      replaceAll_two_pair, ← hopen, hplain (by decide)]
    rfl
  · exact replaceAll_two_cons _ _ fun h =>
      hdollar ⟨h.1, head?_of_head?_flatMap_escapeMark h.2⟩

/-- With the backslashes escaped last, a back tick would end the literal. -/
example : ((Text.ofString "\x60").replaceAll "\x60" "\\\x60").replaceAll "\\" "\\\\" =
    "\\\\\x60" := by decide

end Routewright.Text
