/-
The names of specs: what a spec that is loaded calls its module and its version, and the variable that
is made of both.
-/
import Routewright.Proofs.Aggregator.Record
import Routewright.Proofs.Document.Checked
import Routewright.Spec.File

namespace Routewright

open Document

/-! ## Names of ASCII words -/

/-- A name of ASCII letters, digits and underscores. -/
structure IsAsciiName (name : Text) : Prop extends Aggregator.IsName name where
  ascii : ∀ c ∈ name, c.val < 128

namespace CodePoint

theorem isWord_of_isDigit {c : CodePoint} (h : c.isDigit) : c.val < 128 ∧ c.isWord := by
  have hlt : c.val < 128 := by
    simp only [isDigit, Bool.and_eq_true, decide_eq_true_eq] at h
    omega
  exact ⟨hlt, by simp [isWord, hlt, h]⟩

theorem isWord_of_isLetter {c : CodePoint} (h : c.isLetter) : c.val < 128 ∧ c.isWord := by
  have hlt : c.val < 128 := by
    simp only [isLetter, isLower, isUpper, Bool.or_eq_true, Bool.and_eq_true,
      decide_eq_true_eq] at h
    omega
  exact ⟨hlt, by simp [isWord, hlt, h]⟩

/-- The capital form of a word character of ASCII is one. -/
theorem isWord_of_mem_upper {c d : CodePoint} (hc : c.val < 128) (hw : c.isWord)
    (hd : d ∈ c.upper) : d.val < 128 ∧ d.isWord := by
  rw [upper, if_pos hc] at hd
  obtain rfl := List.mem_singleton.1 hd
  split
  · rename_i hl
    simp only [isLower, Bool.and_eq_true, decide_eq_true_eq] at hl
    have hval : (ofNat (c.val - 32)).val = c.val - 32 := by
      rw [ofNat, dif_pos (by omega)]
    refine isWord_of_isLetter ?_
    simp only [isLetter, isUpper, isLower, hval, Bool.or_eq_true, Bool.and_eq_true,
      decide_eq_true_eq]
    omega
  · exact ⟨hc, hw⟩

end CodePoint

namespace IsAsciiName

theorem append {s t : Text} (hs : IsAsciiName s) (ht : IsAsciiName t) : IsAsciiName (s ++ t) := by
  refine ⟨⟨by simp [hs.ne_nil], fun c hc => ?_⟩, fun c hc => ?_⟩
  · exact (List.mem_append.1 hc).elim (hs.word c) (ht.word c)
  · exact (List.mem_append.1 hc).elim (hs.ascii c) (ht.ascii c)

theorem capitalised {t : Text} (ht : IsAsciiName t) : IsAsciiName t.capitalised := by
  obtain ⟨c, rest, rfl⟩ := List.exists_cons_of_ne_nil ht.ne_nil
  have hmem : ∀ d ∈ Text.capitalised (c :: rest), d.val < 128 ∧ d.isWord := by
    intro d hd
    rcases List.mem_append.1 hd with hd | hd
    · exact CodePoint.isWord_of_mem_upper (ht.ascii c List.mem_cons_self)
        (ht.word c List.mem_cons_self) hd
    · have := List.mem_cons_of_mem c hd
      exact ⟨ht.ascii d this, ht.word d this⟩
  refine ⟨⟨?_, fun d hd => (hmem d hd).2⟩, fun d hd => (hmem d hd).1⟩
  have hupper : c.upper ≠ [] := by
    rw [CodePoint.upper, if_pos (ht.ascii c List.mem_cons_self)]
    exact List.cons_ne_nil _ _
  simp [Text.capitalised, hupper]

end IsAsciiName

/-! ## Names of specs -/

namespace Spec

theorem isAsciiName_of_isModuleName {t : Text} (h : isModuleName t) : IsAsciiName t := by
  cases t with
  | nil => cases h
  | cons c rest =>
    simp only [isModuleName, Bool.and_eq_true, List.all_eq_true, Bool.or_eq_true, beq_iff_eq] at h
    have hmem : ∀ d ∈ c :: rest, d.val < 128 ∧ d.isWord := by
      intro d hd
      rcases List.mem_cons.1 hd with rfl | hd
      · exact CodePoint.isWord_of_isLetter (by simp [CodePoint.isLetter, h.1])
      · rcases h.2 d hd with (h | h) | rfl
        · exact CodePoint.isWord_of_isLetter (by simp [CodePoint.isLetter, h])
        · exact CodePoint.isWord_of_isDigit h
        · decide
    exact ⟨⟨List.cons_ne_nil _ _, fun d hd => (hmem d hd).2⟩, fun d hd => (hmem d hd).1⟩

theorem isAsciiName_of_isVersionName {t : Text} (h : isVersionName t) : IsAsciiName t := by
  cases t with
  | nil => cases h
  | cons c rest =>
    simp only [isVersionName, Bool.and_eq_true, List.all_eq_true, Bool.or_eq_true,
      beq_iff_eq] at h
    have hmem : ∀ d ∈ c :: rest, d.val < 128 ∧ d.isWord := by
      intro d hd
      rcases List.mem_cons.1 hd with rfl | hd
      · rcases h.1 with h | rfl
        · exact CodePoint.isWord_of_isLetter h
        · decide
      · rcases h.2 d hd with (h | h) | rfl
        · exact CodePoint.isWord_of_isLetter h
        · exact CodePoint.isWord_of_isDigit h
        · decide
    exact ⟨⟨List.cons_ne_nil _ _, fun d hd => (hmem d hd).2⟩, fun d hd => (hmem d hd).1⟩

/-- A spec whose module and version have names of ASCII words. -/
structure IsNamed (s : Spec) : Prop where
  module : IsAsciiName s.module
  version : IsAsciiName s.version

theorem names_of_check {v : Value} {s : Spec} (h : check v = .accepted s) :
    isModuleName s.module ∧ isVersionName s.version := by
  obtain ⟨es, -, hfields⟩ := Check.model_accepted h
  obtain ⟨g, routes, hg, -, hspec⟩ := Checked.seq_accepted hfields
  obtain ⟨f, version, hf, hversion, hmk⟩ := Checked.seq_accepted hg
  obtain ⟨module, hmodule, hmodule'⟩ := Checked.map_accepted hf
  obtain ⟨_, hversion⟩ := Check.required_accepted hversion
  obtain ⟨_, hmodule⟩ := Check.required_accepted hmodule
  rw [← hspec, ← hmk, ← hmodule']
  exact ⟨Check.stringLike_accepted hmodule, Check.stringLike_accepted hversion⟩

theorem names_of_ofValue {source : Text} {v : Value} {s : Spec} (h : ofValue source v = .ok s) :
    isModuleName s.module ∧ isVersionName s.version := by
  unfold ofValue at h
  split at h
  · split at h
    · split at h
      · cases h
        exact names_of_check (by assumption)
      · cases h
    · cases h
  · cases h

theorem isNamed_of_ofValue {source : Text} {v : Value} {s : Spec} (h : ofValue source v = .ok s) :
    s.IsNamed :=
  (names_of_ofValue h).elim fun hmodule hversion =>
    ⟨isAsciiName_of_isModuleName hmodule, isAsciiName_of_isVersionName hversion⟩

theorem isNamed_of_ofText {file : FilePath} {t : Text} {s : Spec} (h : ofText file t = .ok s) :
    s.IsNamed := by
  have hvalue : ∀ x : Except Stop Value,
      (x.bind fun v => (ofValue file.toText v).mapError fun e => .failure (.document e)) = .ok s →
        s.IsNamed := by
    rintro (e | v) hx
    · cases hx
    · change (ofValue file.toText v).mapError _ = _ at hx
      cases hv : ofValue file.toText v with
      | error e => rw [hv] at hx; cases hx
      | ok spec =>
        rw [hv] at hx
        cases hx
        exact isNamed_of_ofValue hv
  unfold ofText at h
  dsimp only at h
  split at h
  · cases h
  · split at h
    · exact hvalue _ h
    · exact hvalue _ h

theorem isNamed_of_load {t : Tree} {file : FilePath} {s : Spec} (h : load t file = .ok s) :
    s.IsNamed := by
  unfold load at h
  cases hread : (t.read file).mapError (readStop file) with
  | error e => rw [hread] at h; cases h
  | ok content =>
    rw [hread] at h
    change ofContent file content = _ at h
    unfold ofContent at h
    split at h
    · exact isNamed_of_ofText h
    · cases h

/-! ## Variables -/

theorem isAsciiName_routesMark : IsAsciiName Aggregator.routesMark :=
  ⟨⟨by decide, by decide⟩, by decide⟩

theorem IsNamed.isAsciiName_variableName {s : Spec} (h : s.IsNamed) :
    IsAsciiName s.variableName :=
  (h.module.append h.version.capitalised).append isAsciiName_routesMark

theorem endsWith_variableName (s : Spec) : s.variableName.endsWith Aggregator.routesMark :=
  Text.endsWith_iff.2 (List.suffix_append _ _)

end Spec

end Routewright
