/-
Manifests are read back: the text that a manifest is written as, read as any file with line ends made
uniform and validated, is the manifest. Quoted text has no line end of its own, so making them uniform
changes nothing.
-/
import Routewright.Module.Manifest
import Routewright.Proofs.Document.Entries
import Routewright.Proofs.Module.Scalar

namespace Routewright

open Document Document.Json

namespace Manifest

/-! ## The text of a manifest -/

/-- The entries of a manifest. -/
def texts (m : Manifest) : List (Text × Option Text) := [
  ("module", some m.module), ("version", some m.version), ("variable_name", some m.variableName),
  ("import_path", some m.importPath), ("module_path", some m.modulePath),
  ("source_spec", m.sourceSpec)]

theorem json_eq (m : Manifest) : m.json = mappingText m.texts := rfl

theorem check_dump (m : Manifest) : check m.dump = .accepted m := by
  obtain ⟨_, _, _, _, _, sourceSpec⟩ := m
  cases sourceSpec <;> rfl

theorem return_notMem_json (m : Manifest) : CodePoint.ofChar '\r' ∉ m.json := by
  intro h
  rw [json_eq] at h
  rcases mem_mappingText h with h | ⟨h, -⟩
  · exact absurd h (by decide)
  · exact absurd h (by decide)

/-- A manifest without surrogates is read back from its JSON text, with blanks behind it or not. -/
theorem ofJson_json {m : Manifest} (h : ∀ c ∈ m.json, c.isSurrogate = false) {blank : Text}
    (hblank : ∀ c ∈ blank, isSpace c) : ofJson (m.json ++ blank) = .accepted m := by
  rw [json_eq] at h
  rw [ofJson, json_eq, texts, readStrict?_mappingText h hblank]
  exact check_dump m

theorem IsScalar.of_mem_texts {m : Manifest} (h : m.IsScalar) {e : Text × Option Text}
    (he : e ∈ m.texts) : e.1.IsScalar ∧ ∀ t, e.2 = some t → t.IsScalar := by
  have hsome {t : Text} (ht : t.IsScalar) : ∀ u, some t = some u → u.IsScalar := by
    rintro u hu
    rwa [← Option.some.inj hu]
  simp only [texts, List.mem_cons, List.not_mem_nil, or_false] at he
  rcases he with rfl | rfl | rfl | rfl | rfl | rfl
  · exact ⟨.ofString _, hsome h.module⟩
  · exact ⟨.ofString _, hsome h.version⟩
  · exact ⟨.ofString _, hsome h.variableName⟩
  · exact ⟨.ofString _, hsome h.importPath⟩
  · exact ⟨.ofString _, hsome h.modulePath⟩
  · exact ⟨.ofString _, h.sourceSpec⟩

/-- The text of a manifest holds no surrogate that is not in one of its texts. -/
theorem IsScalar.json {m : Manifest} (h : m.IsScalar) : m.json.IsScalar := by
  intro c hc
  rw [json_eq] at hc
  rcases mem_mappingText hc with rfl | ⟨-, hascii | ⟨e, he, hkey | ⟨t, ht, hvalue⟩⟩⟩
  · decide
  · exact Text.IsScalar.of_ascii (t := [c]) (by simpa using hascii) c List.mem_cons_self
  · exact (h.of_mem_texts he).1 c hkey
  · exact (h.of_mem_texts he).2 t ht c hvalue

/-- A manifest can be written exactly if its texts hold no surrogates. -/
theorem isWritable_iff {m : Manifest} : m.isWritable ↔ m.IsScalar := by
  have hany (t : Text) : t.any CodePoint.isSurrogate = false ↔ t.IsScalar := by
    simp [Text.IsScalar]
  have hsource : (m.sourceSpec.getD []).IsScalar ↔
      ∀ source, m.sourceSpec = some source → source.IsScalar := by
    cases m.sourceSpec <;> simp [Text.IsScalar]
  simp only [isWritable, List.any_cons, List.any_nil, Bool.not_eq_true', Bool.or_eq_false_iff, hany,
    hsource]
  constructor
  · rintro ⟨hmodule, hversion, hvariable, himport, hpath, hsource, -⟩
    exact ⟨hmodule, hversion, hvariable, himport, hpath, hsource⟩
  · rintro ⟨hmodule, hversion, hvariable, himport, hpath, hsource⟩
    exact ⟨hmodule, hversion, hvariable, himport, hpath, hsource, trivial⟩

end Manifest

end Routewright
