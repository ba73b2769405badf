/-
Texts in UTF-8: the texts that have bytes are those without surrogates, and each of them is read back
from its bytes and from no others.
-/
import Routewright.Text.Utf8

namespace Routewright

namespace CodePoint

theorem isSurrogate_ofChar (c : Char) : (ofChar c).isSurrogate = false := by
  have h := c.valid
  simp only [UInt32.isValidChar, Nat.isValidChar] at h
  have hval : (ofChar c).val = c.val.toNat := rfl
  refine Bool.eq_false_iff.2 fun hs => ?_
  rw [isSurrogate, Bool.and_eq_true, decide_eq_true_eq, decide_eq_true_eq, hval] at hs
  omega

theorem toChar?_ofChar (c : Char) : (ofChar c).toChar? = some c := by
  have h : (ofChar c).val.isValidChar := c.valid
  rw [toChar?, dif_pos h]
  exact congrArg some (Char.ext (UInt32.toNat_inj.1 rfl))

/-- A code point that is no surrogate is that of a scalar value. -/
theorem exists_ofChar_eq {c : CodePoint} (h : c.isSurrogate = false) : ∃ d : Char, ofChar d = c := by
  have hvalid : c.val.isValidChar := by
    have hlt := c.lt
    simp only [isSurrogate, Bool.and_eq_false_iff, decide_eq_false_iff_not] at h
    simp only [Nat.isValidChar]
    omega
  exact ⟨Char.ofNatAux c.val hvalid, ext rfl⟩

end CodePoint

namespace Text

theorem asString_ofString (s : String) : asString (ofString s) = s := by
  have hmap : (ofString s).map (fun c => c.toChar?.getD '\ufffd') = s.toList := by
    rw [ofString, List.map_map]
    refine (List.map_congr_left fun c _ => ?_).trans (List.map_id _)
    simp [CodePoint.toChar?_ofChar]
  rw [asString, hmap, String.ofList_toList]

theorem isSurrogate_of_mem_ofString {s : String} {c : CodePoint} (h : c ∈ ofString s) :
    c.isSurrogate = false := by
  obtain ⟨d, -, rfl⟩ := List.mem_map.1 h
  exact CodePoint.isSurrogate_ofChar d

theorem ofString_asString {t : Text} (h : ∀ c ∈ t, c.isSurrogate = false) :
    ofString (asString t) = t := by
  rw [ofString, asString, String.toList_ofList, List.map_map]
  refine (List.map_congr_left fun c hc => ?_).trans (List.map_id _)
  obtain ⟨d, rfl⟩ := CodePoint.exists_ofChar_eq (h c hc)
  simp [CodePoint.toChar?_ofChar]

theorem encode?_eq_some_iff {t : Text} {bytes : ByteArray} :
    t.encode? = some bytes ↔ (∀ c ∈ t, c.isSurrogate = false) ∧ t.asString.toUTF8 = bytes := by
  have hany : t.any CodePoint.isSurrogate = false ↔ ∀ c ∈ t, c.isSurrogate = false := by
    simp [List.any_eq_false]
  rw [← hany, encode?]
  cases t.any CodePoint.isSurrogate <;> simp

theorem fromUTF8?_eq_some_iff {bytes : ByteArray} {s : String} :
    String.fromUTF8? bytes = some s ↔ s.toUTF8 = bytes := by
  unfold String.fromUTF8?
  constructor
  · intro h
    split at h
    · obtain rfl := Option.some.inj h
      rfl
    · cases h
  · rintro rfl
    rw [String.toUTF8_eq_toByteArray, dif_pos s.isValidUTF8]
    rfl

/-- A text is what some bytes are read as exactly if they are its bytes. -/
theorem decode?_eq_some_iff {t : Text} {bytes : ByteArray} :
    decode? bytes = some t ↔ t.encode? = some bytes := by
  rw [encode?_eq_some_iff, decode?, Option.map_eq_some_iff]
  constructor
  · rintro ⟨s, hs, rfl⟩
    rw [asString_ofString]
    exact ⟨fun c => isSurrogate_of_mem_ofString, fromUTF8?_eq_some_iff.1 hs⟩
  · rintro ⟨hnone, hbytes⟩
    exact ⟨t.asString, fromUTF8?_eq_some_iff.2 hbytes, ofString_asString hnone⟩

end Text

end Routewright
