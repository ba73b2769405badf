/-
Laws of named parts: what is found after putting, erasing and merging, and that each of them acts on
the names alone, so that it commutes with a change of what is named.
-/
import Routewright.Document.Named

namespace Routewright.Document.Named

variable {α β : Type}

/-! ## Finding -/

theorem get?_cons_self (name : Text) (a : α) (m : Named α) : get? name ((name, a) :: m) = some a := by
  simp [get?]

theorem get?_cons_ne {name other : Text} (a : α) (m : Named α) (h : other ≠ name) :
    get? name ((other, a) :: m) = get? name m := by
  have : (name == other) = false := by simpa using fun he => h he.symm
  simp [get?, List.lookup_cons, this]

theorem get?_erase_self (name : Text) (m : Named α) : get? name (erase name m) = none := by
  induction m with
  | nil => rfl
  | cons e m ih =>
    obtain ⟨other, a⟩ := e
    by_cases h : other = name
    · subst h; simpa [erase] using ih
    · rw [show erase name ((other, a) :: m) = (other, a) :: erase name m by simp [erase, h],
        get?_cons_ne a _ h, ih]

theorem get?_erase_ne {name other : Text} (m : Named α) (h : other ≠ name) :
    get? name (erase other m) = get? name m := by
  induction m with
  | nil => rfl
  | cons e m ih =>
    obtain ⟨third, a⟩ := e
    by_cases ho : third = other
    · subst ho
      rw [show erase third ((third, a) :: m) = erase third m by simp [erase], ih,
        get?_cons_ne a _ h]
    · rw [show erase other ((third, a) :: m) = (third, a) :: erase other m by simp [erase, ho]]
      by_cases hn : third = name
      · subst hn; rw [get?_cons_self, get?_cons_self]
      · rw [get?_cons_ne a _ hn, get?_cons_ne a _ hn, ih]

/-- Erasing a name hides nothing else: what is still found was there before. -/
theorem get?_of_get?_erase {name other : Text} {m : Named α} {a : α}
    (h : get? name (erase other m) = some a) : get? name m = some a := by
  by_cases ho : other = name
  · subst ho; rw [get?_erase_self] at h; cases h
  · rwa [get?_erase_ne m ho] at h

/-! ## Changing what is named -/

/-- The same names for something else. -/
def mapValues (f : α → β) (m : Named α) : Named β := m.map fun e => (e.1, f e.2)

theorem get?_mapValues (f : α → β) (name : Text) (m : Named α) :
    get? name (mapValues f m) = (get? name m).map f := by
  induction m with
  | nil => rfl
  | cons e m ih =>
    obtain ⟨other, a⟩ := e
    show get? name ((other, f a) :: mapValues f m) = _
    by_cases h : other = name
    · subst h; rw [get?_cons_self, get?_cons_self]; rfl
    · rw [get?_cons_ne _ _ h, get?_cons_ne _ _ h, ih]

theorem mapValues_put (f : α → β) (name : Text) (a : α) (m : Named α) :
    mapValues f (put name a m) = put name (f a) (mapValues f m) := by
  induction m with
  | nil => rfl
  | cons e m ih =>
    by_cases h : e.1 = name
    · simp [put, mapValues, h]
    · simpa [put, mapValues, h] using ih

theorem mapValues_erase (f : α → β) (name : Text) (m : Named α) :
    mapValues f (erase name m) = erase name (mapValues f m) := by
  simp [mapValues, erase, List.filter_map, Function.comp_def]

theorem mapValues_putAll (f : α → β) (m additions : Named α) :
    mapValues f (putAll m additions) = putAll (mapValues f m) (mapValues f additions) := by
  induction additions generalizing m with
  | nil => rfl
  | cons e rest ih =>
    show mapValues f (putAll (put e.1 e.2 m) rest) = _
    rw [ih, mapValues_put]; rfl

/-! ## Merging -/

theorem putAll_cons (m : Named α) (e : Text × α) (rest : Named α) :
    putAll m (e :: rest) = putAll (put e.1 e.2 m) rest := rfl

theorem eq_or_mem_of_mem_put {name : Text} {a : α} {m : Named α} {e : Text × α}
    (h : e ∈ put name a m) : e = (name, a) ∨ e ∈ m := by
  induction m with
  | nil => exact .inl (List.mem_singleton.1 h)
  | cons old m ih =>
    by_cases ho : old.1 = name
    · simp only [put, ho, if_true, List.mem_cons] at h
      exact h.imp_right (List.mem_cons_of_mem _)
    · simp only [put, ho, if_false, List.mem_cons] at h
      rcases h with rfl | h
      · exact .inr List.mem_cons_self
      · exact (ih h).imp_right (List.mem_cons_of_mem _)

/-- The names of what is put anew are among the old ones and the one that is put. -/
theorem mem_put {name : Text} {a : α} {m : Named α} {e : Text × α} (h : e ∈ put name a m) :
    e.1 = name ∨ e ∈ m :=
  (eq_or_mem_of_mem_put h).imp_left (congrArg Prod.fst)

theorem mem_putAll {m additions : Named α} {e : Text × α} (h : e ∈ putAll m additions) :
    e ∈ m ∨ e.1 ∈ additions.map Prod.fst := by
  induction additions generalizing m with
  | nil => exact .inl h
  | cons new rest ih =>
    rw [putAll_cons] at h
    rcases ih h with h | h
    · rcases mem_put h with h | h
      · exact .inr (by simp [h])
      · exact .inl h
    · exact .inr (List.mem_cons_of_mem _ h)

/-- Everything in a merger comes from one side or the other. -/
theorem mem_or_mem_of_mem_putAll {m additions : Named α} {e : Text × α}
    (h : e ∈ putAll m additions) : e ∈ m ∨ e ∈ additions := by
  induction additions generalizing m with
  | nil => exact .inl h
  | cons new rest ih =>
    rcases ih h with h | h
    · rcases eq_or_mem_of_mem_put h with rfl | h
      · exact .inr List.mem_cons_self
      · exact .inl h
    · exact .inr (List.mem_cons_of_mem _ h)

theorem get?_put_ne {name other : Text} (a : α) (m : Named α) (h : other ≠ name) :
    get? name (put other a m) = get? name m := by
  induction m with
  | nil => exact get?_cons_ne a [] h
  | cons old m ih =>
    obtain ⟨third, b⟩ := old
    rw [put]
    split
    · rename_i ho
      rw [get?_cons_ne a m h, get?_cons_ne b m (fun hn => h (ho.symm.trans hn))]
    · by_cases hn : third = name
      · subst hn; rw [get?_cons_self, get?_cons_self]
      · rw [get?_cons_ne b _ hn, get?_cons_ne b _ hn, ih]

theorem get?_putAll_of_notMem {name : Text} {m additions : Named α}
    (h : name ∉ additions.map Prod.fst) : get? name (putAll m additions) = get? name m := by
  induction additions generalizing m with
  | nil => rfl
  | cons new rest ih =>
    rw [List.map_cons, List.mem_cons, not_or] at h
    rw [putAll_cons, ih h.2, get?_put_ne _ _ (Ne.symm h.1)]

/-- Additions that agree on a name decide what bears it. -/
theorem get?_putAll_of_mem {name : Text} {a : α} {m additions : Named α}
    (h : name ∈ additions.map Prod.fst) (ha : ∀ e ∈ additions, e.1 = name → e.2 = a) :
    get? name (putAll m additions) = some a := by
  induction additions generalizing m with
  | nil => cases h
  | cons new rest ih =>
    rw [putAll_cons]
    by_cases hrest : name ∈ rest.map Prod.fst
    · exact ih hrest fun e he => ha e (List.mem_cons_of_mem _ he)
    · obtain rfl : name = new.1 := (List.mem_cons.1 h).resolve_right hrest
      rw [get?_putAll_of_notMem hrest, get?_put_self, ha new List.mem_cons_self rfl]

/-! ## Names -/

theorem exists_get?_iff {name : Text} {m : Named α} :
    (∃ a, get? name m = some a) ↔ name ∈ m.map Prod.fst := by
  induction m with
  | nil => simp [get?]
  | cons e m ih =>
    obtain ⟨other, b⟩ := e
    rw [List.map_cons, List.mem_cons]
    by_cases h : other = name
    · subst h; simp [get?_cons_self]
    · rw [get?_cons_ne b m h, ih, or_iff_right (Ne.symm h)]

theorem mem_names_put {name other : Text} {a : α} {m : Named α} :
    name ∈ (put other a m).map Prod.fst ↔ name = other ∨ name ∈ m.map Prod.fst := by
  rw [← exists_get?_iff, ← exists_get?_iff]
  by_cases h : other = name
  · subst h; simp [get?_put_self]
  · rw [get?_put_ne a m h, or_iff_right (Ne.symm h)]

theorem mem_names_putAll {name : Text} {m additions : Named α} :
    name ∈ (putAll m additions).map Prod.fst ↔
      name ∈ m.map Prod.fst ∨ name ∈ additions.map Prod.fst := by
  induction additions generalizing m with
  | nil => simp [putAll]
  | cons new rest ih =>
    rw [putAll_cons, ih, mem_names_put, List.map_cons, List.mem_cons, or_assoc, or_left_comm]

/-! ## Taking names away -/

/-- What is left when some names are taken away. -/
def without (names : List Text) (m : Named α) : Named α := m.filter fun e => !names.contains e.1

theorem without_nil (m : Named α) : without [] m = m := by
  simp [without]

theorem without_cons (name : Text) (names : List Text) (m : Named α) :
    without (name :: names) m = without names (erase name m) := by
  rw [without, without, erase, List.filter_filter]
  refine List.filter_congr fun e _ => ?_
  by_cases h : e.1 = name <;> simp [h]

theorem mem_names_without {name : Text} {names : List Text} {m : Named α} :
    name ∈ (without names m).map Prod.fst ↔ name ∈ m.map Prod.fst ∧ name ∉ names := by
  simp only [without, List.mem_map, List.mem_filter, Bool.not_eq_true', List.contains_eq_mem,
    decide_eq_false_iff_not]
  constructor
  · rintro ⟨e, ⟨he, hn⟩, rfl⟩
    exact ⟨⟨e, he, rfl⟩, hn⟩
  · rintro ⟨⟨e, he, rfl⟩, hn⟩
    exact ⟨e, ⟨he, hn⟩, rfl⟩

theorem get?_without_of_notMem {name : Text} {names : List Text} (m : Named α)
    (h : name ∉ names) : get? name (without names m) = get? name m := by
  induction names generalizing m with
  | nil => rw [without_nil]
  | cons first names ih =>
    rw [List.mem_cons, not_or] at h
    rw [without_cons, ih _ h.2, get?_erase_ne m (Ne.symm h.1)]

theorem get?_without_of_mem {name : Text} {names : List Text} (m : Named α) (h : name ∈ names) :
    get? name (without names m) = none := by
  refine Option.eq_none_iff_forall_ne_some.2 fun a ha => ?_
  exact (mem_names_without.1 (exists_get?_iff.1 ⟨a, ha⟩)).2 h

end Routewright.Document.Named
