/-
Trees of files: what stands at a place after an entry is put or erased, where a path leads, and when
it still leads there in a tree that has grown. A path is followed through directories only, so a tree
that keeps its directories keeps every way through them.
-/
import Mathlib.Data.List.Infix
import Routewright.Project.Tree
import Routewright.Proofs.FilePath

namespace Routewright

/-! ## Names of files -/

/-- A name that is listed as it is written and leads down. -/
structure IsPlainName (name : Text) : Prop where
  listed : name.listedName = name
  down : name ≠ FilePath.above

theorem isPlainName_of_ascii {name : Text} (h : ∀ c ∈ name, c.val < 128)
    (hd : name ≠ FilePath.above) : IsPlainName name := by
  refine ⟨?_, hd⟩
  have hnone : name.any CodePoint.isSurrogate = false := by
    refine List.any_eq_false.2 fun c hc hs => ?_
    have := h c hc
    simp only [CodePoint.isSurrogate, Bool.and_eq_true, decide_eq_true_eq] at hs
    omega
  rw [Text.listedName, hnone]
  rfl

/-! ## Paths -/

namespace FilePath

theorem fault?_eq_none_iff {p : FilePath} : p.fault? = none ↔
    ∃ bytes, p.toText.nameBytes? = some bytes ∧ 0 ∉ bytes ∧ bytes.length < pathByteLimit := by
  unfold fault?
  cases p.toText.nameBytes? with
  | none => simp
  | some bytes =>
    simp only [Option.some.injEq, exists_eq_left']
    split
    · rename_i h
      simp [List.contains_iff_mem.1 h]
    · rename_i h
      have hzero : 0 ∉ bytes := fun hmem => h (List.contains_iff_mem.2 hmem)
      split
      · rename_i hl
        simp only [reduceCtorEq, false_iff, not_and, Nat.not_lt]
        exact fun _ => hl
      · rename_i hl
        exact iff_of_true rfl ⟨hzero, Nat.lt_of_not_le hl⟩

/-- The start of a path that has no fault has none either. -/
theorem fault?_eq_none_of_prefix_toText {p q : FilePath} (h : p.toText <+: q.toText)
    (hq : q.fault? = none) : p.fault? = none := by
  -- the bytes of the path start with those of its start
  obtain ⟨bytes, hbytes, hzero, hlen⟩ := fault?_eq_none_iff.1 hq
  obtain ⟨rest, hrest⟩ := h
  rw [← hrest, Text.nameBytes?, List.mapM_append] at hbytes
  cases hp : p.toText.mapM CodePoint.nameBytes? with
  | none => rw [hp] at hbytes; cases hbytes
  | some front =>
    cases hr : rest.mapM CodePoint.nameBytes? with
    | none => rw [hp, hr] at hbytes; cases hbytes
    | some back =>
      rw [hp, hr] at hbytes
      obtain rfl : (front ++ back).flatten = bytes := Option.some.inj hbytes
      rw [List.flatten_append] at hzero hlen
      refine fault?_eq_none_iff.2 ⟨front.flatten, by rw [Text.nameBytes?, hp]; rfl, ?_, ?_⟩
      · exact fun hmem => hzero (List.mem_append_left _ hmem)
      · rw [List.length_append] at hlen
        omega

theorem join_prefix_append {separator : Text} {first : List Text} (hne : first ≠ [])
    (rest : List Text) : Text.join separator first <+: Text.join separator (first ++ rest) := by
  induction first with
  | nil => exact absurd rfl hne
  | cons piece first ih =>
    cases first with
    | nil =>
      cases rest with
      | nil => exact List.prefix_rfl
      | cons next rest =>
        refine ⟨separator ++ Text.join separator (next :: rest), ?_⟩
        simp [Text.join]
    | cons next first =>
      have := ih (by simp)
      simp only [Text.join, List.cons_append, List.intercalate_cons_cons] at this ⊢
      rwa [List.prefix_append_right_inj]

/-- A path that starts with slashes or has components is written at the start of every path below it. -/
theorem toText_prefix_append {p : FilePath} (hne : ¬(p.slashes = 0 ∧ p.parts = []))
    (rest : List Text) : p.toText <+: (p.append ⟨0, rest⟩).toText := by
  have hne' : ¬(p.slashes = 0 ∧ p.parts ++ rest = []) := fun h =>
    hne ⟨h.1, (List.append_eq_nil_iff.1 h.2).1⟩
  rw [append_relative, toText, if_neg hne, toText, if_neg hne', List.prefix_append_right_inj]
  by_cases hnil : p.parts = []
  · rw [hnil]
    exact List.nil_prefix
  · exact join_prefix_append hnil rest

/-- A path that has a fault leads to none without. -/
theorem fault?_of_append {p : FilePath} {rest : List Text}
    (h : (p.append ⟨0, rest⟩).fault? = none) : p.fault? = none := by
  by_cases hnil : p.slashes = 0 ∧ p.parts = []
  · -- the path of the directory itself
    have htext : p.toText = "." := by rw [toText, if_pos hnil]
    rw [fault?, htext]
    decide +kernel
  · exact fault?_eq_none_of_prefix_toText (toText_prefix_append hnil rest) h

end FilePath

namespace Tree

/-! ## Entries -/

theorem entry?_nil (t : Tree) : t.entry? [] = some .directory := rfl

theorem entry?_of_ne_nil (t : Tree) {place : List Text} (h : place ≠ []) :
    t.entry? place = t.entries.lookup place := if_neg h

theorem lookup_putEntry_ne {place other : List Text} (h : other ≠ place) (e : Entry)
    (entries : List (List Text × Entry)) :
    (putEntry place e entries).lookup other = entries.lookup other := by
  have hne : (other == place) = false := beq_eq_false_iff_ne.2 h
  induction entries with
  | nil => rw [putEntry, List.lookup_cons, hne]
  | cons old entries ih =>
    rw [putEntry]
    split
    · rename_i hold
      rw [List.lookup_cons, List.lookup_cons, hne, hold, hne]
    · rw [List.lookup_cons, ih, List.lookup_cons]

theorem lookup_putEntry_self (place : List Text) (e : Entry)
    (entries : List (List Text × Entry)) : (putEntry place e entries).lookup place = some e := by
  induction entries with
  | nil => exact List.lookup_cons_self
  | cons old entries ih =>
    rw [putEntry]
    split
    · exact List.lookup_cons_self
    · rename_i hold
      have hne : (place == old.1) = false := beq_eq_false_iff_ne.2 (Ne.symm hold)
      rw [List.lookup_cons, hne, ih]

theorem entry?_put_ne (t : Tree) {place other : List Text} (h : other ≠ place) (e : Entry) :
    Tree.entry? (t.put place e) other = t.entry? other := by
  unfold entry?
  split
  · rfl
  · exact lookup_putEntry_ne h e t.entries

theorem entry?_put_self (t : Tree) {place : List Text} (h : place ≠ []) (e : Entry) :
    Tree.entry? (t.put place e) place = some e := by
  rw [entry?_of_ne_nil _ h]
  exact lookup_putEntry_self place e t.entries

theorem mem_putEntry {place : List Text} {e : Entry} {entries : List (List Text × Entry)}
    {x : List Text × Entry} (h : x ∈ putEntry place e entries) : x ∈ entries ∨ x = (place, e) := by
  induction entries with
  | nil => exact .inr (List.mem_singleton.1 h)
  | cons old entries ih =>
    rw [putEntry] at h
    split at h
    · rcases List.mem_cons.1 h with h | h
      · exact .inr h
      · exact .inl (List.mem_cons_of_mem _ h)
    · rcases List.mem_cons.1 h with rfl | h
      · exact .inl List.mem_cons_self
      · exact (ih h).imp_left (List.mem_cons_of_mem _)

theorem mem_put {t : Tree} {place : List Text} {e : Entry} {x : List Text × Entry}
    (h : x ∈ (t.put place e).entries) : x ∈ t.entries ∨ x = (place, e) :=
  mem_putEntry h

theorem mem_entries {t : Tree} {place : List Text} {e : Entry} (hne : place ≠ [])
    (h : t.entry? place = some e) : (place, e) ∈ t.entries := by
  rw [entry?_of_ne_nil t hne] at h
  obtain ⟨before, after, hentries, -⟩ := List.lookup_eq_some_iff.1 h
  rw [hentries]
  simp

theorem exists_entry?_of_mem {t : Tree} {x : List Text × Entry} (h : x ∈ t.entries) :
    ∃ e, t.entry? x.1 = some e := by
  by_cases hne : x.1 = []
  · exact ⟨.directory, by rw [hne, entry?_nil]⟩
  · rw [entry?_of_ne_nil t hne]
    refine Option.isSome_iff_exists.1 (List.lookup_isSome_iff.2 ⟨x, h, by simp⟩)

theorem entry?_erase {t : Tree} {place other : List Text} (h : ¬place <+: other) :
    Tree.entry? (t.erase place) other = t.entry? other := by
  unfold entry?
  split
  · rfl
  · change (t.entries.filter _).lookup other = _
    induction t.entries with
    | nil => rfl
    | cons x entries ih =>
      rw [List.filter_cons]
      by_cases hx : other = x.1
      · have hkeep : (!place.isPrefixOf x.1) = true := by
          rw [Bool.not_eq_true', Bool.eq_false_iff, ne_eq, List.isPrefixOf_iff_prefix, ← hx]
          exact h
        rw [if_pos hkeep, List.lookup_cons, List.lookup_cons, ih]
      · have hne : (other == x.1) = false := beq_eq_false_iff_ne.2 hx
        split
        · rw [List.lookup_cons, List.lookup_cons, ih]
        · rw [List.lookup_cons, hne, ih]

theorem mem_erase {t : Tree} {place : List Text} {x : List Text × Entry} :
    x ∈ (t.erase place).entries ↔ x ∈ t.entries ∧ ¬place <+: x.1 := by
  change x ∈ t.entries.filter _ ↔ _
  rw [List.mem_filter, Bool.not_eq_true', Bool.eq_false_iff, ne_eq, List.isPrefixOf_iff_prefix]

theorem mem_names {t : Tree} {place : List Text} {name : Text} :
    name ∈ t.names place ↔ ∃ e, (place ++ [name], e) ∈ t.entries := by
  rw [names, List.mem_mergeSort, List.mem_filterMap]
  constructor
  · rintro ⟨x, hx, hname⟩
    split at hname
    · rename_i other hway
      obtain rfl := Option.some.inj hname
      rw [List.isPrefixOf?_eq_some_iff_append_eq] at hway
      exact ⟨x.2, by rw [hway]; exact hx⟩
    · cases hname
  · rintro ⟨e, he⟩
    refine ⟨_, he, ?_⟩
    rw [List.isPrefixOf?_eq_some_iff_append_eq.2 rfl]

/-- Names that are found in order are listed so. -/
theorem names_of_pairwise {t : Tree} {place names : List Text}
    (h : (t.entries.filterMap fun e =>
      match place.isPrefixOf? e.1 with
      | some [name] => some name
      | _ => none) = names) (hs : names.Pairwise fun name other => Text.le name other) :
    t.names place = names := by
  rw [Tree.names]
  exact (congrArg (List.mergeSort · Text.le) h).trans (List.mergeSort_of_pairwise hs)

/-- Ways that are found in order are listed so. -/
theorem waysBelow_of_pairwise {t : Tree} {place : List Text} {ways : List (List Text)}
    (h : (t.entries.filterMap fun e =>
      match place.isPrefixOf? e.1 with
      | some (name :: rest) => some (name :: rest)
      | _ => none) = ways) (hs : ways.Pairwise fun way other => FilePath.partsLe way other) :
    t.waysBelow place = ways := by
  rw [Tree.waysBelow]
  exact (congrArg (List.mergeSort · FilePath.partsLe) h).trans (List.mergeSort_of_pairwise hs)

theorem mem_waysBelow {t : Tree} {place way : List Text} : way ∈ t.waysBelow place ↔
    ∃ x ∈ t.entries, ∃ name rest, x.1 = place ++ way ∧ way = name :: rest := by
  rw [waysBelow, List.mem_mergeSort, List.mem_filterMap]
  refine exists_congr fun x => and_congr_right fun _ => ?_
  constructor
  · intro hway
    split at hway
    · rename_i name rest hx
      obtain rfl := Option.some.inj hway
      exact ⟨name, rest, (List.isPrefixOf?_eq_some_iff_append_eq.1 hx).symm, rfl⟩
    · cases hway
  · rintro ⟨name, rest, hx, rfl⟩
    rw [hx, List.isPrefixOf?_eq_some_iff_append_eq.2 rfl]

theorem waysBelow_eq_nil_iff {t : Tree} {place : List Text} : t.waysBelow place = [] ↔
    ∀ x ∈ t.entries, ∀ name rest, x.1 ≠ place ++ name :: rest := by
  rw [List.eq_nil_iff_forall_not_mem]
  constructor
  · intro h x hx name rest hplace
    exact h _ (mem_waysBelow.2 ⟨x, hx, name, rest, hplace, rfl⟩)
  · intro h way hway
    obtain ⟨x, hx, name, rest, hplace, rfl⟩ := mem_waysBelow.1 hway
    exact h x hx name rest hplace

/-! ## Following a path -/

theorem follow_append (t : Tree) (place first rest : List Text) :
    t.follow place (first ++ rest) = (t.follow place first).bind fun mid => t.follow mid rest := by
  induction first generalizing place with
  | nil => rfl
  | cons part first ih =>
    rw [List.cons_append, follow, follow]
    split
    · split
      · exact ih _
      · split
        · rfl
        · exact ih _
    · rfl
    · rfl

/-- A result that is gone on from. -/
theorem bind_eq_ok_iff {ε α β : Type} {x : Except ε α} {f : α → Except ε β} {b : β} :
    x.bind f = .ok b ↔ ∃ a, x = .ok a ∧ f a = .ok b := by
  cases x <;> simp [Except.bind]

theorem follow_append_eq_ok_iff {t : Tree} {place first rest q : List Text} :
    t.follow place (first ++ rest) = .ok q ↔
      ∃ mid, t.follow place first = .ok mid ∧ t.follow mid rest = .ok q := by
  rw [follow_append, bind_eq_ok_iff]

/-- What is followed on is a directory. -/
theorem isDirectory_of_follow {t : Tree} {place q : List Text} {part : Text} {rest : List Text}
    (h : t.follow place (part :: rest) = .ok q) : t.entry? place = some .directory := by
  rw [follow] at h
  split at h
  · assumption
  · cases h
  · cases h

theorem follow_cons_iff {t : Tree} {place q : List Text} {name : Text} (hname : IsPlainName name)
    {rest : List Text} : t.follow place (name :: rest) = .ok q ↔
      t.entry? place = some .directory ∧ isLongName name = false ∧
        t.follow (place ++ [name]) rest = .ok q := by
  constructor
  · intro h
    have hd := isDirectory_of_follow h
    rw [follow, hd] at h
    simp only [if_neg hname.down, hname.listed] at h
    split at h
    · cases h
    · rename_i hlong
      exact ⟨hd, Bool.eq_false_iff.2 hlong, h⟩
  · rintro ⟨hd, hlong, h⟩
    rw [follow, hd]
    simp only [if_neg hname.down, hname.listed, hlong, Bool.false_eq_true, if_false, h]

/-- Plain names lead straight down. -/
theorem follow_eq_append {t : Tree} {place q : List Text} {names : List Text}
    (hnames : ∀ name ∈ names, IsPlainName name) (h : t.follow place names = .ok q) :
    q = place ++ names := by
  induction names generalizing place with
  | nil => rw [List.append_nil]; exact (Except.ok.inj h).symm
  | cons name names ih =>
    obtain ⟨-, -, h⟩ := (follow_cons_iff (hnames name List.mem_cons_self)).1 h
    rw [ih (fun n hn => hnames n (List.mem_cons_of_mem _ hn)) h, List.append_assoc]
    rfl

/-- A way through directories stays in a tree that keeps them. -/
theorem follow_mono {t u : Tree}
    (hkeep : ∀ place, t.entry? place = some .directory → u.entry? place = some .directory)
    {place parts q : List Text} (h : t.follow place parts = .ok q) :
    u.follow place parts = .ok q := by
  induction parts generalizing place with
  | nil => exact h
  | cons part parts ih =>
    have hd := isDirectory_of_follow h
    rw [follow, hd] at h
    rw [follow, hkeep place hd]
    dsimp only at h ⊢
    split
    · rename_i habove
      rw [if_pos habove] at h
      exact ih h
    · rename_i habove
      rw [if_neg habove] at h
      split
      · rename_i hlong
        rw [if_pos hlong] at h
        cases h
      · rename_i hlong
        rw [if_neg hlong] at h
        exact ih h

/-! ## Questions -/

theorem locate_eq_ok_iff {t : Tree} {p : FilePath} {place : List Text} : t.locate p = .ok place ↔
    p.fault? = none ∧ t.follow [] (t.cwd.append p).parts = .ok place := by
  unfold locate
  cases p.fault? with
  | none => simp
  | some e => simp

theorem find_eq_ok_iff {t : Tree} {p : FilePath} {e : Entry} : t.find p = .ok e ↔
    ∃ place, t.locate p = .ok place ∧ t.entry? place = some e := by
  unfold find
  cases t.locate p with
  | error e => simp
  | ok place =>
    dsimp only
    cases hentry : t.entry? place <;> simp [hentry]

theorem asks_eq_ok_true_iff {t : Tree} {kind : Entry → Bool} {p : FilePath} :
    t.asks kind p = .ok true ↔ ∃ e, t.find p = .ok e ∧ kind e := by
  unfold asks
  split
  · rename_i e he
    rw [he]
    simp
  · rename_i he
    rw [he]
    simp
  · rename_i he
    rw [he]
    simp

theorem isDirectory_eq_ok_true_iff {t : Tree} {p : FilePath} : t.isDirectory p = .ok true ↔
    ∃ place, t.locate p = .ok place ∧ t.entry? place = some .directory := by
  rw [isDirectory, asks_eq_ok_true_iff]
  constructor
  · rintro ⟨e, hfind, he⟩
    obtain ⟨place, hplace, hentry⟩ := find_eq_ok_iff.1 hfind
    cases e with
    | file content => cases he
    | directory => exact ⟨place, hplace, hentry⟩
  · rintro ⟨place, hplace, hentry⟩
    exact ⟨.directory, find_eq_ok_iff.2 ⟨place, hplace, hentry⟩, rfl⟩

theorem read_eq_ok_iff {t : Tree} {p : FilePath} {content : ByteArray} :
    t.read p = .ok content ↔
      ∃ place, t.locate p = .ok place ∧ t.entry? place = some (.file content) := by
  rw [← find_eq_ok_iff, read]
  cases t.find p with
  | error e => simp
  | ok e => cases e <;> simp

theorem isFile_eq_ok_true_iff {t : Tree} {p : FilePath} :
    t.isFile p = .ok true ↔ ∃ content, t.read p = .ok content := by
  rw [isFile, asks_eq_ok_true_iff]
  constructor
  · rintro ⟨e, hfind, he⟩
    cases e with
    | file content => exact ⟨content, by rw [read, hfind]⟩
    | directory => cases he
  · rintro ⟨content, hread⟩
    obtain ⟨place, hplace, hentry⟩ := read_eq_ok_iff.1 hread
    exact ⟨.file content, find_eq_ok_iff.2 ⟨place, hplace, hentry⟩, rfl⟩

end Tree

end Routewright
