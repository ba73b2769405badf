/-
Mappings of texts, written one entry a line, are read back: the tokens of such a text are those of its
entries, and on them the machine puts one entry after the other into the mapping that is open.
-/
import Routewright.Document.Check
import Routewright.Proofs.Document.Quoted
import Routewright.Proofs.Text.Lines

namespace Routewright.Document.Json

open Text (escapeQuoted ofHex)

/-! ## The tokens of a text -/

/-- A text whose tokens are these, wherever it starts. -/
def HasTokens (t : Text) (ts : List Token) : Prop :=
  ∀ fuel index, t.length ≤ fuel → (tokensFrom fuel index t).map Prod.fst = ts

namespace HasTokens

variable {t rest : Text} {ts : List Token}

theorem nil : HasTokens [] [] := by
  intro fuel index _
  cases fuel <;> rfl

theorem space (h : HasTokens t ts) {c : CodePoint} (hc : isSpace c) : HasTokens (c :: t) ts := by
  intro fuel index hfuel
  cases fuel with
  | zero => cases hfuel
  | succ fuel =>
    rw [tokensFrom, if_pos hc]
    exact h fuel _ (Nat.le_of_succ_le_succ hfuel)

theorem spaces {blank : Text} (hblank : ∀ c ∈ blank, isSpace c) (h : HasTokens t ts) :
    HasTokens (blank ++ t) ts := by
  induction blank with
  | nil => exact h
  | cons c blank ih =>
    exact space (ih fun d hd => hblank d (List.mem_cons_of_mem c hd)) (hblank c List.mem_cons_self)

/-- A token in front of a text whose tokens are known. -/
theorem token (h : HasTokens rest ts) {c : CodePoint} {tail : Text} {found : Token}
    (hc : isSpace c = false) (hlength : rest.length ≤ tail.length)
    (hscan : ∀ index, scanToken index c tail = (found, rest)) :
    HasTokens (c :: tail) (found :: ts) := by
  intro fuel index hfuel
  cases fuel with
  | zero => cases hfuel
  | succ fuel =>
    rw [tokensFrom, if_neg (by rw [hc]; exact Bool.false_ne_true), hscan]
    dsimp only
    rw [List.map_cons, h fuel _ (hlength.trans (Nat.le_of_succ_le_succ hfuel))]

theorem comma (h : HasTokens rest ts) : HasTokens (CodePoint.ofChar ',' :: rest) (.comma :: ts) :=
  h.token (by decide) le_rfl fun _ => rfl

theorem colon (h : HasTokens rest ts) : HasTokens (CodePoint.ofChar ':' :: rest) (.colon :: ts) :=
  h.token (by decide) le_rfl fun _ => rfl

theorem openBrace (h : HasTokens rest ts) :
    HasTokens (CodePoint.ofChar '\x7b' :: rest) (.openBrace :: ts) :=
  h.token (by decide) le_rfl fun _ => rfl

theorem closeBrace (h : HasTokens rest ts) :
    HasTokens (CodePoint.ofChar '\x7d' :: rest) (.closeBrace :: ts) :=
  h.token (by decide) le_rfl fun _ => rfl

theorem quoted (h : HasTokens rest ts) (value : Text) :
    HasTokens (value.quoted ++ rest) (.str value :: ts) := by
  rw [quoted_append]
  refine h.token (by decide) ?_ fun index => scanToken_quoted index value rest
  rw [List.length_append, List.length_cons]
  omega

theorem null (h : HasTokens rest ts) : HasTokens ("null" ++ rest) (.atom .null :: ts) := by
  change HasTokens (CodePoint.ofChar 'n' :: (("ull" : Text) ++ rest)) _
  refine h.token (by decide) ?_ fun index => ?_
  · rw [List.length_append]
    omega
  · rfl

end HasTokens

/-! ## Entries -/

/-- A line that writes an entry: a text under a key, or nothing. -/
def entryLine (e : Text × Option Text) : Text :=
  "  " ++ e.1.quoted ++ ": " ++ (e.2.map Text.quoted).getD "null"

/-- A mapping of such entries, one a line. -/
def mappingText (entries : List (Text × Option Text)) : Text :=
  "\x7b\n" ++ Text.join ",\n" (entries.map entryLine) ++ "\n\x7d"

/-- The mapping that is meant. -/
def mappingValue (entries : List (Text × Option Text)) : Value :=
  .ofEntries (entries.map fun e => (.str e.1, .ofOption .str e.2))

def valueToken : Option Text → Token
  | some t => .str t
  | none => .atom .null

def entryTokens (e : Text × Option Text) : List Token := [.str e.1, .colon, valueToken e.2]

/-- The tokens of a mapping with a first entry. -/
def mappingTokens (first : Text × Option Text) (entries : List (Text × Option Text)) : List Token :=
  .openBrace :: (entryTokens first ++
    (entries.flatMap (fun e => .comma :: entryTokens e) ++ [.closeBrace]))

namespace HasTokens

variable {rest : Text} {ts : List Token}

theorem value (h : HasTokens rest ts) (v : Option Text) :
    HasTokens ((v.map Text.quoted).getD "null" ++ rest) (valueToken v :: ts) := by
  cases v with
  | none => exact h.null
  | some t => exact h.quoted t

theorem entry (h : HasTokens rest ts) (e : Text × Option Text) :
    HasTokens (entryLine e ++ rest) (entryTokens e ++ ts) := by
  have hline : entryLine e ++ rest = ("  " : Text) ++ (e.1.quoted ++
      (CodePoint.ofChar ':' :: CodePoint.ofChar ' ' :: ((e.2.map Text.quoted).getD "null" ++ rest))) := by
    simp [entryLine, Text.ofString]
  rw [hline]
  exact (((h.value e.2).space (by decide)).colon.quoted e.1).spaces (by decide)

theorem entries (h : HasTokens rest ts) (es : List (Text × Option Text)) :
    HasTokens (es.flatMap (fun e => (",\n" : Text) ++ entryLine e) ++ rest)
      (es.flatMap (fun e => .comma :: entryTokens e) ++ ts) := by
  induction es with
  | nil => exact h
  | cons e es ih =>
    rw [List.flatMap_cons, List.flatMap_cons, List.append_assoc, List.append_assoc]
    exact ((ih.entry e).space (by decide : isSpace '\n')).comma

theorem mapping (h : HasTokens rest ts) (first : Text × Option Text)
    (es : List (Text × Option Text)) :
    HasTokens (mappingText (first :: es) ++ rest) (mappingTokens first es ++ ts) := by
  have hline : mappingText (first :: es) ++ rest =
      CodePoint.ofChar '\x7b' :: CodePoint.ofChar '\n' :: (entryLine first ++
        (es.flatMap (fun e => (",\n" : Text) ++ entryLine e) ++
          (CodePoint.ofChar '\n' :: CodePoint.ofChar '\x7d' :: rest))) := by
    rw [mappingText, List.map_cons, Text.join_cons, List.flatMap_map]
    simp [Text.ofString]
  have htokens : mappingTokens first es ++ ts = .openBrace :: (entryTokens first ++
      (es.flatMap (fun e => .comma :: entryTokens e) ++ (.closeBrace :: ts))) := by
    simp [mappingTokens]
  rw [hline, htokens]
  exact ((((h.closeBrace.space (by decide)).entries es).entry first).space (by decide)).openBrace

end HasTokens

/-! ## The machine on them -/

/-- A state from which tokens lead to a value, wherever they stand. -/
def Takes (s : State) (ts : List Token) (v : Value) : Prop :=
  ∀ size (l : List (Token × Nat)), l.map Prod.fst = ts → run s size l = .ok v

theorem takes_nil (v : Value) : Takes ⟨[], .nothing, v⟩ [] v := by
  intro size l hl
  obtain rfl := List.map_eq_nil_iff.1 hl
  rfl

theorem Takes.step {s s' : State} {token : Token} {ts : List Token} {v : Value}
    (h : Takes s' ts v) (hstep : ∀ index, s.step token index = .ok s') : Takes s (token :: ts) v := by
  intro size l hl
  obtain ⟨⟨found, index⟩, l, rfl, rfl, hrest⟩ := List.map_eq_cons_iff.1 hl
  rw [run, hstep]
  exact h size l hrest

theorem takeValue_valueToken (s : State) (v : Option Text) (index : Nat) :
    s.takeValue (valueToken v) index = .ok (State.deliver s.stack (.ofOption .str v)) := by
  cases v <;> rfl

/-- One entry, where a name is asked for. -/
theorem takes_entry {e : Text × Option Text} {m : List (Value × Value)} {key : Text}
    {expects : Expectation} {result : Value} (hname : expects = .name ∨ expects = .nameOrEnd)
    {ts : List Token} {v : Value}
    (h : Takes ⟨[.map (Value.insert (.str e.1) (.ofOption .str e.2) m) e.1], .comma, .null⟩ ts v) :
    Takes ⟨[.map m key], expects, result⟩ (entryTokens e ++ ts) v := by
  have hvalue : Takes ⟨[.map m e.1], .value, .null⟩ (valueToken e.2 :: ts) v :=
    h.step fun index => takeValue_valueToken ⟨[.map m e.1], .value, .null⟩ e.2 index
  have hcolon : Takes ⟨[.map m e.1], .colon, .null⟩ (.colon :: valueToken e.2 :: ts) v :=
    hvalue.step fun _ => rfl
  refine hcolon.step fun index => ?_
  rcases hname with rfl | rfl <;> rfl

theorem takes_entries (es : List (Text × Option Text)) (m : List (Value × Value)) (key : Text) :
    Takes ⟨[.map m key], .comma, .null⟩ (es.flatMap (fun e => .comma :: entryTokens e) ++ [.closeBrace])
      (.map (es.foldl (fun m e => Value.insert (.str e.1) (.ofOption .str e.2) m) m)) := by
  induction es generalizing m key with
  | nil => exact (takes_nil _).step fun _ => rfl
  | cons e es ih =>
    rw [List.flatMap_cons, List.append_assoc]
    exact (takes_entry (.inl rfl) (ih _ _)).step fun _ => rfl

theorem takes_mapping (first : Text × Option Text) (es : List (Text × Option Text)) :
    Takes ⟨[], .value, .null⟩ (mappingTokens first es) (mappingValue (first :: es)) := by
  have hvalue : mappingValue (first :: es) = .map (es.foldl
      (fun m e => Value.insert (.str e.1) (.ofOption .str e.2) m)
        (Value.insert (.str first.1) (.ofOption .str first.2) [])) := by
    rw [mappingValue, Value.ofEntries, List.foldl_map]
    rfl
  rw [hvalue]
  refine Takes.step (?_ : Takes ⟨[.map [] []], .nameOrEnd, .null⟩ _ _) fun _ => rfl
  exact takes_entry (.inr rfl) (takes_entries es _ _)

/-! ## Strict reading -/

/-- A token that opens and closes nothing. -/
def Token.isFlat : Token → Bool
  | .openBrace | .closeBrace | .openBracket | .closeBracket => false
  | _ => true

/-- Strict tokens up to the end of the mapping that they stand in. -/
theorem areStrict_flat {depth : Nat} (hdepth : depth ≤ strictDepth) {ts : List Token}
    (h : ∀ t ∈ ts, t.isFlat ∧ t.isStrict) : areStrict depth (ts ++ [.closeBrace]) := by
  induction ts with
  | nil => simp [areStrict, hdepth, Token.isStrict]
  | cons t ts ih =>
    obtain ⟨hflat, hstrict⟩ := h t List.mem_cons_self
    have hrest := ih fun u hu => h u (List.mem_cons_of_mem t hu)
    obtain ⟨u, rest, hu⟩ := List.exists_cons_of_ne_nil
      (List.append_ne_nil_of_right_ne_nil ts (List.cons_ne_nil Token.closeBrace []))
    rw [hu] at hrest
    rw [List.cons_append, hu]
    cases t with
    | openBrace | closeBrace | openBracket | closeBracket => cases hflat
    | _ => simp [areStrict, hdepth, hstrict, hrest]

/-- The tokens of a mapping are strict if its texts hold no surrogates. -/
theorem areStrict_mappingTokens {first : Text × Option Text} {es : List (Text × Option Text)}
    (h : ∀ e ∈ first :: es, ∀ t ∈ entryTokens e, t.isStrict) :
    areStrict 0 (mappingTokens first es) := by
  have hentry : ∀ e ∈ first :: es, ∀ t ∈ entryTokens e, t.isFlat ∧ t.isStrict := by
    intro e he t ht
    refine ⟨?_, h e he t ht⟩
    obtain ⟨key, value⟩ := e
    cases value with
    | none => revert t; simp [entryTokens, valueToken, Token.isFlat]
    | some value => revert t; simp [entryTokens, valueToken, Token.isFlat]
  have hrest : areStrict 1 (entryTokens first ++
      es.flatMap (fun e => .comma :: entryTokens e) ++ [.closeBrace]) := by
    refine areStrict_flat (by decide) fun t ht => ?_
    rcases List.mem_append.1 ht with ht | ht
    · exact hentry first List.mem_cons_self t ht
    · obtain ⟨e, he, ht⟩ := List.mem_flatMap.1 ht
      rcases List.mem_cons.1 ht with rfl | ht
      · exact ⟨rfl, rfl⟩
      · exact hentry e (List.mem_cons_of_mem first he) t ht
  rw [List.append_assoc] at hrest
  exact hrest

/-! ## Code points -/

/-- A code point that stands for another one in a literal is that one, or it is printable ASCII. -/
theorem mem_escapeQuoted {c d : CodePoint} (h : d ∈ escapeQuoted c) :
    d = c ∧ 0x20 ≤ c.val ∨ 0x20 ≤ d.val ∧ d.val < 0x80 := by
  have hhex : ∀ n < 0x20, ∀ d ∈ ofHex 4 n, 0x20 ≤ d.val ∧ d.val < 0x80 := by decide
  unfold escapeQuoted at h
  split_ifs at h with _ _ _ _ _ _ _ hcontrol
  iterate 7
    right
    revert d
    decide
  · right
    rcases List.mem_cons.1 h with rfl | h
    · decide
    · rcases List.mem_cons.1 h with rfl | h
      · decide
      · exact hhex c.val hcontrol d h
  · exact .inl ⟨List.mem_singleton.1 h, Nat.le_of_not_lt hcontrol⟩

theorem mem_quoted {t : Text} {d : CodePoint} (h : d ∈ t.quoted) :
    d ∈ t ∧ 0x20 ≤ d.val ∨ 0x20 ≤ d.val ∧ d.val < 0x80 := by
  have hclose : ∀ d ∈ ("\"" : Text), 0x20 ≤ d.val ∧ d.val < 0x80 := by decide
  rcases List.mem_cons.1 h with rfl | h
  · exact .inr (by decide)
  · rcases List.mem_append.1 h with h | h
    · obtain ⟨c, hc, hd⟩ := List.mem_flatMap.1 h
      rcases mem_escapeQuoted hd with ⟨rfl, hlow⟩ | hd
      · exact .inl ⟨hc, hlow⟩
      · exact .inr hd
    · exact .inr (hclose d h)

/-- Surrogates are not escaped. -/
theorem mem_quoted_of_isSurrogate {t : Text} {c : CodePoint} (hc : c ∈ t) (hs : c.isSurrogate) :
    c ∈ t.quoted := by
  have hescape : escapeQuoted c = [c] := by
    have hlow : 0xd800 ≤ c.val := by
      simp only [CodePoint.isSurrogate, Bool.and_eq_true, decide_eq_true_eq] at hs
      exact hs.1
    have hne : ∀ d : CodePoint, d.val < 0x80 → c ≠ d := by
      rintro d hd rfl
      omega
    unfold escapeQuoted
    rw [if_neg (hne _ (by decide)), if_neg (hne _ (by decide)), if_neg (hne _ (by decide)),
      if_neg (hne _ (by decide)), if_neg (hne _ (by decide)), if_neg (hne _ (by decide)),
      if_neg (hne _ (by decide)), if_neg (by omega)]
  refine List.mem_cons_of_mem _ (List.mem_append_left _ (List.mem_flatMap.2 ⟨c, hc, ?_⟩))
  rw [hescape]
  exact List.mem_singleton_self c

theorem mem_entryLine {e : Text × Option Text} {d : CodePoint} (h : d ∈ entryLine e) :
    0x20 ≤ d.val ∧ (d.val < 0x80 ∨ d ∈ e.1 ∨ ∃ t, e.2 = some t ∧ d ∈ t) := by
  have hindent : ∀ d ∈ ("  " : Text), 0x20 ≤ d.val ∧ d.val < 0x80 := by decide
  have hcolon : ∀ d ∈ (": " : Text), 0x20 ≤ d.val ∧ d.val < 0x80 := by decide
  have hnull : ∀ d ∈ ("null" : Text), 0x20 ≤ d.val ∧ d.val < 0x80 := by decide
  obtain ⟨key, value⟩ := e
  simp only [entryLine, List.mem_append] at h
  rcases h with ((h | h) | h) | h
  · exact (hindent d h).imp_right .inl
  · rcases mem_quoted h with ⟨hkey, hlow⟩ | h
    · exact ⟨hlow, .inr (.inl hkey)⟩
    · exact h.imp_right .inl
  · exact (hcolon d h).imp_right .inl
  · cases value with
    | none => exact (hnull d h).imp_right .inl
    | some t =>
      rcases mem_quoted h with ⟨hvalue, hlow⟩ | h
      · exact ⟨hlow, .inr (.inr ⟨t, rfl, hvalue⟩)⟩
      · exact h.imp_right .inl

/-- A code point of a mapping is one of its texts, a line feed, or a printable one of ASCII. -/
theorem mem_mappingText {es : List (Text × Option Text)} {d : CodePoint} (h : d ∈ mappingText es) :
    d = CodePoint.ofChar '\n' ∨ 0x20 ≤ d.val ∧
      (d.val < 0x80 ∨ ∃ e ∈ es, d ∈ e.1 ∨ ∃ t, e.2 = some t ∧ d ∈ t) := by
  have hopen : ∀ d ∈ ("\x7b\n" : Text),
      d = CodePoint.ofChar '\n' ∨ 0x20 ≤ d.val ∧ d.val < 0x80 := by decide
  have hbreak : ∀ d ∈ (",\n" : Text),
      d = CodePoint.ofChar '\n' ∨ 0x20 ≤ d.val ∧ d.val < 0x80 := by decide
  have hclose : ∀ d ∈ ("\n\x7d" : Text),
      d = CodePoint.ofChar '\n' ∨ 0x20 ≤ d.val ∧ d.val < 0x80 := by decide
  simp only [mappingText, List.mem_append] at h
  rcases h with (h | h) | h
  · exact (hopen d h).imp_right fun h => h.imp_right .inl
  · rcases Text.mem_of_mem_join h with h | ⟨line, hline, h⟩
    · exact (hbreak d h).imp_right fun h => h.imp_right .inl
    · obtain ⟨e, he, rfl⟩ := List.mem_map.1 hline
      exact .inr ((mem_entryLine h).imp_right fun h => h.imp_right fun h => ⟨e, he, h⟩)
  · exact (hclose d h).imp_right fun h => h.imp_right .inl

/-- What a mapping's texts are written with holds their surrogates. -/
theorem isStrict_of_mappingText {es : List (Text × Option Text)}
    (h : ∀ c ∈ mappingText es, c.isSurrogate = false) :
    ∀ e ∈ es, ∀ t ∈ entryTokens e, t.isStrict := by
  intro e he
  have hline : ∀ c ∈ entryLine e, c.isSurrogate = false := fun c hc =>
    h c (List.mem_append_left _ (List.mem_append_right _
      (Text.mem_join_of_mem (List.mem_map_of_mem he) hc)))
  have hstrict : ∀ t : Text, (∀ c ∈ t.quoted, c ∈ entryLine e) → (Token.str t).isStrict := by
    intro t ht
    have hnone : t.any CodePoint.isSurrogate = false := by
      refine List.any_eq_false.2 fun c hc hs => ?_
      rw [hline c (ht c (mem_quoted_of_isSurrogate hc hs))] at hs
      cases hs
    rw [Token.isStrict, hnone]
    rfl
  have hkey := hstrict e.1 fun c hc => by simp [entryLine, hc]
  have hvalue : (valueToken e.2).isStrict := by
    cases hv : e.2 with
    | none => rfl
    | some value => exact hstrict value fun c hc => by simp [entryLine, hv, hc]
  exact List.forall_mem_cons.2 ⟨hkey, List.forall_mem_cons.2 ⟨rfl, List.forall_mem_singleton.2 hvalue⟩⟩

/-! ## Reading -/

/-- A mapping of texts without surrogates is read back from what it is written as. -/
theorem readStrict?_mappingText {first : Text × Option Text} {es : List (Text × Option Text)}
    (h : ∀ c ∈ mappingText (first :: es), c.isSurrogate = false) {blank : Text}
    (hblank : ∀ c ∈ blank, isSpace c) :
    readStrict? (mappingText (first :: es) ++ blank) = some (mappingValue (first :: es)) := by
  have hnil : HasTokens blank [] := by
    rw [← List.append_nil blank]
    exact HasTokens.nil.spaces hblank
  have htokens : (tokens (mappingText (first :: es) ++ blank)).map Prod.fst =
      mappingTokens first es := by
    have hmapping := (hnil.mapping first es) _ 0 le_rfl
    rwa [List.append_nil] at hmapping
  have hmark : (mappingText (first :: es) ++ blank).head? ≠ some (CodePoint.ofNat 0xfeff) := by
    change some (CodePoint.ofChar '\x7b') ≠ _
    decide
  rw [readStrict?, htokens, if_pos (areStrict_mappingTokens (isStrict_of_mappingText h)), read,
    if_neg hmark, takes_mapping first es _ _ htokens]
  rfl

end Routewright.Document.Json
