/-
The texts of schemas. A schema is printed as a call of its type's factory on its constraints, one a
line, or on the code of an array's items; a payload is printed as an object with one entry a field, in
the order of the payload. So the keys of a printed payload denote its fields, unless the name of one
is an identifier with a line feed behind it.
-/
import Mathlib.Data.List.Nodup
import Routewright.Proofs.Route.Names
import Routewright.Proofs.Script.Key

namespace Routewright.Route

open Script (Expr Numeral Property accessText denotedName enclose EndsWord isIdentifier IsTrailed
  keyText objectText readAccess readKey)
open Spec (Field Payload)

/-! ## Calls -/

/-- The text of a call with one argument. -/
def called (function argument : Text) : Text := function ++ "(" ++ argument ++ ")"

section Calls

variable {arg : Expr} {level : Nat} {text : Text} (h : arg.print level = .ok text)
include h

theorem print_builderCall {name : Text} (hname : isIdentifier name) :
    (Expr.call (.member (.ident builderName) name) [arg]).print level =
      .ok (called (builderName ++ ("." : Text) ++ name) text) := by
  have hcallee := Script.print_member (show (Expr.ident builderName).print level = _ from rfl) name
  rw [accessText, if_pos hname] at hcallee
  rw [Expr.print, hcallee, Expr.printAll, h]
  simp only [Expr.printAll, bind, Except.bind, Script.commaSeparated, called]
  congr 1
  simp [Text.join, enclose, Expr.strength, Script.atomStrength]

theorem print_callOf_factory (t : Spec.FieldType) :
    (Expr.callOf (factory t) [arg]).print level = .ok (called (factory t) text) := by
  rw [Expr.callOf, dotted_factory, print_builderCall h (by cases t <;> decide)]
  cases t <;> rfl

theorem print_callOf_optional :
    (Expr.callOf "t.Optional" [arg]).print level = .ok (called "t.Optional" text) := by
  rw [Expr.callOf, dotted_optional]
  exact print_builderCall h (by decide)

theorem print_callOf_object :
    (Expr.callOf "t.Object" [arg]).print level = .ok (called "t.Object" text) := by
  rw [Expr.callOf, dotted_object]
  exact print_builderCall h (by decide)

end Calls

/-- The entries of an object, each printed by itself. -/
theorem printAll_entries {α : Type} {key text : α → Text} {value : α → Expr} {level : Nat}
    {as : List α} (h : ∀ a ∈ as, (value a).print level = .ok (text a)) :
    Property.printAll (as.map fun a => .entry (key a) (value a)) level =
      .ok (as.map fun a => keyText (key a) ++ ": " ++ text a) := by
  induction as with
  | nil => rfl
  | cons a as ih =>
    rw [List.forall_mem_cons] at h
    rw [List.map_cons, Property.printAll, Property.print, h.1, ih h.2]
    rfl

theorem printAll_append {ps qs : List Property} {level : Nat} {texts others : List Text}
    (hp : Property.printAll ps level = .ok texts) (hq : Property.printAll qs level = .ok others) :
    Property.printAll (ps ++ qs) level = .ok (texts ++ others) := by
  induction ps generalizing texts with
  | nil =>
    obtain rfl := Except.ok.inj hp
    exact hq
  | cons p ps ih =>
    rw [Property.printAll] at hp
    cases hfirst : p.print level with
    | error e => rw [hfirst] at hp; cases hp
    | ok first =>
      cases hrest : Property.printAll ps level with
      | error e => rw [hfirst, hrest] at hp; cases hp
      | ok rest =>
        rw [hfirst, hrest] at hp
        obtain rfl := Except.ok.inj hp
        rw [List.cons_append, Property.printAll, hfirst, ih hrest]
        rfl

/-! ## Constraints -/

/-- The text of a number. -/
def numberText : Number → Text
  | .int i => Text.ofInt i
  | .float d => (d.toInt?.map Text.ofInt).getD d.text

theorem text_ofNumber (n : Number) : (Numeral.ofNumber n).text = .ok (numberText n) := by
  cases n with
  | int i => rfl
  | float d =>
    rw [Numeral.ofNumber, Numeral.text, numberText]
    cases d.toInt? <;> rfl

/-- Values under one name. -/
def underName {α : Type} (key : Text) (values : List α) : List (Text × α) := values.map (Prod.mk key)

/-- The constraints of a field that are texts, by name. -/
def textConstraints (f : Field) : List (Text × Text) :=
  underName "format" (f.format.toList.filter (!·.isEmpty)) ++
    underName "description" (f.description.toList.filter (!·.isEmpty))

/-- The constraints of a field that are numbers, by name. -/
def numericConstraints (f : Field) : List (Text × Number) :=
  underName "minimum" f.minimum.toList ++ underName "maximum" f.maximum.toList ++
    underName "minLength" (f.minLength.toList.map .int) ++
      underName "maxLength" (f.maxLength.toList.map .int)

/-- Constraints are written in one order, texts before numbers. -/
theorem constraints_eq (f : Field) : constraints f =
    .obj ((textConstraints f).map (fun c => .entry c.1 (.str c.2)) ++
      (numericConstraints f).map (fun c => .entry c.1 (.num (.ofNumber c.2)))) true := by
  have htext (key : Text) (t : Option Text) : textConstraint key t =
      (t.toList.filter (!·.isEmpty)).map fun t => .entry key (.str t) := by
    cases t with
    | none => rfl
    | some t => cases t <;> rfl
  have hnumber (key : Text) (n : Option Number) : numberConstraint key n =
      n.toList.map fun n => .entry key (.num (.ofNumber n)) := by
    cases n <;> rfl
  have hlength (key : Text) (n : Option Int) : lengthConstraint key n =
      n.toList.map fun n => .entry key (.num (.int n)) := by
    cases n <;> rfl
  simp [constraints, textConstraints, numericConstraints, underName, htext, hnumber, hlength,
    Function.comp_def, Numeral.ofNumber]

/-- The lines of a field's constraints. -/
def constraintEntries (f : Field) : List Text :=
  ((textConstraints f).map fun c => keyText c.1 ++ ": " ++ c.2.quoted) ++
    (numericConstraints f).map fun c => keyText c.1 ++ ": " ++ numberText c.2

theorem print_constraints (f : Field) (level : Nat) :
    (constraints f).print level = .ok (objectText (constraintEntries f) true level) := by
  have htexts : Property.printAll
      ((textConstraints f).map fun c => .entry c.1 (.str c.2)) (level + 1) =
        .ok ((textConstraints f).map fun c => keyText c.1 ++ ": " ++ c.2.quoted) :=
    printAll_entries fun _ _ => rfl
  have hnumbers : Property.printAll
      ((numericConstraints f).map fun c => .entry c.1 (.num (.ofNumber c.2))) (level + 1) =
        .ok ((numericConstraints f).map fun c => keyText c.1 ++ ": " ++ numberText c.2) :=
    printAll_entries fun c _ => text_ofNumber c.2
  rw [constraints_eq, Expr.print, Script.entryLevel, if_pos rfl, printAll_append htexts hnumbers]
  rfl

/-! ## Fields -/

/-- What a field's factory is called on. -/
def argumentText (f : Field) (level : Nat) : Text :=
  if f.fieldType = .array then itemsCode f else objectText (constraintEntries f) true level

/-- The text of a field's schema. -/
def schemaText (f : Field) (level : Nat) : Text :=
  let schema := called (factory f.fieldType) (argumentText f level)
  if f.isOptional then called "t.Optional" schema else schema

theorem print_fieldSchema (f : Field) (level : Nat) :
    (fieldSchema f).print level = .ok (schemaText f level) := by
  unfold fieldSchema schemaText
  extract_lets schema text
  have hschema : schema.print level = .ok text := by
    unfold schema text argumentText
    split
    · rename_i harray
      rw [harray, if_pos rfl]
      exact print_callOf_factory rfl .array
    · rename_i harray
      rw [if_neg harray]
      exact print_callOf_factory (print_constraints f level) _
  split
  · exact print_callOf_optional hschema
  · exact hschema

/-- The entry of a field in a payload. -/
def fieldEntry (level : Nat) (f : Text × Field) : Text := keyText f.1 ++ ": " ++ schemaText f.2 level

theorem print_objectSchema (fields : List (Text × Field)) (level : Nat) :
    (objectSchema fields).print level =
      .ok (called "t.Object" (objectText (fields.map (fieldEntry (level + 1))) true level)) := by
  refine print_callOf_object ?_
  rw [Expr.print, Script.entryLevel, if_pos rfl,
    printAll_entries fun f _ => print_fieldSchema f.2 (level + 1)]
  rfl

/-! ## The names that a payload shows -/

/-- The name of the property that an entry of an object is for. -/
def entryName (entry : Text) : Option Text := (readKey entry).map Prod.fst

theorem entryName_fieldEntry (level : Nat) (f : Text × Field) :
    entryName (fieldEntry level f) = some (denotedName f.1) := by
  have hcolon : EndsWord (": " ++ schemaText f.2 level) := fun c hc => by
    obtain rfl := Option.some.inj hc
    decide
  unfold entryName fieldEntry
  rw [List.append_assoc]
  by_cases h : IsTrailed f.1
  · obtain ⟨base, hbase, hname⟩ := h
    rw [hname, Script.readKey_keyText_trailed hbase, Script.denotedName_trailed hbase]
    rfl
  · rw [Script.readKey_keyText h hcolon, Script.denotedName_of_not_isTrailed h]
    rfl

/-- The names that the keys of a payload denote. -/
theorem map_entryName (level : Nat) (fields : List (Text × Field)) :
    (fields.map (fieldEntry level)).map entryName =
      (fields.map Prod.fst).map (some ∘ denotedName) := by
  rw [List.map_map, List.map_map]
  exact List.map_congr_left fun f _ => entryName_fieldEntry level f

/-- Different names denote the same one exactly if one is the other with a line feed behind it. -/
theorem nodup_denotedName_iff {names : List Text} (h : names.Nodup) :
    (names.map denotedName).Nodup ↔
      ∀ name ∈ names, Script.isName name → name ++ ("\n" : Text) ∉ names := by
  constructor
  · intro hnodup name hname hbase htrailed
    have heq : denotedName name = denotedName (name ++ ("\n" : Text)) := by
      rw [Script.denotedName_trailed hbase,
        Script.denotedName_of_not_isTrailed (Script.not_isTrailed_of_isName hbase)]
    have hsame := List.inj_on_of_nodup_map hnodup hname htrailed heq
    exact absurd (congrArg List.length hsame) (by simp [Text.ofString])
  · intro happart
    refine h.map_on fun a ha b hb heq => ?_
    by_cases hta : IsTrailed a
    · obtain ⟨base, hbase, rfl⟩ := hta
      rw [Script.denotedName_trailed hbase] at heq
      by_cases htb : IsTrailed b
      · obtain ⟨other, hother, rfl⟩ := htb
        rw [Script.denotedName_trailed hother] at heq
        rw [heq]
      · rw [Script.denotedName_of_not_isTrailed htb] at heq
        subst heq
        exact absurd ha (happart _ hb hbase)
    · rw [Script.denotedName_of_not_isTrailed hta] at heq
      by_cases htb : IsTrailed b
      · obtain ⟨other, hother, rfl⟩ := htb
        rw [Script.denotedName_trailed hother] at heq
        subst heq
        exact absurd hb (happart _ ha hother)
      · rwa [Script.denotedName_of_not_isTrailed htb] at heq

/-- The name that an access denotes is its property's, unless that ends in a line feed. -/
theorem map_fst_readAccess_iff {property rest : Text} (hrest : EndsWord rest) :
    (readAccess (accessText property ++ rest)).map Prod.fst = some property ↔
      ¬IsTrailed property := by
  rw [← Script.denotedName_eq_self_iff]
  by_cases h : IsTrailed property
  · obtain ⟨base, hbase, rfl⟩ := h
    rw [Script.readAccess_accessText_trailed hbase, Script.denotedName_trailed hbase]
    exact Option.some_inj
  · rw [Script.readAccess_accessText h hrest, Script.denotedName_of_not_isTrailed h]
    exact Option.some_inj

/-- A payload is printed as an object whose keys denote the payload's fields, in order, exactly if no
field's name is an identifier with a line feed behind it; of different fields they denote different
names exactly if no field has the name of another with a line feed behind it. An access denotes its
property exactly if that is no such name. -/
theorem names_denoted_iff (payload : Option Payload) (level : Nat) :
    let names := (payload.getD []).map Prod.fst
    let entries := (payload.getD []).map (fieldEntry (level + 1))
    (payloadSchema payload).print level = .ok (called "t.Object" (objectText entries true level)) ∧
      (entries.map entryName = names.map some ↔ ∀ name ∈ names, ¬IsTrailed name) ∧
      (names.Nodup → ((entries.map entryName).Nodup ↔
        ∀ name ∈ names, Script.isName name → name ++ ("\n" : Text) ∉ names)) ∧
      ∀ (object : Expr) (property text : Text), object.print level = .ok text →
        ∃ access, (Expr.member object property).print level =
            .ok (enclose object Script.atomStrength text ++ access) ∧
          ∀ rest, EndsWord rest →
            ((readAccess (access ++ rest)).map Prod.fst = some property ↔ ¬IsTrailed property) := by
  intro names entries
  refine ⟨print_objectSchema _ level, ?_, fun hnodup => ?_, fun object property text h =>
    ⟨_, Script.print_member h property, fun rest => map_fst_readAccess_iff⟩⟩
  · rw [map_entryName, List.map_inj_left]
    exact forall₂_congr fun name _ => Option.some_inj.trans Script.denotedName_eq_self_iff
  · rw [map_entryName, ← List.map_map, List.nodup_map_iff fun _ _ => Option.some.inj]
    exact nodup_denotedName_iff hnodup

/-- The payload of a document with two fields whose names differ in a line feed at the end is printed
with one name twice; without the second field every name is denoted, also one that is quoted. -/
theorem names_denoted_iff_trailed :
    let field : Field := ⟨"String", false, none, none, none, none, none, none, none, []⟩
    let payload : Payload := [("a", field), ("a\n", field), ("b c", field)]
    let kept : Payload := [("a", field), ("b c", field)]
    let names (p : Payload) : List (Option Text) := (p.map (fieldEntry 1)).map entryName
    Spec.Payload.check (.map (payload.map fun f => (.str f.1, .map []))) = .accepted (some payload) ∧
      (payloadSchema (some payload)).print 0 = .ok (Text.ofString
        ("t.Object(\x7b\n  a: t.String(\x7b\x7d),\n  a\n: t.String(\x7b\x7d),\n" ++
          "  \"b c\": t.String(\x7b\x7d),\n\x7d)")) ∧
      names payload ≠ (payload.map Prod.fst).map some ∧ ¬(names payload).Nodup ∧
      names kept = (kept.map Prod.fst).map some ∧
      (readAccess (accessText "a\n")).map Prod.fst = some "a" := by
  intro field payload kept names
  have htrailed : IsTrailed "a\n" := ⟨"a", rfl, rfl⟩
  obtain ⟨hprint, hnames, hdistinct, -⟩ := names_denoted_iff (some payload) 0
  obtain ⟨-, hkept, -, -⟩ := names_denoted_iff (some kept) 0
  refine ⟨rfl, hprint.trans (congrArg Except.ok (by decide +kernel)), fun h => ?_, fun h => ?_,
    hkept.2 ?_, by decide⟩
  · exact hnames.1 h "a\n" (.tail _ (.head _)) htrailed
  · exact (hdistinct (by decide)).1 h "a" (.head _) rfl (.tail _ (.head _))
  · have hlast : ∀ name ∈ kept.map Prod.fst, name.getLast? ≠ some (CodePoint.ofChar '\n') := by
      decide
    rintro name hname ⟨base, -, rfl⟩
    exact hlast _ hname List.getLast?_concat

end Routewright.Route
