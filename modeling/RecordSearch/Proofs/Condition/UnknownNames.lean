import RecordSearch.Proofs.Condition.Conjunction
import RecordSearch.Proofs.Condition.Names
import RecordSearch.Proofs.Dictionary

/-!
# Filters on unknown attributes

An expression that names no attribute of the schema compiles to nothing, whatever its structure is,
and what compiles to nothing makes no difference to the group that holds it. So neither an entry of
a filter map nor a part of a predicate counts if it asks for unknown attributes only.
-/

namespace RecordSearch

theorem Expression.mem_namesAll {name : Text} {es : List Expression} :
    name ∈ namesAll es ↔ ∃ e ∈ es, name ∈ e.names := by
  induction es with
  | nil => simp [namesAll]
  | cons e es ih => simp [namesAll, ih]

namespace Condition

variable {schema : Schema} {settings : Settings} {key value : Text}

/-- An expression that names unknown attributes only compiles to nothing. -/
theorem compile_of_unknown [Pattern.Engine] (e : Expression)
    (h : ∀ name ∈ e.names, schema.get? (Text.trim name) = none) :
    compile schema settings e = none := by
  induction e using Expression.inductionOn with
  | leaf name value kind =>
    have hname : schema.get? (Text.trim name) = none := h name (List.mem_singleton_self name)
    simp only [compile, compileLeaf, hname]
  | group connective negated children ih =>
    have hmembers : children.filterMap (compile schema settings) = [] := by
      apply List.filterMap_eq_nil_iff.mpr
      intro e he
      apply ih e he
      intro name hname
      exact h name (Expression.mem_namesAll.mpr ⟨e, he, hname⟩)
    rw [compile_group, hmembers]
    rfl

theorem ofEntry_of_unknown [Pattern.Engine]
    (h : ∀ name ∈ settings.namesOfKey key, schema.get? name = none)
    (value : Text) : ofEntry schema settings key value = none := by
  rw [ofEntry]
  cases hparse : Expression.parse? settings key value with
  | none => rfl
  | some e =>
    apply compile_of_unknown
    intro name hname
    have hlisted : name ∈ settings.namesOfKey key := Expression.names_parse?_subset hparse hname
    rw [Settings.trim_of_mem_namesOfKey hlisted]
    exact h name hlisted

section Filters

variable [Pattern.Engine]

/-- The condition of one entry of a filter map; the disjunction key has none. -/
def ofMapEntry (schema : Schema) (settings : Settings) (entry : Text × Text) : Option Condition :=
  if entry.1 == settings.disjunctionKey then none else ofEntry schema settings entry.1 entry.2

/-- A filter map compiles to the group of the conditions that its entries have. -/
theorem ofFilters_eq (schema : Schema) (settings : Settings) (filters : Dictionary Text) :
    ofFilters schema settings filters =
      ofMembers (.ofDisjunctive (filters.entries.any fun entry ↦
          entry.1 == settings.disjunctionKey)) false
        (filters.entries.filterMap (ofMapEntry schema settings)) := by
  have hentry : (fun entry ↦ (Expression.ofMapPair? settings entry).bind
      (compile schema settings)) = ofMapEntry schema settings := by
    funext entry
    unfold Expression.ofMapPair? ofMapEntry ofEntry
    cases entry.1 == settings.disjunctionKey <;> rfl
  rw [ofFilters, Expression.ofFilters_eq, compile_group, List.filterMap_filterMap, hentry]

/-- An entry for unknown attributes does not change what a filter map compiles to. -/
theorem ofFilters_insert_of_unknown (hkey : key ≠ settings.disjunctionKey)
    (h : ∀ name ∈ settings.namesOfKey key, schema.get? name = none) (value : Text)
    (filters : Dictionary Text) :
    ofFilters schema settings (filters.insert key value) = ofFilters schema settings filters := by
  have hswitch : (key == settings.disjunctionKey) = false := by simpa using hkey
  have hentry (v : Text) : ofMapEntry schema settings (key, v) = none := by
    simp only [ofMapEntry, hswitch, ofEntry_of_unknown h v]
    rfl
  rw [ofFilters_eq, ofFilters_eq, Dictionary.insert, Dictionary.filterMap_insertEntry hentry,
    Dictionary.any_insertEntry fun _ ↦ hswitch]

end Filters

end Condition

namespace Predicate

/-- A predicate of a single filter on an attribute that the schema does not have. -/
structure IsUnknownFilter (schema : Schema) (p : Predicate) : Prop where
  parts_eq : p.parts = []
  unknown : ∃ name, p.name = some name ∧ schema.get? (Text.trim name) = none

/-- A predicate that is no single filter: it has parts, or lacks the name or the text of one. -/
def IsGroup (p : Predicate) : Prop :=
  p.parts ≠ [] ∨ p.name.getD [] = [] ∨ p.filter.getD [] = []

/-- Whether a predicate is another with a filter on an unknown attribute put in, at any position of
any group at any depth. -/
inductive GainsUnknown (schema : Schema) : Predicate → Predicate → Prop
  | here {p added : Predicate} {left right : List Predicate} (hgroup : p.IsGroup)
      (hparts : p.parts = left ++ right) (hadded : added.IsUnknownFilter schema) :
      GainsUnknown schema p { p with parts := left ++ added :: right }
  | inside {p part part' : Predicate} {left right : List Predicate}
      (hparts : p.parts = left ++ part :: right) (hpart : GainsUnknown schema part part') :
      GainsUnknown schema p { p with parts := left ++ part' :: right }

theorem toExpressions_eq_map (parts : List Predicate) :
    toExpressions parts = parts.map toExpression := by
  induction parts with
  | nil => rfl
  | cons part parts ih => rw [toExpressions, ih, List.map_cons]

end Predicate

namespace Condition

variable {schema : Schema} {settings : Settings} {key value : Text} {p q : Predicate}

/-- A predicate with parts compiles to the group of the conditions that they have, and one that is
no filter either compiles to nothing. -/
theorem ofPredicate_of_isGroup [Pattern.Engine] (h : p.IsGroup) :
    ofPredicate schema settings p = ofMembers (.ofDisjunctive p.disjunctive) p.negated
      (p.parts.filterMap (ofPredicate schema settings)) := by
  obtain ⟨name, filter, disjunctive, negated, membership, parts⟩ := p
  cases parts with
  | nil =>
    have hblank : name.getD [] = [] ∨ filter.getD [] = [] := h.resolve_left (not_not_intro rfl)
    have hempty : Predicate.leafExpression (name.getD []) (filter.getD []) negated membership =
        .empty := by
      rw [Predicate.leafExpression, if_pos (by simpa using hblank)]
    rw [ofPredicate, Predicate.toExpression, hempty]
    rfl
  | cons part parts =>
    have hmembers : ((part :: parts).map Predicate.toExpression).filterMap
          (compile schema settings) =
        (part :: parts).filterMap (ofPredicate schema settings) := List.filterMap_map
    rw [ofPredicate, Predicate.toExpression, Predicate.toExpressions_eq_map, ← List.map_cons,
      compile_group, hmembers]

theorem ofPredicate_of_unknown [Pattern.Engine] (h : p.IsUnknownFilter schema) :
    ofPredicate schema settings p = none := by
  obtain ⟨name, filter, disjunctive, negated, membership, parts⟩ := p
  obtain ⟨rfl, raw, rfl, hraw⟩ := h
  apply compile_of_unknown
  intro name hname
  rw [Predicate.toExpression, Predicate.leafExpression] at hname
  split at hname
  · cases hname
  · obtain rfl : name = raw := by
      cases membership <;> cases negated <;> exact List.mem_singleton.mp hname
    exact hraw

/-- A filter on an unknown attribute does not change what the predicate around it compiles to. -/
theorem ofPredicate_of_gainsUnknown [Pattern.Engine] (h : p.GainsUnknown schema q) :
    ofPredicate schema settings q = ofPredicate schema settings p := by
  induction h with
  | here hgroup hparts hadded =>
    rw [ofPredicate_of_isGroup (.inl (by simp)), ofPredicate_of_isGroup hgroup, hparts,
      List.filterMap_append, List.filterMap_append,
      List.filterMap_cons_none (ofPredicate_of_unknown hadded)]
  | inside hparts hpart ih =>
    rw [ofPredicate_of_isGroup (.inl (by simp)), ofPredicate_of_isGroup (.inl (by simp [hparts])),
      hparts, List.filterMap_append, List.filterMap_append, List.filterMap_cons,
      List.filterMap_cons, ih]

/-- Filters that ask for unknown attributes only are ignored, in filter maps and in predicates. -/
theorem unknown_filters_ignored [Pattern.Engine] (schema : Schema) (settings : Settings) :
    (∀ (filters : Dictionary Text) (key value : Text), key ≠ settings.disjunctionKey →
        (∀ name ∈ settings.namesOfKey key, schema.get? name = none) →
        ofFilters schema settings (filters.insert key value) = ofFilters schema settings filters) ∧
      ∀ p q : Predicate, p.GainsUnknown schema q →
        ofPredicate schema settings q = ofPredicate schema settings p := by
  constructor
  · intro filters key value hkey h
    exact ofFilters_insert_of_unknown hkey h value filters
  · intro p q h
    exact ofPredicate_of_gainsUnknown h

/-- In a map joined by OR, and within the negated part of an OR group. -/
theorem unknown_filters_ignored_disjunctive :
    let schema : Schema := Dictionary.empty.insert "a".toList (Attribute.ofType (.numeric .short))
    let filters := (Dictionary.empty.insert "a".toList "1".toList).insert
      "Filter-Type-Disjunction".toList []
    let key := "x | y OR z".toList
    let value := "!1 & NULL|*".toList
    let known := Predicate.onFilter "a".toList "2".toList
    let added : Predicate :=
      { Predicate.onFilter " x ".toList "5|6".toList with negated := true, membership := true }
    let around (part : Predicate) : Predicate := .anyOf [known, { part with negated := true }]
    (key ≠ Settings.default.disjunctionKey ∧
        (∀ name ∈ Settings.default.namesOfKey key, schema.get? name = none) ∧
        ofFilters schema .default (filters.insert key value) =
          ofFilters schema .default filters) ∧
      (around (.allOf [known])).GainsUnknown schema (around (.allOf [added, known])) ∧
        ofPredicate schema .default (around (.allOf [added, known])) =
          ofPredicate schema .default (around (.allOf [known])) := by
  intro schema filters key value known added around
  have hkey : key ≠ Settings.default.disjunctionKey := by decide
  have hnames : ∀ name ∈ Settings.default.namesOfKey key, schema.get? name = none := by decide
  have hadded : added.IsUnknownFilter schema := ⟨rfl, _, rfl, by decide⟩
  have hgroup : ({ Predicate.allOf [known] with negated := true } : Predicate).IsGroup :=
    .inl (List.cons_ne_nil _ _)
  have hgains : (around (.allOf [known])).GainsUnknown schema (around (.allOf [added, known])) :=
    @Predicate.GainsUnknown.inside schema (around (.allOf [known])) _ _ [known] [] rfl
      (@Predicate.GainsUnknown.here schema _ added [] [known] hgroup rfl hadded)
  obtain ⟨hfilters, hpredicates⟩ := unknown_filters_ignored schema .default
  exact ⟨⟨hkey, hnames, hfilters filters key value hkey hnames⟩, hgains, hpredicates _ _ hgains⟩

end Condition

end RecordSearch
