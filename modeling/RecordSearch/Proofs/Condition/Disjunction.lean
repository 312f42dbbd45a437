import RecordSearch.Proofs.Condition.Conjunction
import RecordSearch.Proofs.Condition.Names

/-!
# Disjunctions of filters

A group of OR has a condition if one of its members has, and holds where the condition of one of
them does. Within the limit for alternatives a filter is such a group, over the names of its key and
the alternatives of its value. Two filters with OR between them are therefore either of the two.
-/

namespace RecordSearch

namespace Condition

variable {ρ : Type} [Record ρ] {schema : Schema} {settings : Settings} {key value v w : Text}
  {condition : Option Condition}

/-- A condition that is there if one of some others is, and holds where one of them does. -/
structure IsAnyOf (condition : Option Condition) (others : List (Option Condition)) : Prop where
  isSome_iff : condition.isSome ↔ ∃ other ∈ others, other.isSome
  holds_iff : ∀ view, (∃ c ∈ condition, c.holds view) ↔
    ∃ other ∈ others, ∃ c ∈ other, c.holds view

namespace IsAnyOf

theorem singleton (condition : Option Condition) : IsAnyOf condition [condition] where
  isSome_iff := by simp
  holds_iff view := by simp

/-- Members that are disjunctions themselves may be replaced by their members. -/
theorem flatMap {α : Type} {items : List α} {member : α → Option Condition}
    {others : α → List (Option Condition)} (h : IsAnyOf condition (items.map member))
    (hmember : ∀ item ∈ items, IsAnyOf (member item) (others item)) :
    IsAnyOf condition (items.flatMap others) := by
  have hreplace {test : Option Condition → Prop}
      (htest : ∀ item ∈ items, test (member item) ↔ ∃ other ∈ others item, test other) :
      (∃ other ∈ items.map member, test other) ↔ ∃ other ∈ items.flatMap others, test other := by
    simp only [List.mem_flatMap, List.mem_map]
    constructor
    · rintro ⟨_, ⟨item, hitem, rfl⟩, h⟩
      obtain ⟨other, hother, h⟩ := (htest item hitem).mp h
      exact ⟨other, ⟨item, hitem, hother⟩, h⟩
    · rintro ⟨other, ⟨item, hitem, hother⟩, h⟩
      exact ⟨_, ⟨item, hitem, rfl⟩, (htest item hitem).mpr ⟨other, hother, h⟩⟩
  constructor
  · exact h.isSome_iff.trans (hreplace fun item hitem ↦ (hmember item hitem).isSome_iff)
  · intro view
    exact (h.holds_iff view).trans (hreplace fun item hitem ↦ (hmember item hitem).holds_iff view)

/-- Where the members are those of two disjunctions, either of these is enough. -/
theorem or_iff {first second : Option Condition} {others firsts seconds : List (Option Condition)}
    (h : IsAnyOf condition others) (hfirst : IsAnyOf first firsts)
    (hsecond : IsAnyOf second seconds)
    (hothers : ∀ other, other ∈ others ↔ other ∈ firsts ∨ other ∈ seconds) :
    (condition.isSome ↔ first.isSome ∨ second.isSome) ∧
      ∀ view, (∃ c ∈ condition, c.holds view) ↔
        (∃ c ∈ first, c.holds view) ∨ ∃ c ∈ second, c.holds view := by
  constructor
  · rw [h.isSome_iff, hfirst.isSome_iff, hsecond.isSome_iff]
    simp only [hothers, or_and_right, exists_or]
  · intro view
    rw [h.holds_iff, hfirst.holds_iff, hsecond.holds_iff]
    simp only [hothers, or_and_right, exists_or]

end IsAnyOf

/-- The group of OR over the conditions that some items have is any of them. -/
theorem isAnyOf_ofMembers {α : Type} (member : α → Option Condition) (items : List α) :
    IsAnyOf (ofMembers .or false (items.filterMap member)) (items.map member) := by
  have hgroup (members : List Condition) :
      ((ofMembers .or false members).isSome ↔ ∃ c ∈ members, True) ∧
        ∀ view, (∃ c ∈ ofMembers .or false members, c.holds view) ↔
          ∃ c ∈ members, c.holds view := by
    cases members with
    | nil => simp [ofMembers]
    | cons c cs => exact ⟨⟨fun _ ↦ ⟨c, List.mem_cons_self, trivial⟩, fun _ ↦ rfl⟩, fun view ↦ by
        simp [ofMembers, holds, holdsAny, holdsAny_iff]⟩
  have hmembers (test : Condition → Prop) :
      (∃ c ∈ items.filterMap member, test c) ↔
        ∃ other ∈ items.map member, ∃ c ∈ other, test c := by
    simp only [List.mem_filterMap, List.mem_map, Option.mem_def]
    constructor
    · rintro ⟨c, ⟨item, hitem, hc⟩, h⟩
      exact ⟨_, ⟨item, hitem, rfl⟩, c, hc, h⟩
    · rintro ⟨_, ⟨item, hitem, rfl⟩, c, hc, h⟩
      exact ⟨c, ⟨item, hitem, hc⟩, h⟩
  obtain ⟨hsome, hholds⟩ := hgroup (items.filterMap member)
  constructor
  · rw [hsome, hmembers]
    simp [Option.isSome_iff_exists]
  · intro view
    rw [hholds view, hmembers]

/-- A group of OR is any of its members. -/
theorem isAnyOf_any [Pattern.Engine] (es : List Expression) :
    IsAnyOf (compile schema settings (.any es)) (es.map (compile schema settings)) := by
  rw [Expression.any, compile_group]
  exact isAnyOf_ofMembers (compile schema settings) es

/-- The conditions of the alternatives of a filter, on each of the names of its key. -/
def ofEachAlternative [Pattern.Engine] (schema : Schema) (settings : Settings) (key value : Text) :
    List (Option Condition) :=
  (settings.namesOfKey key).flatMap fun name ↦
    (settings.operators.or.split value).map fun part ↦
      compile schema settings (.ofLiteral settings name part)

theorem mem_ofEachAlternative_or [Pattern.Engine] (hoperators : settings.operators = .default)
    {other : Option Condition} :
    other ∈ ofEachAlternative schema settings key (v ++ '|' :: w) ↔
      other ∈ ofEachAlternative schema settings key v ∨
        other ∈ ofEachAlternative schema settings key w := by
  have hor : settings.operators.or.MarkedBy '|' := hoperators ▸ Operators.marked_default.or
  simp only [ofEachAlternative, hor.split_append, List.mem_flatMap, List.map_append,
    List.mem_append, and_or_left, exists_or]

section Within

variable [Pattern.Engine]

variable (hoperators : settings.operators = .default) (htrim : Text.trim value = value)
  (hvalue : value ≠ []) (hand : settings.operators.and.occursIn value = false)
  (hlimit : (settings.operators.or.split value).length ≤ settings.orLimit)

include hoperators htrim hvalue hlimit

/-- Within the limit a filter for one name is any of its alternatives. -/
theorem isAnyOf_ofAlternatives (name : Text) :
    IsAnyOf (compile schema settings (.ofAlternatives settings name value))
      ((settings.operators.or.split value).map fun part ↦
        compile schema settings (.ofLiteral settings name part)) := by
  have hor : settings.operators.or.MarkedBy '|' := hoperators ▸ Operators.marked_default.or
  have hblank : Text.trim value ≠ [] := htrim.symm ▸ hvalue
  cases hoccurs : settings.operators.or.occursIn value with
  | true =>
    have hgroup : Expression.ofAlternatives settings name value =
        .any ((settings.operators.or.split value).map (Expression.ofLiteral settings name)) := by
      simp [Expression.ofAlternatives, hoccurs, Nat.not_lt.mpr hlimit]
    rw [hgroup, ← Function.comp_def, ← List.map_map]
    exact isAnyOf_any _
  | false =>
    have hliteral : Expression.ofAlternatives settings name value =
        .ofLiteral settings name value := by
      simp [Expression.ofAlternatives, hoccurs]
    rw [hliteral, hor.split_of_not_occursIn hoccurs hblank, htrim]
    exact .singleton _

include hand

/-- Within the limit a filter without AND is any of its alternatives on any name of its key. -/
theorem isAnyOf_ofEntry (key : Text) :
    IsAnyOf (ofEntry schema settings key value) (ofEachAlternative schema settings key value) := by
  have hblank : Text.trim value ≠ [] := htrim.symm ▸ hvalue
  have hname (name : Text) :
      Expression.ofClauses settings name value = .ofAlternatives settings name value := by
    simp [Expression.ofClauses, hand]
  rw [ofEntry, Expression.parse?_eq settings key hblank, hand, Option.bind_some]
  unfold ofEachAlternative Settings.namesOfKey
  cases hkey : Text.contains settings.operators.or.symbol key with
  | true =>
    simp only [Expression.ofPart, hkey, Bool.false_eq_true, if_false, if_true,
      Expression.ofNames, hname]
    have hnames : IsAnyOf (compile schema settings (.any _)) _ :=
      isAnyOf_any ((settings.operators.or.split key).map fun name ↦
        .ofAlternatives settings name value)
    rw [List.map_map] at hnames
    exact hnames.flatMap fun name _ ↦ isAnyOf_ofAlternatives hoperators htrim hvalue hlimit name
  | false =>
    simp only [Expression.ofPart, hkey, Bool.false_eq_true, if_false, List.flatMap_cons,
      List.flatMap_nil, List.append_nil]
    exact isAnyOf_ofAlternatives hoperators htrim hvalue hlimit (Text.trim key)

end Within

/-- Two filters with OR between them, together within the limit for alternatives, have a condition
if one of the two has, and it holds where the condition of one of them does. -/
theorem holds_ofEntry_or [Pattern.Engine] (hoperators : settings.operators = .default)
    (hv : Text.trim v = v) (hv' : v ≠ []) (hw : Text.trim w = w) (hw' : w ≠ [])
    (hvand : settings.operators.and.occursIn v = false)
    (hwand : settings.operators.and.occursIn w = false)
    (hlimit : (settings.operators.or.split v).length + (settings.operators.or.split w).length ≤
      settings.orLimit) :
    let filter := ofEntry schema settings key (v ++ settings.operators.or.symbol ++ w)
    (filter.isSome ↔
      (ofEntry schema settings key v).isSome ∨ (ofEntry schema settings key w).isSome) ∧
    ∀ c ∈ filter, ∀ record : ρ, c.holds (Record.value record) ↔
      (∃ d ∈ ofEntry schema settings key v, d.holds (Record.value record)) ∨
        ∃ d ∈ ofEntry schema settings key w, d.holds (Record.value record) := by
  intro filter
  have hor : settings.operators.or.MarkedBy '|' := hoperators ▸ Operators.marked_default.or
  have hand : settings.operators.and.MarkedBy '&' := hoperators ▸ Operators.marked_default.and
  have hjoined : v ++ settings.operators.or.symbol ++ w = v ++ '|' :: w := by
    rw [hor.symbol_eq, List.append_assoc]
    rfl
  have htrim : Text.trim (v ++ '|' :: w) = v ++ '|' :: w := by
    rw [← hjoined]
    exact Text.trim_append_append hv hv' hw hw' _
  have hwithout : settings.operators.and.occursIn (v ++ '|' :: w) = false := by
    have hjoin : Text.join ['|'] [v, w] = v ++ '|' :: w := by simp [Text.join]
    have hother : '|' ≠ '&' := by decide
    have hword : '|' ∉ settings.operators.and.middleWord := by
      rw [hoperators]
      decide
    rw [← hjoin]
    exact hand.not_occursIn_join hother hword (by simp [hvand, hwand])
  have hwithin : (settings.operators.or.split (v ++ '|' :: w)).length ≤ settings.orLimit := by
    rwa [hor.split_append, List.length_append]
  have hfilter : IsAnyOf filter (ofEachAlternative schema settings key (v ++ '|' :: w)) := by
    simp only [filter, hjoined]
    exact isAnyOf_ofEntry hoperators htrim (by simp) hwithout hwithin key
  have hfirst : IsAnyOf (ofEntry schema settings key v) _ :=
    isAnyOf_ofEntry hoperators hv hv' hvand (by omega) key
  have hsecond : IsAnyOf (ofEntry schema settings key w) _ :=
    isAnyOf_ofEntry hoperators hw hw' hwand (by omega) key
  obtain ⟨hsome, hholds⟩ := hfilter.or_iff hfirst hsecond fun _ ↦
    mem_ofEachAlternative_or hoperators
  refine ⟨hsome, fun c hc record ↦ ?_⟩
  rw [← hholds, Option.mem_def.mp hc]
  simp

/-- Alternatives behind NOT and without a value, for two names of which one is unknown. -/
theorem holds_ofEntry_or_negated :
    let schema : Schema := Dictionary.empty.insert "k".toList (Attribute.ofType .text)
    let v := "!x OR |".toList
    let w := "NOT y".toList
    let filter := ofEntry schema .default "k|z".toList (v ++ ['|'] ++ w)
    let record (s : Text) : Text → Value := fun _ ↦ .text s
    (Text.trim v = v ∧ v ≠ []) ∧ (Text.trim w = w ∧ w ≠ []) ∧
      (Operators.default.and.occursIn v = false ∧ Operators.default.and.occursIn w = false) ∧
      (Operators.default.or.split v).length + (Operators.default.or.split w).length ≤ 10 ∧
      filter.isSome ∧ ∀ c ∈ filter, c.holds (record "y".toList) ∧ ¬ c.holds (record "xy".toList) := by
  intro schema v w filter record
  have hv : Text.trim v = v ∧ v ≠ [] := by decide
  have hw : Text.trim w = w ∧ w ≠ [] := by decide
  have hand : Operators.default.and.occursIn v = false ∧
      Operators.default.and.occursIn w = false := by decide
  have hlimit : (Operators.default.or.split v).length + (Operators.default.or.split w).length ≤
      10 := by decide
  let first := ofEntry schema .default "k|z".toList v
  let second := ofEntry schema .default "k|z".toList w
  obtain ⟨hsome, hholds⟩ : (filter.isSome ↔ first.isSome ∨ second.isSome) ∧
      ∀ c ∈ filter, ∀ record : Text → Value, c.holds (Record.value record) ↔
        (∃ d ∈ first, d.holds (Record.value record)) ∨
          ∃ d ∈ second, d.holds (Record.value record) :=
    holds_ofEntry_or rfl hv.1 hv.2 hw.1 hw.2 hand.1 hand.2 hlimit
  refine ⟨hv, hw, hand, hlimit, hsome.mpr (.inl (by decide +kernel)), fun c hc ↦ ⟨?_, ?_⟩⟩
  · exact (hholds c hc (record "y".toList)).mpr (.inl (by decide +kernel))
  · exact fun h ↦ absurd ((hholds c hc (record "xy".toList)).mp h) (by decide +kernel)

end Condition

end RecordSearch
