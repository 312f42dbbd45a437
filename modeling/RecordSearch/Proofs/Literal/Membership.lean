import RecordSearch.Condition.Holds
import RecordSearch.Literal.Classify
import RecordSearch.Proofs.Number.Reading

/-!
# Items of memberships

A list of alternatives becomes a membership item by item. An alternative that would be an equality
on its own is the same equality as an item; patterns, inequalities, ranges and missing values are
either skipped or taken word for word.
-/

namespace RecordSearch.Literal

variable {settings : Settings} {type : SemanticType} {part s : Text} {v : Value}

/-- Equality with one text, number or declared constant. -/
def isEquality : Literal → Bool
  | .exact _ | .number _ | .constant _ => true
  | _ => false

/-- The item of an alternative in a membership, if it fits the type. -/
def item? (settings : Settings) (type : SemanticType) (part : Text) : Option Literal :=
  match type with
  | .text => some (.exact (Text.unquote part))
  | .numeric type => (readNumber? settings type (Text.unquote part)).map .number
  | .enumeration values =>
    if values.contains (Text.unquote part) then some (.constant (Text.unquote part)) else none
  | .boolean | .date | .dateTime => none

theorem membershipItems_eq (settings : Settings) (type : SemanticType) (parts : List Text) :
    membershipItems settings type parts = parts.filterMap (item? settings type) := by
  induction parts with
  | nil => cases type <;> rfl
  | cons part parts ih =>
    rw [List.filterMap_cons, ← ih]
    cases type with
    | text => rfl
    | numeric type =>
      simp only [membershipItems, item?, List.filterMap_cons]
      cases readNumber? settings type (Text.unquote part) <;> rfl
    | boolean | date | dateTime => rfl
    | enumeration values =>
      simp only [membershipItems, item?, List.map_cons, List.filter_cons]
      split <;> rfl

theorem isEquality_of_item? {item : Literal} (h : item? settings type part = some item) :
    item.isEquality := by
  cases type with
  | text => obtain rfl := Option.some.inj h; rfl
  | numeric type => obtain ⟨n, -, rfl⟩ := Option.map_eq_some_iff.mp h; rfl
  | boolean | date | dateTime => cases h
  | enumeration values =>
    rw [item?] at h
    split at h
    · obtain rfl := Option.some.inj h
      rfl
    · cases h

section Equality

theorem not_isEquality_ofPattern? [Pattern.Engine] (settings : Settings) (s : Text) :
    (ofPattern? settings s).isEquality = false := by
  unfold ofPattern?
  split <;> rfl

theorem numberRange?_eq_some {type : NumericType} {range : Literal}
    (h : numberRange? settings type s = some range) :
    ∃ low high, range = .numberRange low high := by
  obtain ⟨⟨lowText, highText⟩, -, h⟩ := Option.bind_eq_some_iff.mp h
  obtain ⟨low, -, h⟩ := Option.bind_eq_some_iff.mp h
  obtain ⟨high, -, h⟩ := Option.bind_eq_some_iff.mp h
  exact ⟨low, high, (Option.some.inj h).symm⟩

theorem dateRange?_eq_some {range : Literal} (h : dateRange? settings s = some range) :
    ∃ p, range = .period p := by
  obtain ⟨⟨lowText, highText⟩, -, h⟩ := Option.bind_eq_some_iff.mp h
  obtain ⟨first, -, h⟩ := Option.bind_eq_some_iff.mp h
  obtain ⟨last, -, h⟩ := Option.bind_eq_some_iff.mp h
  exact ⟨_, (Option.some.inj h).symm⟩

/-- Only a bare number is read as an equality with one. -/
theorem readNumber?_of_isEquality [Pattern.Engine] {type : NumericType}
    (h : (classifyNumber settings type s).isEquality) :
    ∃ n, readNumber? settings type s = some n ∧ classifyNumber settings type s = .number n := by
  unfold classifyNumber at h ⊢
  cases hnumber : readNumber? settings type s with
  | some n => exact ⟨n, rfl, rfl⟩
  | none =>
    rw [hnumber] at h
    simp only at h
    split at h
    · rw [not_isEquality_ofPattern?] at h
      cases h
    · split at h
      · cases h
      · split at h
        · cases h
        · cases hrange : numberRange? settings type s with
          | none =>
            rw [hrange] at h
            cases h
          | some range =>
            obtain ⟨low, high, rfl⟩ := numberRange?_eq_some hrange
            rw [hrange] at h
            cases h

theorem not_isEquality_classifyDate (settings : Settings) (s : Text) :
    (classifyDate settings s).isEquality = false := by
  unfold classifyDate
  simp only
  split
  · rfl
  · split
    · rfl
    · split
      · rfl
      · cases hrange : dateRange? settings s with
        | none => rfl
        | some range =>
          obtain ⟨p, rfl⟩ := dateRange?_eq_some hrange
          rfl

theorem not_isEquality_classifyBoolean (settings : Settings) (s : Text) :
    (classifyBoolean settings s).isEquality = false := by
  unfold classifyBoolean
  split
  · rfl
  · split <;> rfl

/-- An alternative that is an equality by itself is the same equality in a membership. -/
theorem item?_of_isEquality [Pattern.Engine] (htrim : Text.trim part = part)
    (h : (classifyAs settings type part).isEquality) :
    item? settings type part = some (classifyAs settings type part) := by
  unfold classifyAs at h ⊢
  simp only [htrim] at h ⊢
  split at h
  · cases h
  rename_i hne
  split at h
  · cases h
  rename_i hnull
  rw [if_neg hne, if_neg hnull]
  cases type with
  | text =>
    simp only [classifyText] at h ⊢
    split at h
    · rename_i hquoted
      rw [if_pos hquoted]
      rfl
    · rw [not_isEquality_ofPattern?] at h
      cases h
  | numeric type =>
    obtain ⟨n, hread, hclassify⟩ := readNumber?_of_isEquality h
    have hbare : Text.unquote part = part :=
      Text.unquote_of_not_quoted (Number.not_quoted_of_read? hread)
    simp only [item?, hbare, hread, hclassify]
    rfl
  | boolean =>
    rw [not_isEquality_classifyBoolean] at h
    cases h
  | enumeration values =>
    simp only [classifyConstant] at h ⊢
    split at h
    · rename_i hquoted
      rw [if_pos hquoted]
      split at h
      · rename_i hdeclared
        rw [item?, if_pos hdeclared, if_pos hdeclared]
      · cases h
    · cases h
  | date | dateTime =>
    rw [not_isEquality_classifyDate] at h
    cases h

end Equality

section Holds

theorem holds_of_ne_null (literal : Literal) (hv : v ≠ .null) :
    literal.holds v = literal.holdsFor v := by
  cases v with
  | null => exact absurd rfl hv
  | _ => rfl

theorem holds_null_of_isEquality {literal : Literal} (h : literal.isEquality) :
    literal.holds .null = false := by
  cases literal <;> first | rfl | cases h

theorem holdsForAny_iff {items : List Literal} :
    holdsForAny v items ↔ ∃ item ∈ items, item.holdsFor v := by
  induction items with
  | nil => simp [holdsForAny]
  | cons item items ih => simp [holdsForAny, ih]

/-- A membership of equalities holds where one of them does. -/
theorem holds_membership {items : List Literal} (hitems : ∀ item ∈ items, item.isEquality) :
    (membership items).holds v ↔ ∃ item ∈ items, item.holds v := by
  by_cases hv : v = .null
  · subst hv
    refine iff_of_false (by simp [holds]) ?_
    rintro ⟨item, hitem, hholds⟩
    rw [holds_null_of_isEquality (hitems item hitem)] at hholds
    cases hholds
  · simp only [holds_of_ne_null _ hv, holdsFor, holdsForAny_iff]

end Holds

end RecordSearch.Literal
