import RecordSearch.Literal.Engine
import RecordSearch.Proofs.Condition.Compile
import RecordSearch.Proofs.Literal.Membership

/-!
# Alternatives and memberships

A filter with OR is a group of its alternatives as long as there are few of them and a membership
beyond that. The membership asks for one of the alternatives that fit the type of the attribute. It
keeps what an equality among the alternatives selects; a pattern, an inequality, a range, a negation
or a missing value may select more than the membership does.
-/

namespace RecordSearch

/-- The settings with another limit for the alternatives of an OR group. -/
def Settings.withOrLimit (settings : Settings) (limit : ℕ) : Settings :=
  { settings with orLimit := limit }

theorem Settings.SingleName.withOrLimit {settings : Settings} {name : Text}
    (h : settings.SingleName name) (limit : ℕ) : (settings.withOrLimit limit).SingleName name :=
  ⟨h.trimmed, h.unjoined, h.not_switch⟩

/-- What a membership asks of a value: to equal one of the alternatives that fit the type. Nothing is
asked where none fits. -/
def Literal.IsOneOf (settings : Settings) (type : SemanticType) (parts : List Text) (v : Value) :
    Prop :=
  match type with
  | .text => v ≠ .null ∧ v.render ∈ parts.map Text.unquote
  | .numeric type =>
    let numbers := parts.filterMap fun part ↦ readNumber? settings type (Text.unquote part)
    numbers = [] ∨ ∃ n ∈ numbers, v.orderNumber? n = some .eq
  | .enumeration values =>
    let constants := (parts.map Text.unquote).filter fun constant ↦ values.contains constant
    constants = [] ∨ v ≠ .null ∧ v.render ∈ constants
  | .boolean | .date | .dateTime => True

namespace Literal

variable {settings : Settings} {type : SemanticType} {parts : List Text} {v : Value}

/-- One of several texts is equal to a value if the value is among them; a missing value is not,
although it is shown as the empty text. -/
theorem exists_equality_iff {equality : Text → Literal}
    (hequality : equality = .exact ∨ equality = .constant) (texts : List Text) :
    (∃ item ∈ texts.map equality, item.holds v) ↔ v ≠ .null ∧ v.render ∈ texts := by
  have hholds (s : Text) : (equality s).holds v ↔ v ≠ .null ∧ v.render = s := by
    by_cases hv : v = .null
    · subst hv
      rcases hequality with rfl | rfl <;> simp [holds]
    · rw [holds_of_ne_null _ hv]
      rcases hequality with rfl | rfl <;> simp [holdsFor, hv]
  constructor
  · rintro ⟨item, hitem, h⟩
    obtain ⟨s, hs, rfl⟩ := List.mem_map.mp hitem
    obtain ⟨hv, rfl⟩ := (hholds s).mp h
    exact ⟨hv, hs⟩
  · rintro ⟨hv, hmem⟩
    exact ⟨_, List.mem_map_of_mem hmem, (hholds _).mpr ⟨hv, rfl⟩⟩

theorem isOneOf_iff (hparts : parts ≠ []) :
    IsOneOf settings type parts v ↔
      parts.filterMap (item? settings type) = [] ∨
        ∃ item ∈ parts.filterMap (item? settings type), item.holds v := by
  rw [← membershipItems_eq]
  cases type with
  | text =>
    have hitems : membershipItems settings .text parts = (parts.map Text.unquote).map .exact := by
      rw [membershipItems, List.map_map]
      rfl
    rw [hitems, exists_equality_iff (.inl rfl)]
    simp [IsOneOf, hparts]
  | numeric type =>
    have hnumber (n : Number) : (number n).holds v ↔ v.orderNumber? n = some .eq := by
      by_cases hv : v = .null
      · subst hv
        cases n <;> simp [holds, Value.orderNumber?, Value.toDouble?, Value.toInt?]
      · simp [holds_of_ne_null _ hv, holdsFor]
    simp [IsOneOf, membershipItems, hnumber]
  | enumeration values =>
    rw [membershipItems, exists_equality_iff (.inr rfl), List.map_eq_nil_iff]
    rfl
  | boolean | date | dateTime => simp [IsOneOf, membershipItems]

end Literal

namespace Condition

open Literal

variable {ρ : Type} [Record ρ] {schema : Schema} {settings : Settings} {a : Attribute}
  {name value part : Text} {record : ρ}

mutual

/-- The limit for alternatives plays no part once a filter is read. -/
theorem compile_withOrLimit [Pattern.Engine] (limit : ℕ) (e : Expression) :
    compile schema (settings.withOrLimit limit) e = compile schema settings e := by
  cases e with
  | leaf name value kind => cases kind <;> rfl
  | group connective negated children =>
    rw [compile, compile, compileAll_withOrLimit limit children]

theorem compileAll_withOrLimit [Pattern.Engine] (limit : ℕ) (es : List Expression) :
    compileAll schema (settings.withOrLimit limit) es = compileAll schema settings es := by
  cases es with
  | nil => rfl
  | cons e es =>
    rw [compileAll, compileAll, compile_withOrLimit limit e, compileAll_withOrLimit limit es]

end

/-- The condition that a value is one of some items, and none if there are none. -/
structure Chooses (condition : Option Condition) (name : Text) (items : List Literal) : Prop where
  isSome_iff : condition.isSome ↔ items ≠ []
  holds_iff : ∀ c ∈ condition, ∀ view,
    c.holds view ↔ ∃ item ∈ items, item.holds (view name)

theorem Chooses.selects_iff {condition : Option Condition} {items : List Literal}
    (h : Chooses condition name items) (record : ρ) :
    selects condition record ↔
      items = [] ∨ ∃ item ∈ items, item.holds (Record.value record name) := by
  cases condition with
  | none =>
    have hnil : items = [] := by simpa using h.isSome_iff
    simp [selects, hnil]
  | some c =>
    have hne : items ≠ [] := h.isSome_iff.mp rfl
    simp only [selects, hne, false_or]
    exact h.holds_iff c rfl _

section Leaf

variable [Pattern.Engine] (hname : Text.trim name = name) (ha : schema.get? name = some a)

include hname ha

theorem compile_comparison (htrim : Text.trim part = part) (hne : part ≠ []) :
    compile schema settings (.comparison name part) =
      if (Literal.classify settings a part).isRecognized then
        some (.leaf name (Literal.classify settings a part))
      else none := by
  simp [Expression.comparison, compile, compileLeaf, hname, ha, htrim, hne, literalOf]

theorem compile_membership (hvalue : Text.trim value ≠ []) :
    compile schema settings (.membership name value) =
      let items := Literal.membershipItems settings a.effectiveType
        (settings.operators.or.split value)
      if items = [] then none else some (.leaf name (.membership items)) := by
  simp only [Expression.membership, compile, compileLeaf, hname, ha, literalOf,
    Literal.classifyMembership]
  rw [if_neg (by simpa using hvalue)]
  split <;> simp_all [Literal.isRecognized]

/-- As a membership, any alternatives choose among their items. -/
theorem chooses_membership {value : Text} (hvalue : Text.trim value ≠ []) :
    Chooses (compile schema settings (.membership name value)) name
      ((settings.operators.or.split value).filterMap (item? settings a.effectiveType)) := by
  rw [compile_membership hname ha hvalue, membershipItems_eq]
  have hitems : ∀ item ∈ (settings.operators.or.split value).filterMap
      (item? settings a.effectiveType), item.isEquality := fun item hitem ↦ by
    obtain ⟨part, -, hpart⟩ := List.mem_filterMap.mp hitem
    exact isEquality_of_item? hpart
  simp only
  split
  · rename_i hnil
    exact ⟨by simp [hnil], by simp⟩
  · rename_i hne
    refine ⟨by simp [hne], fun c hc view ↦ ?_⟩
    obtain rfl := Option.some.inj hc
    exact holds_membership hitems

/-- The literal of an alternative that is a leaf is what its value is classified as. -/
theorem classify_of_compile_ofLiteral {literal : Literal} (htrim : Text.trim part = part)
    (hne : part ≠ [])
    (h : compile schema settings (Expression.ofLiteral settings name part) =
      some (.leaf name literal)) :
    literal = Literal.classify settings a part := by
  unfold Expression.ofLiteral at h
  split at h
  · rw [Expression.negate, compile_group] at h
    unfold ofMembers at h
    split at h <;> cases h
  · rw [htrim, compile_comparison hname ha htrim hne] at h
    split at h
    · cases h
      rfl
    · cases h

end Leaf

theorem ofClauses_of_over (hand : settings.operators.and.occursIn value = false)
    (hor : settings.operators.or.occursIn value)
    (hover : settings.orLimit < (settings.operators.or.split value).length) :
    Expression.ofClauses settings name value =
      .membership name (settings.operators.or.normalize value) := by
  simp [Expression.ofClauses, Expression.ofAlternatives, hand, hor, hover]

theorem ofClauses_of_within (hand : settings.operators.and.occursIn value = false)
    (hor : settings.operators.or.occursIn value)
    (hwithin : (settings.operators.or.split value).length ≤ settings.orLimit) :
    Expression.ofClauses settings name value =
      .any ((settings.operators.or.split value).map (Expression.ofLiteral settings name)) := by
  simp [Expression.ofClauses, Expression.ofAlternatives, hand, hor, Nat.not_lt.mpr hwithin]

theorem trim_ne_nil_of_split (hoperators : settings.operators = .default)
    (hparts : settings.operators.or.split value ≠ []) : Text.trim value ≠ [] := fun hblank ↦ by
  rw [hoperators] at hparts
  exact hparts (Operators.marked_default.or.split_of_blank hblank)

/-- Once rewritten, alternatives select the values that equal one of them. -/
theorem selects_over [Pattern.Engine] (hoperators : settings.operators = .default)
    (hname : settings.SingleName name) (ha : schema.get? name = some a)
    (hand : settings.operators.and.occursIn value = false)
    (hor : settings.operators.or.occursIn value)
    (hover : settings.orLimit < (settings.operators.or.split value).length) :
    selects (ofFilter schema settings name value) record ↔
      Literal.IsOneOf settings a.effectiveType (settings.operators.or.split value)
        (Record.value record name) := by
  have hparts : settings.operators.or.split value ≠ [] :=
    List.length_pos_iff.mp (Nat.zero_lt_of_lt hover)
  have hmarked : settings.operators.or.MarkedBy '|' := hoperators ▸ Operators.marked_default.or
  have hvalue : Text.trim value ≠ [] := trim_ne_nil_of_split hoperators hparts
  have hchooses : Chooses (compile schema settings (.membership name _)) name _ :=
    chooses_membership hname.trimmed ha (hmarked.trim_normalize_ne_nil hparts)
  rw [hmarked.split_normalize] at hchooses
  rw [selects_ofFilter hname hvalue, ofClauses_of_over hand hor hover, hchooses.selects_iff,
    isOneOf_iff hparts]

/-- With few alternatives, the condition of a filter holds where that of one of them does. -/
theorem holds_within [Pattern.Engine] {c : Condition} {view : Text → Value}
    (hoperators : settings.operators = .default) (hname : settings.SingleName name)
    (hand : settings.operators.and.occursIn value = false)
    (hor : settings.operators.or.occursIn value) (hparts : settings.operators.or.split value ≠ [])
    (hwithin : (settings.operators.or.split value).length ≤ settings.orLimit)
    (hc : ofFilter schema settings name value = some c) :
    c.holds view ↔ ∃ part ∈ settings.operators.or.split value, ∃ d,
      compile schema settings (Expression.ofLiteral settings name part) = some d ∧
        d.holds view := by
  rw [ofFilter_eq hname (trim_ne_nil_of_split hoperators hparts),
    ofClauses_of_within hand hor hwithin, Expression.any, compile_group, List.filterMap_map] at hc
  obtain ⟨group, hgroup, rfl⟩ := Option.map_eq_some_iff.mp hc
  have hmembers : group.holds view ↔ ∃ d ∈ (settings.operators.or.split value).filterMap
      (compile schema settings ∘ Expression.ofLiteral settings name), d.holds view := by
    rw [← holdsAny_iff]
    cases hall : (settings.operators.or.split value).filterMap
        (compile schema settings ∘ Expression.ofLiteral settings name) with
    | nil =>
      rw [hall] at hgroup
      cases hgroup
    | cons d ds =>
      rw [hall] at hgroup
      obtain rfl := Option.some.inj hgroup
      simp [holds]
  calc
    (Condition.group .and false [group]).holds view ↔ group.holds view := by
      simp [holds, holdsAll]
    _ ↔ _ := by
      rw [hmembers]
      simp only [List.mem_filterMap, Function.comp_apply]
      constructor
      · rintro ⟨d, ⟨part, hpart, hd⟩, hholds⟩
        exact ⟨part, hpart, d, hd, hholds⟩
      · rintro ⟨part, hpart, d, hd, hholds⟩
        exact ⟨d, ⟨part, hpart, hd⟩, hholds⟩

/-- What an equality among the alternatives selects is one of them. -/
theorem isOneOf_of_isEquality [Pattern.Engine] (hname : Text.trim name = name)
    (ha : schema.get? name = some a)
    (hpart : part ∈ settings.operators.or.split value) {literal : Literal}
    (hequality : literal.isEquality)
    (hcompile : compile schema settings (Expression.ofLiteral settings name part) =
      some (.leaf name literal))
    {v : Value} (hholds : literal.holds v) :
    IsOneOf settings a.effectiveType (settings.operators.or.split value) v := by
  obtain ⟨htrim, hne⟩ := Operator.mem_split hpart
  have hclassify : literal = Literal.classify settings a part :=
    classify_of_compile_ofLiteral hname ha htrim hne hcompile
  have hitem : item? settings a.effectiveType part = some literal := by
    rw [hclassify] at hequality ⊢
    exact item?_of_isEquality htrim hequality
  rw [isOneOf_iff (List.ne_nil_of_mem hpart)]
  exact .inr ⟨literal, List.mem_filterMap.mpr ⟨part, hpart, hitem⟩, hholds⟩

/-- Without OR the limit changes nothing. -/
theorem ofFilter_of_not_occursIn [Pattern.Engine] (hname : settings.SingleName name)
    (hvalue : Text.trim value ≠ []) (hand : settings.operators.and.occursIn value = false)
    (hor : settings.operators.or.occursIn value = false) (limit : ℕ) :
    ofFilter schema (settings.withOrLimit limit) name value =
      ofFilter schema settings name value := by
  have hclauses : Expression.ofClauses (settings.withOrLimit limit) name value =
      Expression.ofClauses settings name value := by
    rw [Expression.ofClauses_of_not_occursIn name hand hor]
    exact Expression.ofClauses_of_not_occursIn name hand hor
  rw [ofFilter_eq (hname.withOrLimit limit) hvalue, ofFilter_eq hname hvalue, hclauses,
    compile_withOrLimit]

/-- Too many alternatives on one attribute become a membership, which selects the values that equal
one of them, where the group holds for the records that one of the alternatives selects. What an
equality among them selects is therefore not lost. Without OR the limit changes nothing. -/
theorem ofFilter_rewritten [Pattern.Engine] (record : ρ)
    (hoperators : settings.operators = .default)
    (hname : settings.SingleName name) (ha : schema.get? name = some a)
    (hand : settings.operators.and.occursIn value = false)
    (hover : settings.orLimit < (settings.operators.or.split value).length) :
    let parts := settings.operators.or.split value
    let rewritten := ofFilter schema settings name value
    let lifted (limit : ℕ) := ofFilter schema (settings.withOrLimit limit) name value
    let alternative (part : Text) :=
      compile schema settings (Expression.ofLiteral settings name part)
    (settings.operators.or.occursIn value →
      (selects rewritten record ↔
        IsOneOf settings a.effectiveType parts (Record.value record name)) ∧
      (∀ limit, parts.length ≤ limit → ∀ c, lifted limit = some c →
        (c.holds (Record.value record) ↔
          ∃ part ∈ parts, ∃ d, alternative part = some d ∧ d.holds (Record.value record))) ∧
      ∀ part ∈ parts, ∀ literal : Literal, literal.isEquality →
        alternative part = some (.leaf name literal) →
        literal.holds (Record.value record name) → selects rewritten record) ∧
    (settings.operators.or.occursIn value = false → ∀ limit, lifted limit = rewritten) := by
  intro parts rewritten lifted alternative
  have hparts : parts ≠ [] := List.length_pos_iff.mp (Nat.zero_lt_of_lt hover)
  constructor
  · intro hor
    have hverdict : selects rewritten record ↔
        IsOneOf settings a.effectiveType parts (Record.value record name) :=
      selects_over hoperators hname ha hand hor hover
    refine ⟨hverdict, fun limit hwithin c hc ↦ ?_, fun part hpart literal hequality hcompile h ↦ ?_⟩
    · have hlifted : (settings.withOrLimit limit).operators = .default := hoperators
      have hgroup : c.holds (Record.value record) ↔ ∃ part ∈ parts, ∃ d,
          compile schema (settings.withOrLimit limit)
            (Expression.ofLiteral (settings.withOrLimit limit) name part) = some d ∧
              d.holds (Record.value record) :=
        holds_within hlifted (hname.withOrLimit limit) hand hor hparts hwithin hc
      simp only [compile_withOrLimit] at hgroup
      exact hgroup
    · rw [hverdict]
      exact isOneOf_of_isEquality hname.trimmed ha hpart hequality hcompile h
  · intro hor limit
    exact ofFilter_of_not_occursIn hname (trim_ne_nil_of_split hoperators hparts) hand hor limit

theorem ofFilter_rewritten_integers :
    let settings := Settings.default.withOrLimit 1
    let schema : Schema :=
      Dictionary.empty.insert "k".toList (Attribute.ofType (.numeric .integer))
    let value := "1|<3|2".toList
    let record : Text → Value := fun _ ↦ .integer 2
    settings.operators.or.occursIn value ∧
      settings.orLimit < (settings.operators.or.split value).length ∧
      selects (ofFilter schema settings "k".toList value) record := by
  intro settings schema value record
  have hname : settings.SingleName "k".toList := ⟨by decide, by decide, by decide⟩
  have hand : settings.operators.and.occursIn value = false := by decide
  have hor : settings.operators.or.occursIn value := by decide
  have hover : settings.orLimit < (settings.operators.or.split value).length := by decide
  have ha : schema.get? "k".toList = some (Attribute.ofType (.numeric .integer)) := rfl
  obtain ⟨-, -, hkept⟩ := (ofFilter_rewritten record rfl hname ha hand hover).1 hor
  exact ⟨hor, hover, hkept "2".toList (by decide) (.number (.integer 2)) rfl rfl (by decide)⟩

/-- A pattern among the alternatives selects the texts that contain it; the membership asks for the
text itself and loses the others. -/
theorem rewritten_loses_pattern :
    let settings := Settings.default.withOrLimit 1
    let schema : Schema := Dictionary.empty.insert "k".toList (Attribute.ofType .text)
    let value := "ab|x".toList
    let record : Text → Value := fun _ ↦ .text "abc".toList
    settings.operators = .default ∧ settings.SingleName "k".toList ∧
      settings.operators.and.occursIn value = false ∧
      settings.orLimit < (settings.operators.or.split value).length ∧
      (∃ c, ofFilter schema (settings.withOrLimit 2) "k".toList value = some c ∧
        c.holds (Record.value record)) ∧
      selects (ofFilter schema settings "k".toList value) record = false := by
  intro settings schema value record
  have hlifted : (ofFilter schema (settings.withOrLimit 2) "k".toList value).any fun c ↦
      c.holds (Record.value record) := by decide +kernel
  exact ⟨rfl, ⟨by decide, by decide, by decide⟩, by decide, by decide,
    (Option.any_eq_true _ _).mp hlifted, by decide +kernel⟩

end Condition

end RecordSearch
