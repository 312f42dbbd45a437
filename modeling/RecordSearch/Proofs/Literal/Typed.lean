import RecordSearch.Proofs.Literal.Membership

/-!
# Typed literals

Which literals a semantic type has. Reading a value by a type gives a literal of that type or leaves
the value unrecognized, and so does reading a list of alternatives.
-/

namespace RecordSearch

/-- Whether a number is one of a numeric type: an integer that fits its size, or a finite float. -/
inductive Number.IsOf : NumericType → Number → Prop
  | short {n : ℤ} (hfits : fitsSigned 16 n) : IsOf .short (.short n)
  | integer {n : ℤ} (hfits : fitsSigned 32 n) : IsOf .integer (.integer n)
  | long {n : ℤ} (hfits : fitsSigned 64 n) : IsOf .long (.long n)
  | float {x : Single} (hfinite : x.isFinite) : IsOf .float (.float x)
  | double {x : Double} (hfinite : x.isFinite) : IsOf .double (.double x)

/-- Whether a bound limits values of a type. -/
inductive Bound.HasType : SemanticType → Bound → Prop
  | number {type : NumericType} {n : Number} (hn : n.IsOf type) : HasType (.numeric type) (.number n)
  | dateTime {type : SemanticType} (htype : type.isTemporal) (t : DateTime) :
      HasType type (.dateTime t)

namespace Literal

/-- What a membership of a type lists: texts, numbers or declared constants. -/
inductive IsItem : SemanticType → Literal → Prop
  | exact (s : Text) : IsItem .text (.exact s)
  | number {type : NumericType} {n : Number} (hn : n.IsOf type) : IsItem (.numeric type) (.number n)
  | constant {values : List Text} {s : Text} (hs : s ∈ values) :
      IsItem (.enumeration values) (.constant s)

/-- The literals of a type. -/
inductive HasType : SemanticType → Literal → Prop
  | null (type : SemanticType) : HasType type .null
  | item {type : SemanticType} {literal : Literal} (h : IsItem type literal) : HasType type literal
  | like {type : SemanticType} (htype : type = .text ∨ type.isNumeric) (pattern : Pattern) :
      HasType type (.like pattern)
  | numberRange {type : NumericType} {low high : Number} (hlow : low.IsOf type)
      (hhigh : high.IsOf type) : HasType (.numeric type) (.numberRange low high)
  | period {type : SemanticType} (htype : type.isTemporal) (p : Period) : HasType type (.period p)
  | lessThan {type : SemanticType} {bound : Bound} (h : bound.HasType type) :
      HasType type (.lessThan bound)
  | greaterThan {type : SemanticType} {bound : Bound} (h : bound.HasType type) :
      HasType type (.greaterThan bound)
  | boolean (b : Bool) : HasType .boolean (.boolean b)
  | constants {values selected : List Text} (h : selected.Sublist values) :
      HasType (.enumeration values) (.constants selected)
  | membership {type : SemanticType} {items : List Literal} (hne : items ≠ [])
      (hitems : ∀ item ∈ items, IsItem type item) : HasType type (.membership items)

/-- Whether neither a literal nor an item of it is unrecognized. -/
def IsRecognizedThroughout (literal : Literal) : Prop :=
  literal.isRecognized ∧ ∀ items, literal = .membership items → ∀ item ∈ items, item.isRecognized

/-- Whether what a value was read as is a literal of a type, unless it is unrecognized. -/
def IsReadingOf (type : SemanticType) (literal : Literal) : Prop :=
  literal.isRecognized → HasType type literal

variable {settings : Settings} {type : SemanticType} {literal : Literal} {raw s part : Text}

theorem IsItem.isRecognized (h : IsItem type literal) : literal.isRecognized := by
  cases h <;> rfl

theorem HasType.isRecognizedThroughout (h : HasType type literal) :
    literal.IsRecognizedThroughout := by
  cases h with
  | item h =>
    refine ⟨h.isRecognized, fun items hitems ↦ ?_⟩
    subst hitems
    cases h
  | membership hne hitems =>
    refine ⟨rfl, fun items heq item hitem ↦ ?_⟩
    cases heq
    exact (hitems item hitem).isRecognized
  | _ => exact ⟨rfl, fun items hitems ↦ by cases hitems⟩

theorem HasType.isReadingOf (h : HasType type literal) : IsReadingOf type literal :=
  fun _ ↦ h

theorem isReadingOf_unrecognized (type : SemanticType) : IsReadingOf type .unrecognized := by
  intro h
  cases h

end Literal

/-- Reading by a numeric type gives a number of that type. -/
theorem Number.isOf_of_read? {separators : List Text} {type : NumericType} {s : Text} {n : Number}
    (h : read? separators type s = some n) : n.IsOf type := by
  cases type with
  | short =>
    obtain ⟨m, hm, rfl⟩ := Option.map_eq_some_iff.mp h
    exact .short (Text.toInt?_of_toSigned? hm).2
  | integer =>
    obtain ⟨m, hm, rfl⟩ := Option.map_eq_some_iff.mp h
    exact .integer (Text.toInt?_of_toSigned? hm).2
  | long =>
    obtain ⟨m, hm, rfl⟩ := Option.map_eq_some_iff.mp h
    exact .long (Text.toInt?_of_toSigned? hm).2
  | float =>
    obtain ⟨x, hx, rfl⟩ := Option.map_eq_some_iff.mp h
    exact .float (Option.filter_eq_some_iff.mp hx).2
  | double =>
    obtain ⟨x, hx, rfl⟩ := Option.map_eq_some_iff.mp h
    exact .double (Option.filter_eq_some_iff.mp hx).2

namespace Literal

variable {settings : Settings} {type : SemanticType} {literal : Literal} {raw s part : Text}

section Forms

theorem isReadingOf_ofPattern? [Pattern.Engine] (settings : Settings)
    (htype : type = .text ∨ type.isNumeric)
    (s : Text) : IsReadingOf type (ofPattern? settings s) := by
  unfold ofPattern?
  split
  · exact (HasType.like htype _).isReadingOf
  · exact isReadingOf_unrecognized type

theorem isReadingOf_classifyText [Pattern.Engine] (settings : Settings) (s : Text) :
    IsReadingOf .text (classifyText settings s) := by
  unfold classifyText
  split
  · exact (HasType.item (.exact _)).isReadingOf
  · exact isReadingOf_ofPattern? settings (.inl rfl) s

theorem isOf_of_numberAfter? {type : NumericType} {op : Operator} {n : Number}
    (h : numberAfter? settings type op s = some n) : n.IsOf type := by
  obtain ⟨rest, -, hread⟩ := Option.bind_eq_some_iff.mp h
  exact Number.isOf_of_read? hread

theorem hasType_of_numberRange? {type : NumericType} {range : Literal}
    (h : numberRange? settings type s = some range) : HasType (.numeric type) range := by
  obtain ⟨⟨lowText, highText⟩, -, h⟩ := Option.bind_eq_some_iff.mp h
  obtain ⟨low, hlow, h⟩ := Option.bind_eq_some_iff.mp h
  obtain ⟨high, hhigh, h⟩ := Option.bind_eq_some_iff.mp h
  obtain rfl := Option.some.inj h
  exact .numberRange (Number.isOf_of_read? hlow) (Number.isOf_of_read? hhigh)

theorem isReadingOf_classifyNumber [Pattern.Engine] (settings : Settings) (type : NumericType)
    (s : Text) :
    IsReadingOf (.numeric type) (classifyNumber settings type s) := by
  unfold classifyNumber
  dsimp only
  split
  · rename_i n hread
    exact (HasType.item (.number (Number.isOf_of_read? hread))).isReadingOf
  split
  · exact isReadingOf_ofPattern? settings (.inr rfl) _
  split
  · rename_i n hless
    exact (HasType.lessThan (.number (isOf_of_numberAfter? hless))).isReadingOf
  split
  · rename_i n hgreater
    exact (HasType.greaterThan (.number (isOf_of_numberAfter? hgreater))).isReadingOf
  cases hrange : numberRange? settings type s with
  | some range => exact (hasType_of_numberRange? hrange).isReadingOf
  | none => exact isReadingOf_unrecognized _

theorem isReadingOf_classifyDate (settings : Settings) (htype : type.isTemporal) (s : Text) :
    IsReadingOf type (classifyDate settings s) := by
  unfold classifyDate
  dsimp only
  split
  · exact (HasType.period htype _).isReadingOf
  split
  · exact (HasType.lessThan (.dateTime htype _)).isReadingOf
  split
  · exact (HasType.greaterThan (.dateTime htype _)).isReadingOf
  cases hrange : dateRange? settings s with
  | some range =>
    obtain ⟨p, rfl⟩ := dateRange?_eq_some hrange
    exact (HasType.period htype p).isReadingOf
  | none => exact isReadingOf_unrecognized type

theorem isReadingOf_classifyBoolean (settings : Settings) (s : Text) :
    IsReadingOf .boolean (classifyBoolean settings s) := by
  unfold classifyBoolean
  split
  · exact (HasType.boolean true).isReadingOf
  split
  · exact (HasType.boolean false).isReadingOf
  · exact isReadingOf_unrecognized _

theorem isReadingOf_classifyConstant (values : List Text) (s : Text) :
    IsReadingOf (.enumeration values) (classifyConstant values s) := by
  unfold classifyConstant
  split
  · split
    · rename_i hdeclared
      exact (HasType.item (.constant (List.contains_iff_mem.mp hdeclared))).isReadingOf
    · exact isReadingOf_unrecognized _
  · exact (HasType.constants List.filter_sublist).isReadingOf

end Forms

/-- A value is read as a literal of the type it is read by, if it is recognized. -/
theorem isReadingOf_classifyAs [Pattern.Engine] (settings : Settings) (type : SemanticType)
    (raw : Text) :
    IsReadingOf type (classifyAs settings type raw) := by
  unfold classifyAs
  dsimp only
  split
  · exact isReadingOf_unrecognized type
  split
  · exact (HasType.null type).isReadingOf
  cases type with
  | text => exact isReadingOf_classifyText settings _
  | numeric type => exact isReadingOf_classifyNumber settings type _
  | boolean => exact isReadingOf_classifyBoolean settings _
  | enumeration values => exact isReadingOf_classifyConstant values _
  | date | dateTime => exact isReadingOf_classifyDate settings rfl _

theorem isItem_of_item? (h : item? settings type part = some literal) : IsItem type literal := by
  cases type with
  | text =>
    obtain rfl := Option.some.inj h
    exact .exact _
  | numeric type =>
    obtain ⟨n, hread, rfl⟩ := Option.map_eq_some_iff.mp h
    exact .number (Number.isOf_of_read? hread)
  | boolean | date | dateTime => cases h
  | enumeration values =>
    rw [item?] at h
    split at h
    · rename_i hdeclared
      obtain rfl := Option.some.inj h
      exact .constant (List.contains_iff_mem.mp hdeclared)
    · cases h

/-- A list of alternatives is read as a membership of the type of its attribute, unless no
alternative fits. -/
theorem isReadingOf_classifyMembership (settings : Settings) (a : Attribute) (raw : Text) :
    IsReadingOf a.effectiveType (classifyMembership settings a raw) := by
  unfold classifyMembership
  dsimp only
  split
  · exact isReadingOf_unrecognized _
  · rename_i hne
    apply HasType.isReadingOf
    refine .membership (by simpa using hne) fun item hitem ↦ ?_
    rw [membershipItems_eq] at hitem
    obtain ⟨part, -, hitem⟩ := List.mem_filterMap.mp hitem
    exact isItem_of_item? hitem

end Literal

end RecordSearch
