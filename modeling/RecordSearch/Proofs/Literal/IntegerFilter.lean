import RecordSearch.Condition.Holds
import RecordSearch.Proofs.Number.Reading
import RecordSearch.Proofs.Text.Grammar

/-!
# Filters on integers

A filter on an integer asks for one number, for less or more than one, or for a range. The minus
sign is also the range operator; since a sign belongs to the number right behind it, the range is
still cut at the operator.
-/

namespace RecordSearch

/-- The size of the integers of a type. -/
def NumericType.bits? : NumericType → Option ℕ
  | .short => some 16
  | .integer => some 32
  | .long => some 64
  | .float | .double => none

/-- An integer as a number of a type of integers. -/
def Number.ofInteger : NumericType → ℤ → Number
  | .short, n => .short n
  | .integer, n => .integer n
  | .long, n | .float, n | .double, n => .long n

theorem Value.orderNumber?_ofInteger (type : NumericType) (m n : ℤ) :
    (Value.integer m).orderNumber? (.ofInteger type n) = some (compare m n) := by
  cases type <;> rfl

section Reading

variable {type : NumericType} {bits : ℕ} {s : Text}

theorem Number.read?_of_bits (hbits : type.bits? = some bits) (separators : List Text) (s : Text) :
    Number.read? separators type s = (Text.toSigned? bits s).map (Number.ofInteger type) := by
  cases type <;> cases hbits <;> rfl

theorem Text.toSigned?_eq_none (h : Text.toInt? s = none) : Text.toSigned? bits s = none := by
  rw [Text.toSigned?, h]

theorem Text.toInt?_eq_none_of_mem {c : Char} (hc : c ∈ s) (hother : isIntegerChar c = false) :
    Text.toInt? s = none := by
  cases h : Text.toInt? s with
  | none => rfl
  | some n =>
    have := (Text.all_of_toInt? h).2 c hc
    rw [hother] at this
    cases this

theorem Text.head?_ofInt (n : ℤ) : ∃ c, (Text.ofInt n).head? = some c ∧ isIntegerChar c := by
  obtain ⟨hne, hall⟩ := Text.all_of_toInt? (Text.toInt?_ofInt n)
  exact ⟨_, List.head?_eq_some_head hne, hall _ (List.head_mem hne)⟩

theorem isBlank_of_isIntegerChar {c : Char} (hc : isIntegerChar c) : Text.isBlank c = false :=
  Number.not_blank_of_mem_numberChars
    (Number.mem_numberChars (Number.isNumberChar_of_isIntegerChar hc))

/-- A text that ends in an integer is trimmed if no blank stands in front. -/
theorem Text.trim_append_ofInt {front : Text} (hfront : ∀ c ∈ front.head?, Text.isBlank c = false)
    (n : ℤ) : Text.trim (front ++ Text.ofInt n) = front ++ Text.ofInt n := by
  obtain ⟨hne, hall⟩ := Text.all_of_toInt? (Text.toInt?_ofInt n)
  refine Text.trim_of_ends (fun c hc ↦ ?_) (fun c hc ↦ ?_)
  · cases front with
    | nil => exact isBlank_of_isIntegerChar (hall c (List.mem_of_mem_head? hc))
    | cons d front => exact hfront c hc
  · rw [List.getLast?_append_of_ne_nil _ hne] at hc
    exact isBlank_of_isIntegerChar (hall c (List.mem_of_getLast? hc))

theorem Text.trim_ofInt (n : ℤ) : Text.trim (Text.ofInt n) = Text.ofInt n :=
  Text.trim_of_forall fun c hc ↦
    isBlank_of_isIntegerChar ((Text.all_of_toInt? (Text.toInt?_ofInt n)).2 c hc)

/-- The digits of an integer are taken whole, up to what is no digit. -/
theorem Grammar.prefers_ofInt (n : ℤ) {rest : Text}
    (hrest : ∀ c ∈ rest.head?, Text.isDigit c = false) :
    Grammar.Prefers Grammar.integer (Text.ofInt n ++ rest) rest := by
  obtain ⟨sign, digits, hspelling, hsign, hne, hdigits⟩ :=
    Text.spelling_of_toInt? (Text.toInt?_ofInt n)
  rw [hspelling]
  exact Grammar.prefers_integer hsign hne hdigits hrest

end Reading

namespace Literal

variable {settings : Settings} {type : NumericType} {s : Text}

theorem likeOperand?_eq_none (hoperators : settings.operators = .default)
    (h : Operators.default.like.operand? s = none) : likeOperand? settings type s = none := by
  rw [likeOperand?, hoperators, h]
  rfl

theorem numberAfter?_eq_none {op : Operator} (h : op.operand? s = none) :
    numberAfter? settings type op s = none := by
  rw [numberAfter?, h]
  rfl

/-- What begins as a number and is none can only be a range. -/
theorem classifyNumber_of_head [Pattern.Engine] (hoperators : settings.operators = .default)
    {c : Char}
    (hhead : s.head? = some c) (hc : c ∈ Number.numberChars)
    (hread : readNumber? settings type s = none) :
    classifyNumber settings type s = (numberRange? settings type s).getD .unrecognized := by
  have hother {mark : Char} (hmark : mark ∉ Number.numberChars) : c ≠ mark := fun h ↦
    hmark (h ▸ hc)
  have hword {op : Operator} {mark : Char} (hop : op.word.head? = some mark)
      (hmark : mark ∉ Number.numberChars) : op.word.head? ≠ some c := fun h ↦
    hother hmark (Option.some.inj (h.symm.trans hop))
  have hlike : likeOperand? settings type s = none :=
    likeOperand?_eq_none hoperators (Operators.marked_default.like.operand?_eq_none hhead
      (hother (by decide)) (hword rfl (by decide)))
  have hless : numberAfter? settings type Operators.default.less s = none :=
    numberAfter?_eq_none (Operators.marked_default.less.operand?_eq_none hhead
      (hother (by decide)) (hword rfl (by decide)))
  have hgreater : numberAfter? settings type Operators.default.greater s = none :=
    numberAfter?_eq_none (Operators.marked_default.greater.operand?_eq_none hhead
      (hother (by decide)) (hword rfl (by decide)))
  simp only [classifyNumber, hoperators, hread, hlike, hless, hgreater]

end Literal

/-- The forms of a filter on an integer; an operator may be written as its word. -/
inductive IntegerFilter where
  | equal (n : ℤ)
  | less (byWord : Bool) (n : ℤ)
  | greater (byWord : Bool) (n : ℤ)
  | between (byWord : Bool) (low high : ℤ)

namespace IntegerFilter

def render : IntegerFilter → Text
  | .equal n => Text.ofInt n
  | .less byWord n => Operators.default.less.before byWord (Text.ofInt n)
  | .greater byWord n => Operators.default.greater.before byWord (Text.ofInt n)
  | .between byWord low high => Text.ofInt low ++ (Grammar.rangeMark byWord ++ Text.ofInt high)

example : render (.between false (-5) (-3)) = "-5--3".toList := by decide

/-- Whether the limits of a filter are integers of a size. -/
def Fits (bits : ℕ) : IntegerFilter → Prop
  | .equal n | .less _ n | .greater _ n => fitsSigned bits n
  | .between _ low high => fitsSigned bits low ∧ fitsSigned bits high

/-- What a filter says about an integer. -/
def Accepts (m : ℤ) : IntegerFilter → Prop
  | .equal n => m = n
  | .less _ n => m < n
  | .greater _ n => m > n
  | .between _ low high => low ≤ m ∧ m ≤ high

def literal (type : NumericType) : IntegerFilter → Literal
  | .equal n => .number (.ofInteger type n)
  | .less _ n => .lessThan (.number (.ofInteger type n))
  | .greater _ n => .greaterThan (.number (.ofInteger type n))
  | .between _ low high => .numberRange (.ofInteger type low) (.ofInteger type high)

variable {type : NumericType} {bits : ℕ} {settings : Settings}

theorem holds_literal (filter : IntegerFilter) (type : NumericType) (m : ℤ) :
    (filter.literal type).holds (.integer m) ↔ filter.Accepts m := by
  cases filter with
  | equal n => simp [literal, Literal.holds, Literal.holdsFor, Accepts,
      Value.orderNumber?_ofInteger]
  | less byWord n => simp [literal, Literal.holds, Literal.holdsFor, Accepts,
      Value.orderBound?, Value.orderNumber?_ofInteger, compare_lt_iff_lt]
  | greater byWord n => simp [literal, Literal.holds, Literal.holdsFor, Accepts,
      Value.orderBound?, Value.orderNumber?_ofInteger, compare_gt_iff_gt]
  | between byWord low high =>
    simp [literal, Literal.holds, Literal.holdsFor, Literal.withinNumbers, Accepts,
      Value.orderNumber?_ofInteger, compare_lt_iff_lt, compare_gt_iff_gt]
    omega

section Classify

/-- A filter ends in an integer, and no blank begins it. -/
theorem render_eq (filter : IntegerFilter) :
    ∃ front n, filter.render = front ++ Text.ofInt n ∧
      ∀ c ∈ front.head?, Text.isBlank c = false := by
  have hfirst {first : Char} {rest : Text} (h : Text.isBlank first = false) :
      ∀ c ∈ (first :: rest).head?, Text.isBlank c = false := by
    intro c hc
    obtain rfl : first = c := by simpa using hc
    exact h
  cases filter with
  | equal n => exact ⟨[], n, rfl, by simp⟩
  | less byWord n =>
    cases byWord
    · exact ⟨['<'], n, rfl, hfirst (by decide)⟩
    · exact ⟨['L', 'T', ' '], n, rfl, hfirst (by decide)⟩
  | greater byWord n =>
    cases byWord
    · exact ⟨['>'], n, rfl, hfirst (by decide)⟩
    · exact ⟨['G', 'T', ' '], n, rfl, hfirst (by decide)⟩
  | between byWord low high =>
    refine ⟨Text.ofInt low ++ Grammar.rangeMark byWord, high, by simp [render], fun c hc ↦ ?_⟩
    obtain ⟨d, hd, hinteger⟩ := Text.head?_ofInt low
    rw [List.head?_append, hd] at hc
    obtain rfl : d = c := by simpa using hc
    exact isBlank_of_isIntegerChar hinteger

theorem trim_render (filter : IntegerFilter) : Text.trim filter.render = filter.render := by
  obtain ⟨front, n, hrender, hfront⟩ := filter.render_eq
  rw [hrender, Text.trim_append_ofInt hfront]

/-- Neither NOT nor the literal for a missing value begins a filter. -/
theorem head?_render (filter : IntegerFilter) :
    ∃ c, filter.render.head? = some c ∧ beginsPlainly c := by
  have hinteger {c : Char} (hc : isIntegerChar c) : beginsPlainly c :=
    Number.beginsPlainly_of_mem_numberChars
      (Number.mem_numberChars (Number.isNumberChar_of_isIntegerChar hc))
  cases filter with
  | equal n =>
    obtain ⟨c, hhead, hc⟩ := Text.head?_ofInt n
    exact ⟨c, hhead, hinteger hc⟩
  | less byWord n => cases byWord <;> exact ⟨_, rfl, by decide⟩
  | greater byWord n => cases byWord <;> exact ⟨_, rfl, by decide⟩
  | between byWord low high =>
    obtain ⟨c, hhead, hc⟩ := Text.head?_ofInt low
    refine ⟨c, ?_, hinteger hc⟩
    rw [render, List.head?_append, hhead]
    rfl

theorem render_ne_nil (filter : IntegerFilter) : filter.render ≠ [] := fun h ↦ by
  obtain ⟨c, hhead, -⟩ := filter.head?_render
  rw [h] at hhead
  cases hhead

/-- A filter is neither negated nor the literal for a missing value. -/
theorem plain_render (hoperators : settings.operators = .default) (filter : IntegerFilter) :
    settings.operators.not.operand? filter.render = none ∧
      settings.isNullToken filter.render = false := by
  obtain ⟨c, hhead, hplain⟩ := filter.head?_render
  exact Settings.plain_of_head hoperators hhead hplain

section Rules

variable {n low high : ℤ} {s : Text} (hbits : type.bits? = some bits)

include hbits

theorem readNumber?_ofInt (hfits : fitsSigned bits n) :
    Literal.readNumber? settings type (Text.ofInt n) = some (.ofInteger type n) := by
  rw [Literal.readNumber?, Number.read?_of_bits hbits, Text.toSigned?_ofInt hfits]
  rfl

theorem readNumber?_eq_none (hs : Text.toInt? s = none) :
    Literal.readNumber? settings type s = none := by
  rw [Literal.readNumber?, Number.read?_of_bits hbits, Text.toSigned?_eq_none hs]
  rfl

theorem numberAfter?_before {op : Operator} {mark : Char} (hmarked : op.MarkedBy mark)
    (byWord : Bool) (hfits : fitsSigned bits n) :
    Literal.numberAfter? settings type op (op.before byWord (Text.ofInt n)) =
      some (.ofInteger type n) := by
  rw [Literal.numberAfter?, hmarked.operand?_before, Option.bind_some, Text.trim_ofInt,
    readNumber?_ofInt hbits hfits]

/-- The range operator is the first one behind the digits of the low end, whatever the signs. -/
theorem numberRange?_between (hoperators : settings.operators = .default) (byWord : Bool)
    (hlow : fitsSigned bits low) (hhigh : fitsSigned bits high) :
    Literal.numberRange? settings type (between byWord low high).render =
      some (.numberRange (.ofInteger type low) (.ofInteger type high)) := by
  have hgrammar : Literal.numberGrammar settings type = Grammar.integer := by
    cases type <;> cases hbits <;> rfl
  have hblank (m : ℤ) (rest : Text) :
      ∀ c ∈ (Text.ofInt m ++ rest).head?, Text.isBlank c = false := fun c hc ↦ by
    obtain ⟨d, hd, hinteger⟩ := Text.head?_ofInt m
    rw [List.head?_append, hd] at hc
    obtain rfl : d = c := by simpa using hc
    exact isBlank_of_isIntegerChar hinteger
  have hmark : ∀ c ∈ (Grammar.rangeMark byWord ++ Text.ofInt high).head?,
      Text.isDigit c = false := by
    cases byWord <;> exact fun c hc ↦ by obtain rfl := Option.some.inj hc; decide
  have hsplit : Grammar.splitPair? (Literal.numberGrammar settings type)
      (Grammar.rangeSeparator settings.operators.range) (between byWord low high).render =
        some (Text.ofInt low, Text.ofInt high) := by
    rw [hgrammar, hoperators]
    apply Grammar.splitPair?_of_prefers (hblank low _) (Grammar.prefers_ofInt low hmark)
    · exact Grammar.prefers_rangeSeparator byWord (by simpa using hblank high [])
    · have hend : ∀ c ∈ ([] : Text).head?, Text.isDigit c = false := by simp
      simpa using Grammar.prefers_ofInt high hend
  simp only [Literal.numberRange?, hsplit, Option.bind_eq_bind, Option.bind_some,
    readNumber?_ofInt hbits hlow, readNumber?_ofInt hbits hhigh]
  rfl

variable [Pattern.Engine]

theorem classifyNumber_less (hoperators : settings.operators = .default) (byWord : Bool)
    (hfits : fitsSigned bits n) :
    Literal.classifyNumber settings type (less byWord n).render = (less byWord n).literal type := by
  have hread : Literal.readNumber? settings type (less byWord n).render = none := by
    apply readNumber?_eq_none hbits
    cases byWord <;> exact Text.toInt?_eq_none_of_mem List.mem_cons_self (by decide)
  have hlike : Literal.likeOperand? settings type (less byWord n).render = none := by
    apply Literal.likeOperand?_eq_none hoperators
    cases byWord <;> rfl
  have hless : Literal.numberAfter? settings type Operators.default.less
      (less byWord n).render = some (.ofInteger type n) :=
    numberAfter?_before hbits Operators.marked_default.less byWord hfits
  simp only [Literal.classifyNumber, hoperators, hread, hlike, hless]
  rfl

theorem classifyNumber_greater (hoperators : settings.operators = .default) (byWord : Bool)
    (hfits : fitsSigned bits n) :
    Literal.classifyNumber settings type (greater byWord n).render =
      (greater byWord n).literal type := by
  have hread : Literal.readNumber? settings type (greater byWord n).render = none := by
    apply readNumber?_eq_none hbits
    cases byWord <;> exact Text.toInt?_eq_none_of_mem List.mem_cons_self (by decide)
  have hlike : Literal.likeOperand? settings type (greater byWord n).render = none := by
    apply Literal.likeOperand?_eq_none hoperators
    cases byWord <;> rfl
  have hless : Literal.numberAfter? settings type Operators.default.less
      (greater byWord n).render = none := by
    apply Literal.numberAfter?_eq_none
    cases byWord <;> rfl
  have hgreater : Literal.numberAfter? settings type Operators.default.greater
      (greater byWord n).render = some (.ofInteger type n) :=
    numberAfter?_before hbits Operators.marked_default.greater byWord hfits
  simp only [Literal.classifyNumber, hoperators, hread, hlike, hless, hgreater]
  rfl

/-- A range begins as a number and holds a mark behind that, so no other form takes it. -/
theorem classifyNumber_between (hoperators : settings.operators = .default) (byWord : Bool)
    (hlow : fitsSigned bits low) (hhigh : fitsSigned bits high) :
    Literal.classifyNumber settings type (between byWord low high).render =
      (between byWord low high).literal type := by
  obtain ⟨c, hhead, hc⟩ := Text.head?_ofInt low
  have hstart : (between byWord low high).render.head? = some c := by
    rw [render, List.head?_append, hhead]
    rfl
  have hmem : c ∈ Number.numberChars :=
    Number.mem_numberChars (Number.isNumberChar_of_isIntegerChar hc)
  have hread : Literal.readNumber? settings type (between byWord low high).render = none := by
    apply readNumber?_eq_none hbits
    obtain ⟨hne, -⟩ := Text.all_of_toInt? (Text.toInt?_ofInt low)
    cases byWord <;> exact Text.toInt?_eq_none_of_mark hne (by decide)
  rw [Literal.classifyNumber_of_head hoperators hstart hmem hread,
    numberRange?_between hbits hoperators byWord hlow hhigh]
  rfl

/-- No earlier form takes a filter: each is classified as it is meant. -/
theorem classifyAs_render (hoperators : settings.operators = .default) (filter : IntegerFilter)
    (hfits : filter.Fits bits) :
    Literal.classifyAs settings (.numeric type) filter.render = filter.literal type := by
  have hclassify : Literal.classifyAs settings (.numeric type) filter.render =
      Literal.classifyNumber settings type filter.render := by
    simp only [Literal.classifyAs, filter.trim_render]
    rw [if_neg (by simpa using filter.render_ne_nil), if_neg (by simp [plain_render hoperators])]
  rw [hclassify]
  cases filter with
  | equal n =>
    simp only [Literal.classifyNumber, render, readNumber?_ofInt hbits hfits]
    rfl
  | less byWord n => exact classifyNumber_less hbits hoperators byWord hfits
  | greater byWord n => exact classifyNumber_greater hbits hoperators byWord hfits
  | between byWord low high =>
    exact classifyNumber_between hbits hoperators byWord hfits.1 hfits.2

end Rules

end Classify

end IntegerFilter

end RecordSearch
