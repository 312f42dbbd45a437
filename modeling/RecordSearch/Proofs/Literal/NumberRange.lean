import RecordSearch.Literal.Engine
import RecordSearch.Proofs.Literal.IntegerFilter
import RecordSearch.Proofs.Number.Spelling
import RecordSearch.Proofs.Text.Language

/-!
# Ranges of numbers

The ends of a range are written in digits with at most one separator among them, while a number on
its own may also have an exponent, or lack the digits on one side of its separator. Two numbers make
a range exactly if both are written as ends of ranges are.
-/

namespace RecordSearch

open Grammar (SomeOf)

/-- A sign, digits of a class, and perhaps a separator and more digits. -/
def PlainDecimal (digit : Char → Bool) (s : Text) : Prop :=
  ∃ sign digits fraction, s = sign ++ (digits ++ fraction) ∧ IsNumberSign sign ∧
    SomeOf digit digits ∧ (fraction = [] ∨ ∃ mark further, fraction = mark :: further ∧
      (mark = '.' ∨ mark = ',') ∧ SomeOf digit further)

/-- A number written without an exponent, with digits on both sides of any separator. -/
def Number.IsPlain (s : Text) : Prop :=
  PlainDecimal Char.isDigit s

namespace Grammar

section Languages

theorem takes_sign : Takes sign IsNumberSign := by
  apply (takes_satisfying _).optional.congr
  intro front
  simp only [Bool.or_eq_true, decide_eq_true_eq, IsNumberSign]
  constructor
  · rintro (⟨c, rfl, rfl | rfl⟩ | rfl) <;> simp
  · rintro (rfl | rfl | rfl) <;> simp

theorem takes_decimal :
    Takes (decimal Settings.default.decimalSeparators) (PlainDecimal Text.isDigit) := by
  have hseparator : Takes (oneOf [piece ['.'], piece [',']]) _ :=
    takes_oneOf (.cons (takes_piece ['.']) (.cons (takes_piece [',']) .nil))
  have hfraction := (hseparator.followedBy (takes_nonEmptyRun Text.isDigit)).optional
  apply ((takes_sign.followedBy (takes_nonEmptyRun Text.isDigit)).followedBy hfraction).congr
  intro front
  constructor
  · rintro ⟨_, fraction, rfl, ⟨sign, digits, rfl, hsign, hdigits⟩, hfraction⟩
    refine ⟨sign, digits, fraction, by simp, hsign, hdigits, ?_⟩
    rcases hfraction with ⟨_, further, rfl, hmark, hfurther⟩ | rfl
    · simp only [List.mem_cons, List.not_mem_nil, or_false, exists_eq_or_imp, exists_eq_left]
        at hmark
      rcases hmark with rfl | rfl
      · exact .inr ⟨'.', further, rfl, .inl rfl, hfurther⟩
      · exact .inr ⟨',', further, rfl, .inr rfl, hfurther⟩
    · exact .inl rfl
  · rintro ⟨sign, digits, fraction, rfl, hsign, hdigits, hfraction⟩
    refine ⟨sign ++ digits, fraction, by simp, ⟨sign, digits, rfl, hsign, hdigits⟩, ?_⟩
    rcases hfraction with rfl | ⟨mark, further, rfl, hmark, hfurther⟩
    · exact .inr rfl
    · refine .inl ⟨[mark], further, rfl, ?_, hfurther⟩
      rcases hmark with rfl | rfl <;> simp

end Languages

/-- A plain number is taken whole by the grammar of decimals. -/
theorem prefers_decimal {s rest : Text} (hs : Number.IsPlain s)
    (hdigit : ∀ c ∈ rest.head?, Text.isDigit c = false)
    (hmark : ∀ c ∈ rest.head?, c ≠ '.' ∧ c ≠ ',') :
    Prefers (decimal Settings.default.decimalSeparators) (s ++ rest) rest := by
  obtain ⟨sign, digits, fraction, rfl, hsign, ⟨hne, hdigits⟩, hfraction⟩ := hs
  have hinteger {rest : Text} (hrest : ∀ c ∈ rest.head?, Text.isDigit c = false) :
      Prefers integer (sign ++ digits ++ rest) rest :=
    prefers_integer hsign hne hdigits hrest
  have hsplit : sign ++ (digits ++ fraction) ++ rest = sign ++ digits ++ (fraction ++ rest) := by
    simp
  rw [hsplit]
  rcases hfraction with rfl | ⟨mark, further, rfl, hseparator, hfurtherNe, hfurther⟩
  · refine (hinteger hdigit).followedBy (Prefers.orElse_of_nil ?_ (prefers_nothing rest))
    cases rest with
    | nil => rfl
    | cons c rest =>
      obtain ⟨hpoint, hcomma⟩ := hmark c rfl
      simp [followedBy, oneOf, piece, Settings.default, Text.dropFront?, Ne.symm hpoint,
        Ne.symm hcomma]
  · have hbehind : ∀ c ∈ (mark :: further ++ rest).head?, Text.isDigit c = false := by
      rintro c hc
      obtain rfl : mark = c := by simpa using hc
      rcases hseparator with rfl | rfl <;> decide
    refine (hinteger hbehind).followedBy (Prefers.orElse ?_)
    have hrun : Prefers Grammar.digits (further ++ rest) rest :=
      prefers_nonEmptyRun hfurtherNe (fun c hc ↦ isDigit_of_ascii (hfurther c hc)) hdigit
    refine Prefers.followedBy ?_ hrun
    rcases hseparator with rfl | rfl <;> rfl

end Grammar

section Plain

variable {digit : Char → Bool} {s : Text}

/-- Behind its sign a plain number has digits and separators only. -/
theorem PlainDecimal.spelling (hs : PlainDecimal digit s) :
    ∃ sign front, s = sign ++ front ∧ IsNumberSign sign ∧ front ≠ [] ∧
      ∀ c ∈ front, digit c ∨ c = '.' ∨ c = ',' := by
  obtain ⟨sign, digits, fraction, rfl, hsign, ⟨hne, hdigits⟩, hfraction⟩ := hs
  refine ⟨sign, digits ++ fraction, rfl, hsign, by simp [hne], fun c hc ↦ ?_⟩
  rcases List.mem_append.mp hc with hc | hc
  · exact .inl (hdigits c hc)
  · rcases hfraction with rfl | ⟨mark, further, rfl, hmark, -, hfurther⟩
    · cases hc
    · rcases List.mem_cons.mp hc with rfl | hc
      · exact .inr hmark
      · exact .inl (hfurther c hc)

theorem PlainDecimal.of_mem (hs : PlainDecimal digit s) {c : Char} (hc : c ∈ s) :
    digit c ∨ c ∈ ['+', '-', '.', ','] := by
  obtain ⟨sign, front, rfl, hsign, -, hfront⟩ := hs.spelling
  rcases List.mem_append.mp hc with hc | hc
  · rcases hsign with rfl | rfl | rfl
    · cases hc
    all_goals
      obtain rfl := List.mem_singleton.mp hc
      exact .inr (by decide)
  · refine (hfront c hc).imp_right ?_
    rintro (rfl | rfl) <;> decide

theorem PlainDecimal.imp {digit' : Char → Bool} (hs : PlainDecimal digit s)
    (himp : ∀ c ∈ s, digit c → digit' c) : PlainDecimal digit' s := by
  obtain ⟨sign, digits, fraction, rfl, hsign, ⟨hne, hdigits⟩, hfraction⟩ := hs
  refine ⟨sign, digits, fraction, rfl, hsign, ⟨hne, fun c hc ↦ ?_⟩, ?_⟩
  · exact himp c (by simp [hc]) (hdigits c hc)
  · refine hfraction.imp_right ?_
    rintro ⟨mark, further, rfl, hmark, hne, hfurther⟩
    exact ⟨mark, further, rfl, hmark, hne, fun c hc ↦ himp c (by simp [hc]) (hfurther c hc)⟩

namespace Number

variable {type : NumericType} {n : Number}

theorem isPlain_of_mem_numberChars (hs : PlainDecimal Text.isDigit s)
    (hall : ∀ c ∈ s, c ∈ numberChars) : IsPlain s := by
  have hdigits : numberChars.all fun c ↦ !Text.isDigit c || c.isDigit := by decide
  refine hs.imp fun c hc hdigit ↦ ?_
  simpa [hdigit] using List.all_eq_true.mp hdigits c (hall c hc)

theorem IsPlain.isNumberChar_of_mem (hs : IsPlain s) {c : Char} (hc : c ∈ s) :
    isNumberChar c := by
  have hmarks : ['+', '-', '.', ','].all isNumberChar := by decide
  rcases PlainDecimal.of_mem hs hc with hdigit | hmark
  · exact isNumberChar_of_isIntegerChar (by simp [isIntegerChar, hdigit])
  · exact List.all_eq_true.mp hmarks c hmark

theorem isPlain_iff : IsPlain s ↔
    (Grammar.decimal Settings.default.decimalSeparators).accepts s ∧ s.all isNumberChar := by
  rw [Grammar.takes_decimal.accepts_iff, List.all_eq_true]
  refine ⟨fun hs ↦ ⟨?_, fun _ ↦ hs.isNumberChar_of_mem⟩, fun ⟨hs, hall⟩ ↦ ?_⟩
  · exact hs.imp fun _ _ ↦ Grammar.isDigit_of_ascii
  · exact isPlain_of_mem_numberChars hs fun c hc ↦ mem_numberChars (hall c hc)

instance : DecidablePred IsPlain := fun _ ↦ decidable_of_iff _ isPlain_iff.symm

example : IsPlain "-1,50".toList ∧ ¬ IsPlain ".5".toList := by decide

theorem IsPlain.endsBeforeSign (hs : IsPlain s) : EndsBeforeSign s := by
  obtain ⟨sign, front, rfl, hsign, hne, hfront⟩ := hs.spelling
  have hwritten : EndsBeforeSign (sign ++ (front ++ [])) :=
    endsBeforeSign_of_written hsign hne (fun c hc ↦ not_mark_of_digit (hfront c hc)) (.inl rfl)
  rwa [List.append_nil] at hwritten

theorem isPlain_of_toInt? {m : ℤ} (h : Text.toInt? s = some m) : IsPlain s := by
  obtain ⟨sign, digits, rfl, hsign, hdigits⟩ := Text.spelling_of_toInt? h
  exact ⟨sign, digits, [], by simp, hsign, hdigits, .inl rfl⟩

/-- An integer cannot be written in any other way. -/
theorem isPlain_of_bits {separators : List Text} (htype : type.bits?.isSome)
    (h : read? separators type s = some n) : IsPlain s := by
  obtain ⟨bits, hbits⟩ := Option.isSome_iff_exists.mp htype
  rw [read?_of_bits hbits] at h
  obtain ⟨m, hm, -⟩ := Option.map_eq_some_iff.mp h
  exact isPlain_of_toInt? (Text.toInt?_of_toSigned? hm).1

theorem mem_numberChars_of_read? (h : read? Settings.default.decimalSeparators type s = some n)
    {c : Char} (hc : c ∈ s) : c ∈ numberChars :=
  mem_numberChars ((all_of_read? h).2 c hc)

end Number

end Plain

/-- A plain number of a type is taken whole by the grammar of the type. -/
theorem Grammar.prefers_numberGrammar {type : NumericType} {s rest : Text} {n : Number}
    (hs : Literal.readNumber? .default type s = some n) (hplain : Number.IsPlain s)
    (hdigit : ∀ c ∈ rest.head?, Text.isDigit c = false)
    (hmark : ∀ c ∈ rest.head?, c ≠ '.' ∧ c ≠ ',') :
    Grammar.Prefers (Literal.numberGrammar .default type) (s ++ rest) rest := by
  have hinteger {bits : ℕ} (hbits : type.bits? = some bits) :
      Grammar.Prefers Grammar.integer (s ++ rest) rest := by
    rw [Literal.readNumber?, Number.read?_of_bits hbits] at hs
    obtain ⟨m, hm, -⟩ := Option.map_eq_some_iff.mp hs
    obtain ⟨sign, digits, rfl, hsign, hne, hdigits⟩ :=
      Text.spelling_of_toInt? (Text.toInt?_of_toSigned? hm).1
    exact Grammar.prefers_integer hsign hne hdigits hdigit
  cases type with
  | short | integer | long => exact hinteger rfl
  | float | double => exact Grammar.prefers_decimal hplain hdigit hmark

namespace Literal

variable {type : NumericType} {a b low high : Text} {x y : Number} (byWord : Bool)

section Joined

variable (ha : readNumber? .default type a = some x) (hb : readNumber? .default type b = some y)

include ha hb

theorem ends_joined :
    Text.trim (a ++ (Grammar.rangeMark byWord ++ b)) = a ++ (Grammar.rangeMark byWord ++ b) ∧
      ∃ c, (a ++ (Grammar.rangeMark byWord ++ b)).head? = some c ∧ c ∈ Number.numberChars := by
  have hends {s : Text} {n : Number} (hs : readNumber? .default type s = some n) :
      s ≠ [] ∧ Text.trim s = s :=
    ⟨(Number.all_of_read? hs).1, Text.trim_of_forall fun c hc ↦
      Number.not_blank_of_mem_numberChars (Number.mem_numberChars_of_read? hs hc)⟩
  obtain ⟨hane, hatrim⟩ := hends ha
  obtain ⟨hbne, hbtrim⟩ := hends hb
  constructor
  · rw [← List.append_assoc]
    exact Text.trim_append_append hatrim hane hbtrim hbne _
  · refine ⟨a.head hane, ?_, Number.mem_numberChars_of_read? ha (List.head_mem hane)⟩
    rw [List.head?_append_of_ne_nil _ hane, List.head?_eq_some_head hane]

omit hb in
/-- Two numbers around the range operator are no number. -/
theorem readNumber?_joined :
    readNumber? .default type (a ++ (Grammar.rangeMark byWord ++ b)) = none := by
  by_contra hread
  obtain ⟨n, hn⟩ := Option.ne_none_iff_exists'.mp hread
  cases byWord with
  | false =>
    exact (Number.endsBeforeSign_of_read? ha).not_signsInPlace b
      (Number.endsBeforeSign_of_read? hn).signsInPlace
  | true =>
    have hblank : ' ' ∈ a ++ (Grammar.rangeMark true ++ b) := by
      simp [Grammar.rangeMark]
    exact absurd (Number.mem_numberChars_of_read? hn hblank) (by decide)

/-- Where a range is found in two numbers around a minus, it is cut at that minus. -/
theorem isPlain_of_splitPair?_symbol
    (h : Grammar.splitPair? (Grammar.decimal Settings.default.decimalSeparators)
      (Grammar.rangeSeparator Operators.default.range) (a ++ '-' :: b) = some (low, high)) :
    Number.IsPlain a ∧ Number.IsPlain b := by
  obtain ⟨start, mark, stop, hs, hstart, hlow, hmark, hhigh, hstop⟩ :=
    Grammar.spelling_of_splitPair? Grammar.takes_decimal Grammar.takes_rangeSeparator h
  have hall : ∀ c ∈ a ++ '-' :: b, c ∈ Number.numberChars := by
    intro c hc
    rcases List.mem_append.mp hc with hc | hc
    · exact Number.mem_numberChars_of_read? ha hc
    · rcases List.mem_cons.mp hc with rfl | hc
      · decide
      · exact Number.mem_numberChars_of_read? hb hc
  rw [hs] at hall
  have hnil {blanks : Text} (hblank : ∀ c ∈ blanks, Text.isBlank c)
      (hchars : ∀ c ∈ blanks, c ∈ Number.numberChars) : blanks = [] := by
    refine List.eq_nil_iff_forall_not_mem.mpr fun c hc ↦ ?_
    have := hblank c hc
    rw [Number.not_blank_of_mem_numberChars (hchars c hc)] at this
    cases this
  rcases hmark with ⟨before, after, rfl, hbefore, hafter⟩ | ⟨before, after, rfl, -, -⟩
  · obtain rfl : start = [] := hnil hstart fun c hc ↦ hall c (by simp [hc])
    obtain rfl : before = [] := hnil hbefore fun c hc ↦ hall c (by simp [hc])
    obtain rfl : after = [] := hnil hafter fun c hc ↦ hall c (by simp [hc])
    obtain rfl : stop = [] := hnil hstop fun c hc ↦ hall c (by simp [hc])
    have hlow : Number.IsPlain low :=
      Number.isPlain_of_mem_numberChars hlow fun c hc ↦ hall c (by simp [hc])
    have hhigh : Number.IsPlain high :=
      Number.isPlain_of_mem_numberChars hhigh fun c hc ↦ hall c (by simp [hc])
    obtain ⟨rfl, rfl⟩ := (Number.endsBeforeSign_of_read? ha).append_inj (v := high)
      hlow.endsBeforeSign (by simpa using hs)
    exact ⟨hlow, hhigh⟩
  · exact absurd (hall 'T' (by simp)) (by decide)

omit hb in
/-- A number is plain if it is, blanks apart, the end of a range. -/
theorem isPlain_of_trim_eq (hlow : PlainDecimal Text.isDigit low)
    (hsub : ∀ c ∈ low, c ∈ a ∨ c = ' ') (htrim : Text.trim a = Text.trim low) : Number.IsPlain a := by
  have hchars : ∀ c ∈ low, c ∈ Number.numberChars := fun c hc ↦ by
    rcases hsub c hc with hmem | rfl
    · exact Number.mem_numberChars_of_read? ha hmem
    · exact absurd (hlow.of_mem hc) (by decide)
  have hself {s : Text} (hs : ∀ c ∈ s, c ∈ Number.numberChars) : Text.trim s = s :=
    Text.trim_of_forall fun c hc ↦ Number.not_blank_of_mem_numberChars (hs c hc)
  rw [hself fun c ↦ Number.mem_numberChars_of_read? ha, hself hchars] at htrim
  rw [htrim]
  exact Number.isPlain_of_mem_numberChars hlow hchars

/-- Where a range is found in two numbers around the operator's word, it is cut at that word. -/
theorem isPlain_of_splitPair?_word
    (h : Grammar.splitPair? (Grammar.decimal Settings.default.decimalSeparators)
      (Grammar.rangeSeparator Operators.default.range)
      (a ++ ' ' :: 'T' :: 'O' :: ' ' :: b) = some (low, high)) :
    Number.IsPlain a ∧ Number.IsPlain b := by
  obtain ⟨start, mark, stop, hs, hstart, hlow, hmark, hhigh, hstop⟩ :=
    Grammar.spelling_of_splitPair? Grammar.takes_decimal Grammar.takes_rangeSeparator h
  have hblanks {blanks : Text} (hblank : ∀ c ∈ blanks, Text.isBlank c) : 'T' ∉ blanks := fun h ↦
    absurd (hblank 'T' h) (by decide)
  have hplain {s : Text} (hs : PlainDecimal Text.isDigit s) : 'T' ∉ s := fun h ↦
    absurd (hs.of_mem h) (by decide)
  rcases hmark with ⟨before, after, rfl, hbefore, hafter⟩ |
    ⟨before, after, rfl, ⟨-, hbefore⟩, -, hafter⟩
  · -- around a symbol there would be no letter
    have hmem : 'T' ∈ a ++ ' ' :: 'T' :: 'O' :: ' ' :: b := by simp
    rw [hs] at hmem
    simp [hblanks hstart, hblanks hbefore, hblanks hafter, hblanks hstop, hplain hlow,
      hplain hhigh] at hmem
  · have hfront : 'T' ∉ start ++ (low ++ before) := by
      simp [hblanks hstart, hblanks hbefore, hplain hlow]
    have hnumber : 'T' ∉ a ++ [' '] := by
      have hletter : 'T' ∉ a := fun h ↦
        absurd (Number.mem_numberChars_of_read? ha h) (by decide)
      simp [hletter]
    have hcut : Text.splitOnce 'T' ((a ++ [' ']) ++ 'T' :: 'O' :: ' ' :: b) =
        Text.splitOnce 'T'
          ((start ++ (low ++ before)) ++ 'T' :: 'O' :: (after ++ (high ++ stop))) := by
      congr 1
      simpa using hs
    rw [Text.splitOnce_append hnumber, Text.splitOnce_append hfront] at hcut
    simp only [Option.some.injEq, Prod.mk.injEq, List.cons.injEq, true_and] at hcut
    obtain ⟨hbehind, hahead⟩ := hcut
    have hspace : ∀ c ∈ [' '], Text.isBlank c := List.all_eq_true.mp rfl
    constructor
    · refine isPlain_of_trim_eq ha hlow (fun c hc ↦ ?_) ?_
      · have hmem : c ∈ a ++ [' '] := hbehind ▸ by simp [hc]
        simpa using hmem
      · calc
          Text.trim a = Text.trim (a ++ [' ']) := (Text.trim_append_of_blank hspace).symm
          _ = Text.trim (start ++ (low ++ before)) := by rw [hbehind]
          _ = Text.trim (low ++ before) := Text.trim_append_of_blank_front hstart
          _ = Text.trim low := Text.trim_append_of_blank hbefore
    · refine isPlain_of_trim_eq hb hhigh (fun c hc ↦ ?_) ?_
      · have hmem : c ∈ ' ' :: b := hahead ▸ by simp [hc]
        simpa [or_comm] using hmem
      · calc
          Text.trim b = Text.trim ([' '] ++ b) := (Text.trim_append_of_blank_front hspace).symm
          _ = Text.trim (after ++ (high ++ stop)) := by rw [List.singleton_append, hahead]
          _ = Text.trim (high ++ stop) := Text.trim_append_of_blank_front hafter
          _ = Text.trim high := Text.trim_append_of_blank hstop

theorem numberRange?_of_plain (hplain : Number.IsPlain a ∧ Number.IsPlain b) :
    numberRange? .default type (a ++ (Grammar.rangeMark byWord ++ b)) =
      some (.numberRange x y) := by
  obtain ⟨-, c, hhead, hc⟩ := ends_joined byWord ha hb
  have hblank {s : Text} (hs : ∀ c ∈ s.head?, c ∈ Number.numberChars) :
      ∀ c ∈ s.head?, Text.isBlank c = false := fun c hc ↦
    Number.not_blank_of_mem_numberChars (hs c hc)
  have hstart : ∀ c ∈ (a ++ (Grammar.rangeMark byWord ++ b)).head?, Text.isBlank c = false :=
    hblank fun d hd ↦ Option.some.inj (hhead.symm.trans hd) ▸ hc
  have hmark : ∀ c ∈ (Grammar.rangeMark byWord ++ b).head?,
      Text.isDigit c = false ∧ c ≠ '.' ∧ c ≠ ',' := by
    intro c hc
    cases byWord with
    | false =>
      obtain rfl : '-' = c := Option.some.inj hc
      decide
    | true =>
      obtain rfl : ' ' = c := Option.some.inj hc
      decide
  have hlow := Grammar.prefers_numberGrammar ha hplain.1 (fun c hc ↦ (hmark c hc).1)
    fun c hc ↦ (hmark c hc).2
  have hoperator := Grammar.prefers_rangeSeparator byWord (s := b) (hblank fun c hc ↦
    Number.mem_numberChars_of_read? hb (List.mem_of_mem_head? hc))
  have hhigh : Grammar.Prefers (numberGrammar .default type) (b ++ []) [] :=
    Grammar.prefers_numberGrammar hb hplain.2 (by simp) (by simp)
  rw [List.append_nil] at hhigh
  have hsplit := Grammar.splitPair?_of_prefers hstart hlow hoperator hhigh
  have hrange : Settings.default.operators.range = Operators.default.range := rfl
  simp only [numberRange?, hrange, hsplit, Option.bind_eq_bind, Option.bind_some, ha, hb]
  rfl

theorem numberRange?_eq_none (hplain : ¬ (Number.IsPlain a ∧ Number.IsPlain b)) :
    numberRange? .default type (a ++ (Grammar.rangeMark byWord ++ b)) = none := by
  have hgrammar : numberGrammar .default type =
      Grammar.decimal Settings.default.decimalSeparators := by
    cases hbits : type.bits? with
    | some bits =>
      have hsome : type.bits?.isSome := by rw [hbits]; rfl
      exact absurd ⟨Number.isPlain_of_bits hsome ha, Number.isPlain_of_bits hsome hb⟩ hplain
    | none => cases type <;> first | rfl | cases hbits
  have hsplit : Grammar.splitPair? (numberGrammar .default type)
      (Grammar.rangeSeparator Settings.default.operators.range)
      (a ++ (Grammar.rangeMark byWord ++ b)) = none := by
    rw [hgrammar, Option.eq_none_iff_forall_ne_some]
    rintro ⟨low, high⟩ hsome
    cases byWord with
    | false => exact hplain (isPlain_of_splitPair?_symbol ha hb hsome)
    | true => exact hplain (isPlain_of_splitPair?_word ha hb hsome)
  rw [numberRange?, hsplit]
  rfl

/-- Two numbers around the range operator can only be a range. -/
theorem classifyAs_joined [Pattern.Engine] :
    classifyAs .default (.numeric type) (a ++ (Grammar.rangeMark byWord ++ b)) =
      (numberRange? .default type (a ++ (Grammar.rangeMark byWord ++ b))).getD
        .unrecognized := by
  obtain ⟨htrim, c, hhead, hc⟩ := ends_joined byWord ha hb
  have hne : a ++ (Grammar.rangeMark byWord ++ b) ≠ [] := fun h ↦ by
    rw [h] at hhead
    cases hhead
  have hnull : Settings.default.isNullToken (a ++ (Grammar.rangeMark byWord ++ b)) = false :=
    (Settings.plain_of_head rfl hhead (Number.beginsPlainly_of_mem_numberChars hc)).2
  simp only [classifyAs, htrim]
  rw [if_neg (by simpa using hne), if_neg (by simp [hnull]),
    classifyNumber_of_head rfl hhead hc (readNumber?_joined byWord ha)]

/-- Two numbers around the range operator are the range between them if both are plain, as all
integers are, and nothing otherwise. -/
theorem classifyAs_numbers [Pattern.Engine] :
    (type.bits?.isSome → Number.IsPlain a ∧ Number.IsPlain b) ∧
    classifyAs .default (.numeric type) (a ++ (Grammar.rangeMark byWord ++ b)) =
      if Number.IsPlain a ∧ Number.IsPlain b then .numberRange x y else .unrecognized := by
  refine ⟨fun htype ↦ ?_, ?_⟩
  · exact ⟨Number.isPlain_of_bits htype ha, Number.isPlain_of_bits htype hb⟩
  · rw [classifyAs_joined byWord ha hb]
    split
    · rename_i hplain
      rw [numberRange?_of_plain byWord ha hb hplain]
      rfl
    · rename_i hplain
      rw [numberRange?_eq_none byWord ha hb hplain]
      rfl

end Joined

theorem classifyAs_numbers_comma :
    readNumber? .default .double "1,5".toList = some (.double (.ofRat false 1.5)) ∧
    readNumber? .default .double "-2.5".toList = some (.double (.ofRat false (-2.5))) ∧
    classifyAs .default (.numeric .double) "1,5--2.5".toList =
      .numberRange (.double (.ofRat false 1.5)) (.double (.ofRat false (-2.5))) := by
  have hlow : readNumber? .default .double "1,5".toList =
      some (.double (.ofRat false 1.5)) := by decide +kernel
  have hhigh : readNumber? .default .double "-2.5".toList =
      some (.double (.ofRat false (-2.5))) := by decide +kernel
  have hplain : Number.IsPlain "1,5".toList ∧ Number.IsPlain "-2.5".toList := by decide
  have hrange := (classifyAs_numbers false hlow hhigh).2
  rw [if_pos hplain] at hrange
  exact ⟨hlow, hhigh, hrange⟩

/-- A number with an exponent is no end of a range. -/
theorem classifyAs_exponent :
    readNumber? .default .double "1e3".toList = some (.double (.ofInt 1000)) ∧
    readNumber? .default .double "5".toList = some (.double (.ofInt 5)) ∧
    classifyAs .default (.numeric .double) "1e3-5".toList = .unrecognized ∧
    classifyAs .default (.numeric .double) "1e3 TO 5".toList = .unrecognized := by
  have hlow : readNumber? .default .double "1e3".toList = some (.double (.ofInt 1000)) := by
    decide +kernel
  have hhigh : readNumber? .default .double "5".toList = some (.double (.ofInt 5)) := by
    decide +kernel
  have hplain : ¬ (Number.IsPlain "1e3".toList ∧ Number.IsPlain "5".toList) := by decide
  have hnone (byWord : Bool) : classifyAs .default (.numeric .double)
      ("1e3".toList ++ (Grammar.rangeMark byWord ++ "5".toList)) = .unrecognized := by
    rw [classifyAs_joined byWord hlow hhigh, numberRange?_eq_none byWord hlow hhigh hplain]
    rfl
  exact ⟨hlow, hhigh, hnone false, hnone true⟩

end Literal

end RecordSearch
