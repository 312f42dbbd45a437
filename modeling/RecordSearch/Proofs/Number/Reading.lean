import Mathlib.Data.List.Induction
import Mathlib.Tactic.IntervalCases
import RecordSearch.Literal.Number
import RecordSearch.Proofs.Settings.Operator

/-!
# Reading numbers

Which characters a text needs to be read as a number. Integers are written in digits behind one sign
at most and are read back from their digits. Decimals may also hold separators and the mark of an
exponent; with any separators they never begin and end with the same quote.
-/

namespace RecordSearch

theorem Text.all_digits_of_toNat? {s : Text} {n : ℕ} (h : Text.toNat? s = some n) :
    s ≠ [] ∧ ∀ c ∈ s, c.isDigit := by
  unfold Text.toNat? at h
  split at h
  · cases h
  · rename_i hs
    simpa using hs

def isIntegerChar (c : Char) : Bool :=
  c.isDigit || c = '+' || c = '-'

/-- An integer is written as digits, which may follow a sign. -/
theorem Text.spelling_of_toInt? {s : Text} {n : ℤ} (h : Text.toInt? s = some n) :
    ∃ sign digits, s = sign ++ digits ∧ (sign = [] ∨ sign = ['+'] ∨ sign = ['-']) ∧
      digits ≠ [] ∧ ∀ c ∈ digits, c.isDigit := by
  have hread {α : Type} {digits : Text} {f : ℕ → Option α} {a : α}
      (hbind : (Text.toNat? digits).bind f = some a) : ∃ m, Text.toNat? digits = some m :=
    (Option.bind_eq_some_iff.mp hbind).imp fun _ ↦ And.left
  unfold Text.toInt? at h
  split at h
  · obtain ⟨m, hm⟩ := hread (Option.map_eq_some_iff.mp h).choose_spec.1
    exact ⟨['-'], _, rfl, .inr (.inr rfl), Text.all_digits_of_toNat? hm⟩
  · obtain ⟨m, hm, -⟩ := Option.map_eq_some_iff.mp h
    exact ⟨['+'], _, rfl, .inr (.inl rfl), Text.all_digits_of_toNat? hm⟩
  · obtain ⟨m, hm, -⟩ := Option.map_eq_some_iff.mp h
    exact ⟨[], _, rfl, .inl rfl, Text.all_digits_of_toNat? hm⟩

theorem Text.all_of_toInt? {s : Text} {n : ℤ} (h : Text.toInt? s = some n) :
    s ≠ [] ∧ ∀ c ∈ s, isIntegerChar c := by
  obtain ⟨sign, digits, rfl, hsign, hne, hdigits⟩ := Text.spelling_of_toInt? h
  refine ⟨List.append_ne_nil_of_right_ne_nil sign hne, fun c hc ↦ ?_⟩
  rcases List.mem_append.mp hc with hc | hc
  · rcases hsign with rfl | rfl | rfl
    · cases hc
    · obtain rfl := List.mem_singleton.mp hc
      rfl
    · obtain rfl := List.mem_singleton.mp hc
      rfl
  · simp [isIntegerChar, hdigits c hc]

/-- Behind its first character an integer has digits only. -/
theorem Text.toInt?_eq_none_of_mark {s t : Text} {mark : Char} (hs : s ≠ [])
    (hmark : mark.isDigit = false) : Text.toInt? (s ++ mark :: t) = none := by
  cases h : Text.toInt? (s ++ mark :: t) with
  | none => rfl
  | some n =>
    obtain ⟨sign, digits, hspelling, hsign, -, hdigits⟩ := Text.spelling_of_toInt? h
    have hmem : mark ∈ digits := by
      cases s with
      | nil => exact absurd rfl hs
      | cons c s =>
        rcases hsign with rfl | rfl | rfl
        · have hall : c :: s ++ mark :: t = digits := hspelling
          simp [← hall]
        all_goals
          have hrest : s ++ mark :: t = digits := (List.cons.inj hspelling).2
          simp [← hrest]
    rw [hdigits mark hmem] at hmark
    cases hmark

/-- Digits denote a number with no more digits. -/
theorem digitsValue_lt {digits : Text} (hdigits : ∀ c ∈ digits, c.isDigit) :
    digitsValue digits < 10 ^ digits.length := by
  induction digits using List.reverseRecOn with
  | nil => decide
  | append_singleton digits c ih =>
    simp only [List.mem_append, List.mem_singleton, or_imp, forall_and, forall_eq] at hdigits
    have hlt := ih hdigits.1
    have hc : c.toNat ≤ 57 := by
      have hc := hdigits.2
      simp only [Char.isDigit, Bool.and_eq_true, decide_eq_true_eq, UInt32.le_iff_toNat_le] at hc
      exact hc.2
    have hzero : '0'.toNat = 48 := rfl
    rw [digitsValue, List.foldl_append, List.length_append, List.length_singleton, pow_succ]
    simp only [List.foldl_cons, List.foldl_nil, hzero]
    change 10 * digitsValue digits + _ < _
    omega

theorem Text.toNat?_digits {digits : Text} (hne : digits ≠ []) (hdigits : ∀ c ∈ digits, c.isDigit) :
    Text.toNat? digits = some (digitsValue digits) := by
  rw [Text.toNat?, if_neg]
  simpa [hne] using hdigits

theorem Text.toInt?_digits {digits : Text} (hne : digits ≠ []) (hdigits : ∀ c ∈ digits, c.isDigit) :
    Text.toInt? digits = some (digitsValue digits : ℤ) := by
  unfold Text.toInt?
  split
  · exact absurd (hdigits '-' List.mem_cons_self) (by decide)
  · exact absurd (hdigits '+' List.mem_cons_self) (by decide)
  · rw [Text.toNat?_digits hne hdigits]
    rfl

theorem Text.toNat?_ofNat (n : ℕ) : Text.toNat? (Text.ofNat n) = some n := by
  have hdigits : ∀ c ∈ Nat.toDigits 10 n, c.isDigit := fun c hc ↦
    Nat.isDigit_of_mem_toDigits (by decide) (by decide) hc
  have hvalue : digitsValue (Nat.toDigits 10 n) = n := Nat.ofDigitChars_ten_toDigits
  rw [Text.toNat?, Text.ofNat, if_neg, hvalue]
  simpa [Nat.toDigits_ne_nil] using hdigits

/-- An integer is read back from its decimal digits. -/
theorem Text.toInt?_ofInt (n : ℤ) : Text.toInt? (Text.ofInt n) = some n := by
  cases n with
  | ofNat n =>
    have hread := Text.toNat?_ofNat n
    obtain ⟨hne, hdigits⟩ := Text.all_digits_of_toNat? hread
    change Text.toInt? (Text.ofNat n) = some (n : ℤ)
    unfold Text.toInt?
    split
    · rename_i s hs
      exact absurd (hdigits '-' (hs ▸ List.mem_cons_self)) (by decide)
    · rename_i s hs
      exact absurd (hdigits '+' (hs ▸ List.mem_cons_self)) (by decide)
    · rw [hread]
      rfl
  | negSucc n =>
    rw [Text.ofInt, Text.toInt?, Text.toNat?_ofNat]
    rfl

theorem Text.toSigned?_ofInt {bits : ℕ} {n : ℤ} (h : fitsSigned bits n) :
    Text.toSigned? bits (Text.ofInt n) = some n := by
  simp only [Text.toSigned?, Text.toInt?_ofInt, h, if_true]

theorem Text.toInt?_of_toSigned? {bits : ℕ} {s : Text} {n : ℤ}
    (h : Text.toSigned? bits s = some n) : Text.toInt? s = some n ∧ fitsSigned bits n := by
  unfold Text.toSigned? at h
  split at h
  · rename_i m hm
    split at h
    · rename_i hfits
      cases h
      exact ⟨hm, hfits⟩
    · cases h
  · cases h

theorem Decimal.readExponent?_of_last {s : Text} (h : s.getLast? = some '.') :
    Decimal.readExponent? s = none := by
  cases s with
  | nil => cases h
  | cons c s =>
    rw [Decimal.readExponent?]
    split
    · cases hread : Text.toInt? s with
      | none => rfl
      | some n =>
        obtain ⟨hne, hall⟩ := Text.all_of_toInt? hread
        rw [List.getLast?_cons, List.getLast?_eq_some_getLast hne] at h
        have hlast : s.getLast hne = '.' := by simpa using h
        have := hall _ (List.getLast_mem hne)
        rw [hlast] at this
        exact absurd this (by decide)
    · rfl

/-- A text with a point at each end is no number. -/
theorem Binary.read?_points {format : Format} {s : Text} (h : s.getLast? = some '.') :
    (Binary.read? ('.' :: s) : Option (Binary format)) = none := by
  have hne : s ≠ [] := by
    rintro rfl
    cases h
  have hrest : (s.dropWhile Char.isDigit).getLast? = some '.' := by
    have hsplit := List.takeWhile_append_dropWhile (p := Char.isDigit) (l := s)
    have hdrop : s.dropWhile Char.isDigit ≠ [] := fun hnil ↦ by
      have hdigit := List.dropWhile_eq_nil_iff.mp hnil _ (List.mem_of_getLast? h)
      exact absurd hdigit (by decide)
    rwa [← hsplit, List.getLast?_append_of_ne_nil _ hdrop] at h
  have hdecimal : Decimal.read? ('.' :: s) = none := by
    have hdigit : Char.isDigit '.' = false := by decide
    simp [Decimal.read?, hdigit, Decimal.readExponent?_of_last hrest]
  have hlower : Char.toLower '.' = '.' := by decide
  simp [Binary.read?, Binary.readUnsigned?, hdecimal, hlower]

theorem Number.normalizeDecimal?_eq_some {separators : List Text} {s normalized : Text}
    (h : Number.normalizeDecimal? separators s = some normalized) :
    normalized = (separators.filter (· != ['.'])).foldl
        (fun s separator ↦ Text.replace separator ['.'] s) s ∧
      (∀ c ∈ normalized, Number.isDecimalChar c) ∧ ∃ c ∈ normalized, c.isDigit := by
  unfold Number.normalizeDecimal? at h
  split at h
  · cases h
  · simp only at h
    split at h
    · rename_i hchars
      obtain rfl := Option.some.inj h
      simpa using hchars
    · cases h

theorem Text.ends_foldl_replace (mark : Char) (pieces : List Text) (s : Text) :
    ((pieces.foldl (fun s piece ↦ Text.replace piece [mark] s) s).head? = some mark ∨
      (pieces.foldl (fun s piece ↦ Text.replace piece [mark] s) s).head? = s.head?) ∧
    ((pieces.foldl (fun s piece ↦ Text.replace piece [mark] s) s).getLast? = some mark ∨
      (pieces.foldl (fun s piece ↦ Text.replace piece [mark] s) s).getLast? = s.getLast?) := by
  induction pieces generalizing s with
  | nil => exact ⟨.inr rfl, .inr rfl⟩
  | cons piece pieces ih =>
    obtain ⟨hhead, hlast⟩ := ih (Text.replace piece [mark] s)
    refine ⟨hhead.elim .inl fun h ↦ ?_, hlast.elim .inl fun h ↦ ?_⟩
    · rw [List.foldl_cons, h]
      exact Text.head?_replace mark piece s
    · rw [List.foldl_cons, h]
      exact Text.getLast?_replace mark piece s

namespace Number

variable {separators : List Text} {type : NumericType} {s : Text} {n : Number}

theorem readFloat?_eq_some {format : Format} {x : Binary format}
    (h : readFloat? format separators s = some x) :
    ∃ normalized, normalizeDecimal? separators s = some normalized ∧
      (Binary.read? normalized : Option (Binary format)) = some x := by
  obtain ⟨hread, -⟩ := Option.filter_eq_some_iff.mp h
  exact Option.bind_eq_some_iff.mp hread

/-- A number is read as an integer of some size or as a float of some format. -/
theorem read?_cases (h : read? separators type s = some n) :
    (∃ m, Text.toInt? s = some m) ∨
      ∃ format x, readFloat? format separators s = some (x : Binary format) := by
  cases type <;> obtain ⟨m, hm, -⟩ := Option.map_eq_some_iff.mp h
  case float | double => exact .inr ⟨_, m, hm⟩
  all_goals exact .inl ⟨m, (Text.toInt?_of_toSigned? hm).1⟩

theorem not_decimalChar_of_quoted (hquoted : Text.isQuoted s) {c : Char}
    (hc : s.head? = some c ∨ s.getLast? = some c) : isDecimalChar c = false := by
  obtain ⟨quote, inner, hquote, rfl⟩ := Text.isQuoted_iff.mp hquoted
  obtain rfl : c = quote := by
    rcases hc with hc | hc <;> simpa [List.getLast?_cons, eq_comm] using hc
  rcases hquote with rfl | rfl <;> decide

/-- No quoted text is a float. Its quotes can only have been parts of separators, and two points
stand in their places. -/
theorem not_quoted_of_readFloat? {format : Format} {x : Binary format}
    (h : readFloat? format separators s = some x) : Text.isQuoted s = false := by
  by_contra hquoted
  rw [Bool.not_eq_false] at hquoted
  obtain ⟨normalized, hnormalized, hread⟩ := readFloat?_eq_some h
  obtain ⟨hfold, hall, d, hd, hdigit⟩ := normalizeDecimal?_eq_some hnormalized
  obtain ⟨hhead, hlast⟩ :=
    Text.ends_foldl_replace '.' (separators.filter (· != ['.'])) s
  rw [← hfold] at hhead hlast
  have hhead : normalized.head? = some '.' := by
    refine hhead.resolve_right fun hs ↦ ?_
    cases hc : normalized.head? with
    | none => simp [List.head?_eq_none_iff.mp hc] at hd
    | some c =>
      have hdecimal := hall c (List.mem_of_mem_head? hc)
      rw [not_decimalChar_of_quoted hquoted (.inl (hs.symm.trans hc))] at hdecimal
      cases hdecimal
  have hlast : normalized.getLast? = some '.' := by
    refine hlast.resolve_right fun hs ↦ ?_
    cases hc : normalized.getLast? with
    | none => simp [List.getLast?_eq_none_iff.mp hc] at hd
    | some c =>
      have hdecimal := hall c (List.mem_of_getLast? hc)
      rw [not_decimalChar_of_quoted hquoted (.inr (hs.symm.trans hc))] at hdecimal
      cases hdecimal
  cases normalized with
  | nil => cases hhead
  | cons c rest =>
    obtain rfl : c = '.' := by simpa using hhead
    cases rest with
    | nil =>
      obtain rfl : d = '.' := by simpa using hd
      exact absurd hdigit (by decide)
    | cons c rest =>
      rw [List.getLast?_cons_cons] at hlast
      rw [Binary.read?_points hlast] at hread
      cases hread

theorem not_quoted_of_read? (h : read? separators type s = some n) :
    Text.isQuoted s = false := by
  rcases read?_cases h with ⟨m, hm⟩ | ⟨format, x, hx⟩
  · by_contra hquoted
    rw [Bool.not_eq_false] at hquoted
    obtain ⟨hne, hall⟩ := Text.all_of_toInt? hm
    obtain ⟨quote, inner, hquote, rfl⟩ := Text.isQuoted_iff.mp hquoted
    have := hall quote List.mem_cons_self
    rcases hquote with rfl | rfl <;> exact absurd this (by decide)
  · exact not_quoted_of_readFloat? hx

/-- The characters of numbers with points or commas for separators. -/
def isNumberChar (c : Char) : Bool :=
  isDecimalChar c || c = ','

/-- The characters of numbers, listed. -/
def numberChars : Text := "0123456789+-.,eE".toList

theorem mem_numberChars {c : Char} (h : isNumberChar c) : c ∈ numberChars := by
  by_cases hdigit : c.isDigit
  · have hlow : 48 ≤ c.toNat ∧ c.toNat ≤ 57 := by
      simp only [Char.isDigit, Bool.and_eq_true, decide_eq_true_eq, UInt32.le_iff_toNat_le] at hdigit
      exact ⟨hdigit.1, hdigit.2⟩
    rw [← Char.ofNat_toNat c]
    generalize c.toNat = n at hlow
    obtain ⟨hlow, hhigh⟩ := hlow
    interval_cases n <;> decide
  · simp only [isNumberChar, isDecimalChar, hdigit, Bool.or_eq_true, decide_eq_true_eq] at h
    rcases h with (((((h | rfl) | rfl) | rfl) | rfl) | rfl) | rfl
    · cases h
    all_goals decide

theorem not_blank_of_mem_numberChars {c : Char} (hc : c ∈ numberChars) :
    Text.isBlank c = false := by
  have hall : numberChars.all fun c ↦ !Text.isBlank c := by decide
  simpa using List.all_eq_true.mp hall c hc

theorem beginsPlainly_of_mem_numberChars {c : Char} (hc : c ∈ numberChars) : beginsPlainly c := by
  have hall : numberChars.all beginsPlainly := by decide
  exact List.all_eq_true.mp hall c hc

theorem isNumberChar_of_isIntegerChar {c : Char} (h : isIntegerChar c) : isNumberChar c := by
  simp only [isIntegerChar, Bool.or_eq_true, decide_eq_true_eq] at h
  simp only [isNumberChar, isDecimalChar, Bool.or_eq_true, decide_eq_true_eq]
  tauto

theorem all_of_read? (h : read? Settings.default.decimalSeparators type s = some n) :
    s ≠ [] ∧ ∀ c ∈ s, isNumberChar c := by
  rcases read?_cases h with ⟨m, hm⟩ | ⟨format, x, hx⟩
  · obtain ⟨hne, hall⟩ := Text.all_of_toInt? hm
    exact ⟨hne, fun c hc ↦ isNumberChar_of_isIntegerChar (hall c hc)⟩
  · obtain ⟨normalized, hnormalized, -⟩ := readFloat?_eq_some hx
    obtain ⟨hfold, hall, d, hd, -⟩ := normalizeDecimal?_eq_some hnormalized
    have hcomma : normalized = s.map fun c ↦ if c = ',' then '.' else c := by
      rw [hfold, ← Text.replace_character]
      rfl
    rw [hcomma] at hall hd
    refine ⟨fun hnil ↦ ?_, fun c hc ↦ ?_⟩
    · rw [hnil] at hd
      cases hd
    · have := hall _ (List.mem_map_of_mem hc)
      by_cases hmark : c = ','
      · simp [isNumberChar, hmark]
      · rw [if_neg hmark] at this
        simp [isNumberChar, this]

end Number

end RecordSearch
