import RecordSearch.Proofs.Literal.Contained
import RecordSearch.Proofs.Literal.IntegerFilter

/-!
# Searching integers by their text

LIKE in front of an integer looks for it, as it is written, in the decimal text of a value. No
spelling of an integer is shorter than its decimal text, so of all spellings only this one is found
in the text of an equal value.
-/

namespace RecordSearch

section Spelling

variable {s digits : Text} {n : ℤ} {m : ℕ}

theorem Text.length_ofNat_le (hdigits : Text.toNat? digits = some m) :
    (Text.ofNat m).length ≤ digits.length := by
  obtain ⟨hne, hall⟩ := Text.all_digits_of_toNat? hdigits
  rw [Text.toNat?_digits hne hall, Option.some.injEq] at hdigits
  subst hdigits
  exact (Nat.length_toDigits_le_iff (by decide) (List.length_pos_iff.mpr hne)).mpr
    (digitsValue_lt hall)

/-- No spelling of an integer is shorter than its decimal text. -/
theorem Text.length_ofInt_le (h : Text.toInt? s = some n) :
    (Text.ofInt n).length ≤ s.length := by
  unfold Text.toInt? at h
  split at h
  · obtain ⟨_, hread, rfl⟩ := Option.map_eq_some_iff.mp h
    obtain ⟨m, hm, heq⟩ := Option.bind_eq_some_iff.mp hread
    obtain rfl := Option.some.inj heq
    have hlength := Text.length_ofNat_le hm
    cases m with
    | zero => exact Nat.le_succ_of_le hlength
    | succ m => exact Nat.succ_le_succ hlength
  · obtain ⟨m, hm, rfl⟩ := Option.map_eq_some_iff.mp h
    exact Nat.le_succ_of_le (Text.length_ofNat_le hm)
  · obtain ⟨m, hm, rfl⟩ := Option.map_eq_some_iff.mp h
    exact Text.length_ofNat_le hm

theorem Text.infix_ofInt_iff (h : Text.toInt? s = some n) :
    s <:+: Text.ofInt n ↔ s = Text.ofInt n := by
  constructor
  · intro hwithin
    exact hwithin.eq_of_length_le (Text.length_ofInt_le h)
  · rintro rfl
    exact List.infix_rfl

theorem Text.isSign_of_isIntegerChar {c : Char} (hc : isIntegerChar c) : Text.IsSign c := by
  rw [Text.isSign_iff]
  simp only [isIntegerChar, Bool.or_eq_true, decide_eq_true_eq] at hc
  rcases hc with (hdigit | rfl) | rfl
  · simp only [Char.isDigit, Bool.and_eq_true, decide_eq_true_eq, UInt32.le_iff_toNat_le] at hdigit
    exact .inl (Nat.lt_of_le_of_lt hdigit.2 (by decide))
  · decide
  · decide

end Spelling

section Pattern

variable {s part text : Text} {pattern : Pattern}

/-- A filter of signs takes itself only. -/
theorem FilterToken.cutBy_map_char_iff (hs : ∀ c ∈ s, Text.IsSign c) :
    Text.CutBy FilterToken.Takes (s.map .char) part ↔ part = s := by
  induction s generalizing part with
  | nil => exact Text.cutBy_nil
  | cons c s ih =>
    obtain ⟨hc, hs⟩ := List.forall_mem_cons.mp hs
    simp only [List.map_cons, Text.cutBy_cons, ih hs, FilterToken.takes_char_of_isSign hc]
    constructor
    · rintro ⟨_, _, rfl, rfl, rfl⟩
      rfl
    · rintro rfl
      exact ⟨[c], s, rfl, rfl, rfl⟩

/-- The pattern of an integer accepts the texts in which it stands as it is written. -/
theorem Pattern.accepts_iff_infix [Pattern.Engine] {n : ℤ} (hs : Text.toInt? s = some n)
    (h : Pattern.ofFilter? .default s = some pattern) : pattern.accepts text ↔ s <:+: text := by
  obtain ⟨-, hall⟩ := Text.all_of_toInt? hs
  have habsent (mark : Char) (hmark : isIntegerChar mark = false) : ¬ [mark] <:+: s := fun hmem ↦ by
    have := hall mark ((List.singleton_infix_iff _ _).mp hmem)
    rw [hmark] at this
    cases this
  have hwildcards : Wildcards.default.occurIn s = false := by
    rw [← Bool.not_eq_true, Wildcards.occurIn_iff, not_or]
    exact ⟨fun hmany ↦ habsent '*' (by decide) hmany.2, fun hone ↦ habsent '?' (by decide) hone.2⟩
  rw [Pattern.accepts_iff_of_not_occurIn hwildcards h]
  simp only [FilterToken.cutBy_map_char_iff fun c hc ↦ Text.isSign_of_isIntegerChar (hall c hc)]
  constructor
  · rintro ⟨before, _, after, rfl, rfl⟩
    exact ⟨before, after, rfl⟩
  · rintro ⟨before, after, rfl⟩
    exact ⟨before, s, after, rfl, rfl⟩

end Pattern

namespace Literal

variable {settings : Settings} {a : Attribute} {type : NumericType} {bits : ℕ} {s : Text} {n : ℤ}

theorem toInt?_of_readNumber? (hbits : type.bits? = some bits)
    (hread : readNumber? settings type s = some (.ofInteger type n)) :
    Text.toInt? s = some n := by
  rw [readNumber?, Number.read?_of_bits hbits, Option.map_eq_some_iff] at hread
  obtain ⟨m, hm, heq⟩ := hread
  obtain rfl : m = n := by cases type <;> cases hbits <;> cases heq <;> rfl
  exact (Text.toInt?_of_toSigned? hm).1

/-- What LIKE is put in front of is looked for as it is written. -/
theorem classifyNumber_like [Pattern.Engine] (hoperators : settings.operators = .default)
    (hbits : type.bits? = some bits) (byWord : Bool) (htrim : Text.trim s = s)
    (hread : (readNumber? settings type s).isSome) :
    classifyNumber settings type (Operators.default.like.before byWord s) =
      ofPattern? settings s := by
  have hnumber : readNumber? settings type (Operators.default.like.before byWord s) = none := by
    apply IntegerFilter.readNumber?_eq_none hbits
    cases byWord <;> exact Text.toInt?_eq_none_of_mem List.mem_cons_self (by decide)
  have hoperand : likeOperand? settings type (Operators.default.like.before byWord s) = some s := by
    rw [likeOperand?, hoperators, Operators.marked_default.like.operand?_before, htrim,
      Option.filter,
      if_pos hread]
  simp only [classifyNumber, hnumber, hoperand]

theorem classify_like [Pattern.Engine] (ha : a.effectiveType = .numeric type)
    (hbits : type.bits? = some bits)
    (hread : readNumber? .default type s = some (.ofInteger type n)) (byWord : Bool) :
    classify .default a (Operators.default.like.before byWord s) = ofPattern? .default s := by
  obtain ⟨hne, hall⟩ := Text.all_of_toInt? (toInt?_of_readNumber? hbits hread)
  have hblank : ∀ c ∈ s, Text.isBlank c = false := fun c hc ↦ isBlank_of_isIntegerChar (hall c hc)
  obtain ⟨c, hhead, hplain⟩ : ∃ c, (Operators.default.like.before byWord s).head? = some c ∧
      beginsPlainly c := by
    cases byWord <;> exact ⟨_, rfl, by decide⟩
  have hnull : Settings.default.isNullToken (Operators.default.like.before byWord s) = false :=
    (Settings.plain_of_head rfl hhead hplain).2
  have htrim : Text.trim (Operators.default.like.before byWord s) =
      Operators.default.like.before byWord s := by
    apply Text.trim_of_ends
    · cases byWord <;> exact fun d hd ↦ by obtain rfl := Option.some.inj hd; decide
    · intro d hd
      have hlast : (Operators.default.like.before byWord s).getLast? = s.getLast? := by
        cases byWord with
        | false => exact List.getLast?_append_of_ne_nil ['~'] hne
        | true => exact List.getLast?_append_of_ne_nil ['L', 'I', 'K', 'E', ' '] hne
      exact hblank d (List.mem_of_getLast? (hlast ▸ hd))
  have hnil : (Operators.default.like.before byWord s).isEmpty = false := by
    cases byWord <;> rfl
  simp only [classify, classifyAs, ha, htrim, hnull, hnil]
  exact classifyNumber_like rfl hbits byWord (Text.trim_of_forall hblank) (by rw [hread]; rfl)

theorem classify_integer [Pattern.Engine] (ha : a.effectiveType = .numeric type)
    (hbits : type.bits? = some bits)
    (hread : readNumber? .default type s = some (.ofInteger type n)) :
    classify .default a s = .number (.ofInteger type n) := by
  obtain ⟨hne, hall⟩ := Text.all_of_toInt? (toInt?_of_readNumber? hbits hread)
  have htrim : Text.trim s = s :=
    Text.trim_of_forall fun c hc ↦ isBlank_of_isIntegerChar (hall c hc)
  obtain ⟨c, rest, rfl⟩ := List.exists_cons_of_ne_nil hne
  have hplain : beginsPlainly c := Number.beginsPlainly_of_mem_numberChars
    (Number.mem_numberChars (Number.isNumberChar_of_isIntegerChar (hall c List.mem_cons_self)))
  have hnull : Settings.default.isNullToken (c :: rest) = false :=
    (Settings.plain_of_head rfl rfl hplain).2
  simp only [classify, classifyAs, ha, htrim, hnull, classifyNumber, hread]
  rfl

theorem holds_integer (type : NumericType) (m n : ℤ) :
    (Literal.number (.ofInteger type n)).holds (.integer m) ↔ m = n := by
  simp [holds, holdsFor, Value.orderNumber?_ofInteger]

/-- A value that is equal to an integer is found by LIKE with the decimal text of that integer, and
by LIKE with none of its other spellings. -/
theorem like_holds_of_equal [Pattern.Engine] (ha : a.effectiveType = .numeric type)
    (hbits : type.bits? = some bits)
    (hread : readNumber? .default type s = some (.ofInteger type n)) (byWord : Bool) (m : ℤ) :
    ((classify .default a s).holds (.integer m) ↔ m = n) ∧
      (s = Text.ofInt n → (classify .default a s).holds (.integer m) →
        (classify .default a (Operators.default.like.before byWord s)).holds (.integer m)) ∧
      (s ≠ Text.ofInt n → (Pattern.ofFilter? .default s).isSome →
        (classify .default a s).holds (.integer m) →
          ¬ (classify .default a (Operators.default.like.before byWord s)).holds (.integer m)) := by
  have hequal : (classify .default a s).holds (.integer m) ↔ m = n := by
    rw [classify_integer ha hbits hread, holds_integer]
  have hinteger : Text.toInt? s = some n := toInt?_of_readNumber? hbits hread
  have hwildcards : Settings.default.wildcards = .default := rfl
  have hlike {pattern : Pattern} (hpattern : Pattern.ofFilter? .default s = some pattern) :
      (classify .default a (Operators.default.like.before byWord s)).holds (.integer m) ↔
        s <:+: Text.ofInt m := by
    rw [classify_like ha hbits hread, ofPattern?, hwildcards, hpattern]
    exact Pattern.accepts_iff_infix hinteger hpattern
  refine ⟨hequal, fun hs hholds ↦ ?_, fun hs hsome hholds ↦ ?_⟩
  · obtain rfl := hequal.mp hholds
    cases hpattern : Pattern.ofFilter? .default s with
    | none =>
      -- a literal that is not recognized excludes no value
      rw [classify_like ha hbits hread, ofPattern?, hwildcards, hpattern]
      rfl
    | some pattern => exact (hlike hpattern).mpr ((Text.infix_ofInt_iff hinteger).mpr hs)
  · obtain rfl := hequal.mp hholds
    obtain ⟨pattern, hpattern⟩ := Option.isSome_iff_exists.mp hsome
    rw [hlike hpattern]
    exact mt (Text.infix_ofInt_iff hinteger).mp hs

/-- The least integer in its decimal text, and a number behind a plus sign. -/
theorem like_holds_of_equal_least :
    let a := Attribute.ofType (.numeric .long)
    let least := "-9223372036854775808".toList
    (classify .default a ("~".toList ++ least)).holds (.integer (-9223372036854775808)) ∧
      (classify .default a "+7".toList).holds (.integer 7) ∧
      ¬ (classify .default a "LIKE +7".toList).holds (.integer 7) := by
  intro a least
  have hleast : readNumber? .default .long least =
      some (.ofInteger .long (-9223372036854775808)) := by decide +kernel
  have hplus : readNumber? .default .long "+7".toList = some (.ofInteger .long 7) := by
    decide +kernel
  obtain ⟨hequal, hfinds, -⟩ :=
    like_holds_of_equal (a := a) rfl rfl hleast false (-9223372036854775808)
  obtain ⟨hequalPlus, -, hmisses⟩ := like_holds_of_equal (a := a) rfl rfl hplus true 7
  exact ⟨hfinds (by decide +kernel) (hequal.mpr rfl), hequalPlus.mpr rfl,
    hmisses (by decide) (by decide +kernel) (hequalPlus.mpr rfl)⟩

/-- A number with leading zeros equals a value in whose text it does not stand. -/
theorem like_misses_leading_zeros :
    let a := Attribute.ofType (.numeric .integer)
    readNumber? .default .integer "007".toList = some (.integer 7) ∧
      (classify .default a "007".toList).holds (.integer 7) ∧
      ¬ (classify .default a "~007".toList).holds (.integer 7) := by
  decide +kernel

end Literal

end RecordSearch
