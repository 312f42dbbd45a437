import Mathlib.Data.List.Chain
import RecordSearch.Proofs.Number.Reading

/-!
# How numbers are written

A number is written as an optional sign, digits with separators among them, and an optional
exponent. So a minus sign stands at its beginning or right behind the mark of an exponent, and
nowhere else; a minus sign behind a whole number is none of its own.
-/

namespace RecordSearch

def isExponentMark (c : Char) : Bool :=
  c = 'e' || c = 'E'

/-- A minus sign stands first or right behind the mark of an exponent. -/
def SignsInPlace (s : Text) : Prop :=
  s.IsChain fun c d ↦ d = '-' → isExponentMark c

/-- A text that no minus sign behind it belongs to. -/
structure EndsBeforeSign (s : Text) : Prop where
  signsInPlace : SignsInPlace s
  ne_nil : s ≠ []
  getLast? : ∀ c ∈ s.getLast?, isExponentMark c = false

section Signs

variable {s t : Text}

theorem SignsInPlace.cons_of_notMem {c : Char} (hs : '-' ∉ s) : SignsInPlace (c :: s) := by
  induction s generalizing c with
  | nil => exact .singleton c
  | cons d s ih =>
    obtain ⟨hd, hs⟩ := not_or.mp (mt List.mem_cons.mpr hs)
    exact .cons_cons (fun h ↦ absurd h.symm hd) (ih hs)

theorem SignsInPlace.of_notMem (hs : '-' ∉ s) : SignsInPlace s := by
  cases s with
  | nil => exact .nil
  | cons c s => exact .cons_of_notMem fun h ↦ hs (List.mem_cons_of_mem c h)

theorem SignsInPlace.append (hs : SignsInPlace s) (ht : SignsInPlace t)
    (hhead : t.head? ≠ some '-') : SignsInPlace (s ++ t) :=
  List.isChain_append.mpr ⟨hs, ht, fun _ _ _ hd h ↦ absurd (h ▸ hd) hhead⟩

theorem EndsBeforeSign.not_signsInPlace (hs : EndsBeforeSign s) (rest : Text) :
    ¬ SignsInPlace (s ++ '-' :: rest) := by
  intro h
  obtain ⟨-, -, hjoint⟩ := List.isChain_append.mp h
  obtain ⟨c, hc⟩ := Option.ne_none_iff_exists'.mp (mt List.getLast?_eq_none_iff.mp hs.ne_nil)
  have hmark : isExponentMark c := hjoint c hc '-' rfl rfl
  rw [hs.getLast? c hc] at hmark
  cases hmark

/-- A text is cut in one way only into a part and what follows the minus sign behind it. -/
theorem EndsBeforeSign.append_inj {u v : Text} (hs : EndsBeforeSign s) (ht : EndsBeforeSign t)
    (h : s ++ '-' :: u = t ++ '-' :: v) : s = t ∧ u = v := by
  have hnil {w u v : Text} (hw : '-' :: u = w ++ '-' :: v)
      (hsign : ∀ rest, w ≠ '-' :: rest) : w = [] := by
    cases w with
    | nil => rfl
    | cons c w =>
      obtain rfl : '-' = c := (List.cons.inj hw).1
      exact absurd rfl (hsign w)
  rcases List.append_eq_append_iff.mp h with ⟨w, rfl, hw⟩ | ⟨w, rfl, hw⟩
  · obtain rfl : w = [] := hnil hw fun rest hrest ↦
      hs.not_signsInPlace rest (hrest ▸ ht.signsInPlace)
    exact ⟨by simp, (List.cons.inj hw).2⟩
  · obtain rfl : w = [] := hnil hw fun rest hrest ↦
      ht.not_signsInPlace rest (hrest ▸ hs.signsInPlace)
    exact ⟨by simp, (List.cons.inj hw).2.symm⟩

end Signs

section Written

/-- A sign in front of a number. -/
def IsNumberSign (sign : Text) : Prop :=
  sign = [] ∨ sign = ['+'] ∨ sign = ['-']

/-- An exponent behind a number. -/
def IsExponent (s : Text) : Prop :=
  s = [] ∨ ∃ mark sign digits, s = mark :: (sign ++ digits) ∧ isExponentMark mark ∧
    IsNumberSign sign ∧ digits ≠ [] ∧ ∀ c ∈ digits, c.isDigit

/-- Digits and separators are neither a minus nor the mark of an exponent. -/
theorem not_mark_of_digit {c : Char} (hc : c.isDigit ∨ c = '.' ∨ c = ',') :
    c ≠ '-' ∧ isExponentMark c = false := by
  refine ⟨?_, ?_⟩
  · rintro rfl
    revert hc
    decide
  · by_contra hmark
    simp only [isExponentMark, Bool.not_eq_false, Bool.or_eq_true, decide_eq_true_eq] at hmark
    rcases hmark with rfl | rfl <;> exact absurd hc (by decide)

/-- What a text is written with in front of an exponent is neither a minus nor the mark of one. -/
theorem endsBeforeSign_of_written {sign front exponent : Text} (hsign : IsNumberSign sign)
    (hne : front ≠ []) (hfront : ∀ c ∈ front, c ≠ '-' ∧ isExponentMark c = false)
    (hexponent : IsExponent exponent) : EndsBeforeSign (sign ++ (front ++ exponent)) := by
  have hminus : '-' ∉ front := fun h ↦ (hfront '-' h).1 rfl
  have hexponentSigns : SignsInPlace exponent ∧ exponent.head? ≠ some '-' := by
    rcases hexponent with rfl | ⟨mark, esign, digits, rfl, hmark, hesign, -, hdigits⟩
    · exact ⟨.nil, by simp⟩
    · have hdigits : '-' ∉ digits := fun h ↦ (not_mark_of_digit (.inl (hdigits '-' h))).1 rfl
      have hhead : mark ≠ '-' := fun h ↦ absurd (h ▸ hmark) (by decide)
      refine ⟨?_, by simpa using hhead⟩
      rcases hesign with rfl | rfl | rfl
      · exact .cons_of_notMem hdigits
      · exact .cons_of_notMem (by simpa using hdigits)
      · exact List.IsChain.cons_cons (fun _ ↦ hmark) (SignsInPlace.cons_of_notMem hdigits)
  have hbody : SignsInPlace (front ++ exponent) :=
    (SignsInPlace.of_notMem hminus).append hexponentSigns.1 hexponentSigns.2
  have hbodyHead : (front ++ exponent).head? ≠ some '-' := by
    rw [List.head?_append_of_ne_nil _ hne]
    exact fun h ↦ hminus (List.mem_of_mem_head? h)
  refine ⟨?_, by simp [hne], fun c hc ↦ ?_⟩
  · refine SignsInPlace.append ?_ hbody hbodyHead
    rcases hsign with rfl | rfl | rfl
    · exact .nil
    all_goals exact .singleton _
  · have hbodyNe : front ++ exponent ≠ [] := by simp [hne]
    rw [List.getLast?_append_of_ne_nil _ hbodyNe] at hc
    rcases hexponent with rfl | ⟨mark, esign, digits, rfl, hmark, hesign, hdigitsNe, hdigits⟩
    · rw [List.append_nil] at hc
      exact (hfront c (List.mem_of_getLast? hc)).2
    · rw [List.getLast?_append_of_ne_nil _ (List.cons_ne_nil _ _), ← List.cons_append,
        List.getLast?_append_of_ne_nil _ hdigitsNe] at hc
      exact (not_mark_of_digit (.inl (hdigits c (List.mem_of_getLast? hc)))).2

theorem Decimal.isExponent_of_read? {s : Text} {n : ℤ} (h : Decimal.readExponent? s = some n) :
    IsExponent s := by
  cases s with
  | nil => exact .inl rfl
  | cons mark s =>
    rw [Decimal.readExponent?] at h
    split at h
    · rename_i hmark
      obtain ⟨sign, digits, rfl, hsign, hne, hdigits⟩ := Text.spelling_of_toInt? h
      exact .inr ⟨mark, sign, digits, rfl, by simpa [isExponentMark] using hmark, hsign, hne,
        hdigits⟩
    · cases h

/-- An unsigned decimal is written in digits and points in front of an exponent. -/
theorem Decimal.spelling_of_read? {s : Text} {d : Decimal} (h : Decimal.read? s = some d) :
    ∃ front exponent, s = front ++ exponent ∧ front ≠ [] ∧
      (∀ c ∈ front, c.isDigit ∨ c = '.') ∧ IsExponent exponent := by
  have hsplit := List.takeWhile_append_dropWhile (p := Char.isDigit) (l := s)
  have hwhole : ∀ c ∈ s.takeWhile Char.isDigit, c.isDigit := fun _ ↦ List.mem_takeWhile_imp
  unfold Decimal.read? at h
  split at h
  rename_i fraction rest hrest
  dsimp only at h
  split at h
  · cases h
  · rename_i hne
    obtain ⟨n, hexponent, -⟩ := Option.map_eq_some_iff.mp h
    have hexponent := isExponent_of_read? hexponent
    split at hrest
    · rename_i behind hbehind
      obtain ⟨rfl, rfl⟩ := Prod.mk.inj hrest
      refine ⟨s.takeWhile Char.isDigit ++ '.' :: behind.takeWhile Char.isDigit,
        behind.dropWhile Char.isDigit, ?_, by simp, fun c hc ↦ ?_, hexponent⟩
      · simp only [List.append_assoc, List.cons_append, List.takeWhile_append_dropWhile,
          ← hbehind, hsplit]
      · simp only [List.mem_append, List.mem_cons] at hc
        rcases hc with hc | hc | hc
        · exact .inl (hwhole c hc)
        · exact .inr hc
        · exact .inl (List.mem_takeWhile_imp hc)
    · obtain ⟨rfl, rfl⟩ := Prod.mk.inj hrest
      exact ⟨_, _, hsplit.symm, by simpa using hne, fun c hc ↦ .inl (hwhole c hc), hexponent⟩

/-- A finite binary number is read from an unsigned decimal behind a sign. -/
theorem Binary.spelling_of_read? {format : Format} {s : Text} {x : Binary format}
    (h : Binary.read? s = some x) (hfinite : x.isFinite) :
    ∃ sign rest d, s = sign ++ rest ∧ IsNumberSign sign ∧ Decimal.read? rest = some d := by
  have hunsigned {negative : Bool} {rest : Text}
      (h : Binary.readUnsigned? negative rest = some x) : ∃ d, Decimal.read? rest = some d := by
    unfold Binary.readUnsigned? at h
    split at h
    · rename_i d hd
      exact ⟨d, hd⟩
    · dsimp only at h
      split at h
      · obtain rfl := Option.some.inj h
        cases hfinite
      · split at h
        · obtain rfl := Option.some.inj h
          cases hfinite
        · cases h
  unfold Binary.read? at h
  split at h <;> obtain ⟨d, hd⟩ := hunsigned h
  · exact ⟨['-'], _, d, rfl, .inr (.inr rfl), hd⟩
  · exact ⟨['+'], _, d, rfl, .inr (.inl rfl), hd⟩
  · exact ⟨[], _, d, rfl, .inl rfl, hd⟩

end Written

namespace Number

variable {type : NumericType} {s : Text} {n : Number}

/-- A comma in the place of a point leaves the signs where they are. -/
theorem endsBeforeSign_map_comma
    (h : EndsBeforeSign (s.map fun c ↦ if c = ',' then '.' else c)) : EndsBeforeSign s := by
  have hmark (c : Char) : isExponentMark (if c = ',' then '.' else c) = isExponentMark c := by
    split
    · rename_i hc
      subst hc
      decide
    · rfl
  refine ⟨?_, fun hnil ↦ h.ne_nil (by simp [hnil]), fun c hc ↦ ?_⟩
  · refine ((List.isChain_map _).mp h.signsInPlace).imp fun c d hchain hd ↦ ?_
    rw [← hmark c]
    exact hchain (by subst hd; decide)
  · rw [← hmark c]
    apply h.getLast?
    rw [List.getLast?_map, Option.mem_def.mp hc]
    rfl

/-- No minus sign behind a number belongs to it. -/
theorem endsBeforeSign_of_read?
    (h : read? Settings.default.decimalSeparators type s = some n) : EndsBeforeSign s := by
  rcases read?_cases h with ⟨m, hm⟩ | ⟨format, x, hx⟩
  · obtain ⟨sign, digits, rfl, hsign, hne, hdigits⟩ := Text.spelling_of_toInt? hm
    have hwritten : EndsBeforeSign (sign ++ (digits ++ [])) :=
      endsBeforeSign_of_written hsign hne (fun c hc ↦ not_mark_of_digit (.inl (hdigits c hc)))
        (.inl rfl)
    rwa [List.append_nil] at hwritten
  · obtain ⟨hread, hfinite⟩ := Option.filter_eq_some_iff.mp hx
    obtain ⟨normalized, hnormalized, hread⟩ := Option.bind_eq_some_iff.mp hread
    obtain ⟨hfold, -⟩ := normalizeDecimal?_eq_some hnormalized
    obtain ⟨sign, rest, d, hrest, hsign, hd⟩ := Binary.spelling_of_read? hread hfinite
    obtain ⟨front, exponent, rfl, hne, hfront, hexponent⟩ := Decimal.spelling_of_read? hd
    have hchars : ∀ c ∈ front, c ≠ '-' ∧ isExponentMark c = false := fun c hc ↦
      not_mark_of_digit ((hfront c hc).imp_right .inl)
    have hwritten := endsBeforeSign_of_written hsign hne hchars hexponent
    rw [← hrest, hfold] at hwritten
    apply endsBeforeSign_map_comma
    rw [← Text.replace_character]
    exact hwritten

end Number

end RecordSearch
