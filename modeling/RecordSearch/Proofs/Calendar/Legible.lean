import RecordSearch.Proofs.Calendar.Reading

/-!
# The characters of dates

Of the digits that the date grammar accepts, the readers take those of ASCII only. What they read is
made of these digits, of blanks, signs and the marks between the numbers.
-/

namespace RecordSearch

namespace Layout

/-- The signs, and the marks between the numbers of a date. -/
def dateMarks : Text :=
  ['+', '-', '.', ':', 'T']

/-- The characters that the readers of periods take. -/
def IsLegible (c : Char) : Prop :=
  c.isDigit ∨ Text.isBlank c ∨ c ∈ dateMarks

/-- An item other than a fraction, and no mark beyond those of dates. -/
def isPlain : LayoutItem → Bool
  | .mark c => c ∈ dateMarks
  | .fraction => false
  | _ => true

variable {s rest : Text} {f g : CalendarFields} {item : LayoutItem} {items : Layout}

theorem legible_cons {c : Char} (hc : c ∈ dateMarks) (hs : ∀ d ∈ s, IsLegible d) :
    ∀ d ∈ c :: s, IsLegible d :=
  List.forall_mem_cons.mpr ⟨.inr (.inr hc), hs⟩

theorem legible_of_trimStart (h : ∀ c ∈ Text.trimStart s, IsLegible c) : ∀ c ∈ s, IsLegible c := by
  intro c hc
  rw [← List.takeWhile_append_dropWhile (p := Text.isBlank) (l := s), List.mem_append] at hc
  rcases hc with hc | hc
  · exact .inr (.inl (List.mem_takeWhile_imp hc))
  · exact h c hc

/-- The number that is read stands in front of the rest. -/
theorem legible_of_readDigits? {width n : ℕ} (h : readDigits? width s = some (n, rest))
    (hrest : ∀ c ∈ rest, IsLegible c) : ∀ c ∈ s, IsLegible c := by
  unfold readDigits? at h
  simp only at h
  split at h
  · cases h
  · obtain ⟨-, rfl⟩ := Prod.mk.inj (Option.some.inj h)
    intro c hc
    have hfront : (s.take width).takeWhile Char.isDigit <+: s :=
      (List.takeWhile_prefix _).trans (List.take_prefix _ _)
    rw [← List.take_append_drop ((s.take width).takeWhile Char.isDigit).length s,
      ← List.prefix_iff_eq_take.mp hfront, List.mem_append] at hc
    rcases hc with hc | hc
    · exact .inl (List.mem_takeWhile_imp hc)
    · exact hrest c hc

theorem legible_of_readSmall? {n : ℕ} (h : readSmall? s = some (n, rest))
    (hrest : ∀ c ∈ rest, IsLegible c) : ∀ c ∈ s, IsLegible c :=
  legible_of_trimStart (legible_of_readDigits? h hrest)

theorem legible_of_readYear? {n : ℤ} (h : readYear? s = some (n, rest))
    (hrest : ∀ c ∈ rest, IsLegible c) : ∀ c ∈ s, IsLegible c := by
  apply legible_of_trimStart
  unfold readYear? at h
  split at h <;> obtain ⟨⟨m, left⟩, hread, heq⟩ := Option.map_eq_some_iff.mp h <;>
    obtain ⟨-, rfl⟩ := Prod.mk.inj heq <;> have hlegible := legible_of_readDigits? hread hrest
  · rename_i hs
    rw [hs]
    exact legible_cons (by decide) hlegible
  · rename_i hs
    rw [hs]
    exact legible_cons (by decide) hlegible
  · exact hlegible

theorem legible_of_readItem? (hplain : isPlain item) (h : readItem? item f s = some (g, rest))
    (hrest : ∀ c ∈ rest, IsLegible c) : ∀ c ∈ s, IsLegible c := by
  cases item with
  | year =>
    obtain ⟨⟨n, left⟩, hread, heq⟩ := Option.map_eq_some_iff.mp h
    obtain ⟨-, rfl⟩ := Prod.mk.inj heq
    exact legible_of_readYear? hread hrest
  | month | day | hour | minute | second =>
    obtain ⟨⟨n, left⟩, hread, heq⟩ := Option.map_eq_some_iff.mp h
    obtain ⟨-, rfl⟩ := Prod.mk.inj heq
    exact legible_of_readSmall? hread hrest
  | fraction => cases hplain
  | gap =>
    obtain ⟨-, rfl⟩ := Prod.mk.inj (Option.some.inj h)
    exact legible_of_trimStart hrest
  | mark d =>
    cases s with
    | nil => cases h
    | cons c s =>
      simp only [readItem?] at h
      split at h
      · rename_i hc
        obtain ⟨-, rfl⟩ := Prod.mk.inj (Option.some.inj h)
        exact legible_cons (hc ▸ of_decide_eq_true hplain) hrest
      · cases h

/-- A text that is read by a layout has the characters of dates only. -/
theorem legible_of_readFrom? (hplain : items.all isPlain) (h : readFrom? items f s = some g) :
    ∀ c ∈ s, IsLegible c := by
  induction items generalizing f s with
  | nil =>
    cases s with
    | nil => simp
    | cons c s => cases h
  | cons item items ih =>
    rw [List.all_cons, Bool.and_eq_true] at hplain
    rw [readFrom?] at h
    split at h
    · rename_i hread
      exact legible_of_readItem? hplain.1 hread (ih hplain.2 h)
    · cases h

end Layout

namespace Period

open Layout

variable {s : Text} {p : Period}

theorem legible_of_isIntegerChar {c : Char} (hc : isIntegerChar c) : IsLegible c := by
  simp only [isIntegerChar, Bool.or_eq_true, decide_eq_true_eq] at hc
  rcases hc with (hc | rfl) | rfl
  · exact .inl hc
  · exact .inr (.inr (by decide))
  · exact .inr (.inr (by decide))

theorem legible_of_toSigned? {n : ℤ} (h : Text.toSigned? 32 s = some n) : ∀ c ∈ s, IsLegible c :=
  fun c hc ↦ legible_of_isIntegerChar
    ((Text.all_of_toInt? (Text.toInt?_of_toSigned? h).1).2 c hc)

theorem legible_of_toNatBelow? {n : ℕ} (h : Text.toNatBelow? (wordLimit 32) s = some n) :
    ∀ c ∈ s, IsLegible c := by
  rcases s with _ | ⟨d, s⟩
  · cases h
  · unfold Text.toNatBelow? at h
    simp only at h
    split at h
    · rename_i m hm
      have hall := (Text.all_digits_of_toNat? hm).2
      split at hall
      · rename_i heq
        rw [heq]
        exact legible_cons (by decide) fun c hc ↦ .inl (hall c hc)
      · exact fun c hc ↦ .inl (hall c hc)
    · cases h

theorem legible_of_readMonthOrYear? (h : readMonthOrYear? s = some p) : ∀ c ∈ s, IsLegible c := by
  unfold readMonthOrYear? at h
  split at h
  · rename_i month year hcut
    obtain ⟨m, hmonth, h⟩ := Option.bind_eq_some_iff.mp h
    obtain ⟨y, hyear, -⟩ := Option.bind_eq_some_iff.mp h
    rw [Text.eq_of_splitOnce hcut]
    exact List.forall_mem_append.mpr ⟨legible_of_toNatBelow? hmonth,
      legible_cons (by decide) (legible_of_toSigned? hyear)⟩
  · split at h
    · obtain ⟨y, hyear, -⟩ := Option.bind_eq_some_iff.mp h
      exact legible_of_toSigned? hyear
    · cases h

theorem legible_of_layouts {α : Type} {layouts : List Layout} {f : CalendarFields → Option α}
    {a : α} (hplain : layouts.all fun layout ↦ layout.all isPlain)
    (h : (layouts.findSome? fun layout ↦ (layout.read? s).bind f) = some a) :
    ∀ c ∈ s, IsLegible c := by
  obtain ⟨layout, hlayout, h⟩ := List.exists_of_findSome?_eq_some h
  obtain ⟨g, hread, -⟩ := Option.bind_eq_some_iff.mp h
  exact legible_of_readFrom? (List.all_eq_true.mp hplain layout hlayout) hread

/-- Whatever is read as a period has the characters of dates only. -/
theorem legible_of_read? (h : read? s = some p) : ∀ c ∈ s, IsLegible c := by
  have htrim : ∀ c ∈ Text.trim s, IsLegible c := by
    rw [read?] at h
    simp only [Option.orElse_eq_orElse, Option.orElse_eq_or, Option.or_eq_some_iff,
      Option.map_eq_some_iff] at h
    rcases h with (⟨t, h, -⟩ | ⟨-, d, h, -⟩) | ⟨-, h⟩
    · exact legible_of_layouts (by decide) h
    · exact legible_of_layouts (by decide) h
    · exact legible_of_readMonthOrYear? h
  apply legible_of_trimStart
  intro c hc
  have hreverse : ∀ d ∈ Text.trimStart (Text.trimStart s).reverse, IsLegible d := fun d hd ↦
    htrim d (List.mem_reverse.mpr hd)
  exact legible_of_trimStart hreverse c (List.mem_reverse.mpr hc)

end Period

/-- A digit that is legible is one of ASCII. -/
theorem isDigit_of_isLegible {c : Char} (hdigit : Text.isDigit c) (hc : Layout.IsLegible c) :
    c.isDigit := by
  obtain ⟨hascii, hblank⟩ := Text.isDigit_cases hdigit
  rcases hascii with hascii | hhigh
  · exact hascii
  · rcases hc with hc | hc | hc
    · exact hc
    · rw [hblank] at hc
      cases hc
    · have hlow : Layout.dateMarks.all fun d ↦ d.toNat < 0x80 := by decide
      have := of_decide_eq_true (List.all_eq_true.mp hlow c hc)
      omega

end RecordSearch
