import Mathlib.Data.List.DropRight
import RecordSearch.Text.Blank
import RecordSearch.Text.Quoted

/-!
# The ends of texts

Trimming and quoting look at the two ends of a text only. A text is trimmed if no blank stands at
either end; no quote is blank, so a quoted text is.
-/

namespace RecordSearch.Text

theorem trimEnd_eq_self_iff {s : Text} :
    trimEnd s = s ↔ ∀ c ∈ s.getLast?, isBlank c = false := by
  have h : trimEnd s = s.rdropWhile isBlank := rfl
  rw [h, List.rdropWhile_eq_self_iff]
  cases s with
  | nil => simp
  | cons c s => simp [List.getLast?_cons, List.getLast_eq_getLastD]

theorem trimStart_eq_self_iff {s : Text} :
    trimStart s = s ↔ ∀ c ∈ s.head?, isBlank c = false := by
  rw [trimStart, List.dropWhile_eq_self_iff]
  cases s <;> simp

theorem head?_trimStart (s : Text) : ∀ c ∈ (trimStart s).head?, isBlank c = false :=
  trimStart_eq_self_iff.mp (List.dropWhile_idempotent isBlank s)

theorem getLast?_trimEnd (s : Text) : ∀ c ∈ (trimEnd s).getLast?, isBlank c = false :=
  trimEnd_eq_self_iff.mp (List.rdropWhile_idempotent isBlank s)

theorem head?_trim (s : Text) : ∀ c ∈ (trim s).head?, isBlank c = false := by
  intro c hc
  apply head?_trimStart s c
  have hbegins : trim s <+: trimStart s := List.rdropWhile_prefix isBlank _
  obtain ⟨rest, hrest⟩ := hbegins
  rw [← hrest, List.head?_append, Option.mem_def.mp hc]
  rfl

theorem trim_of_ends {s : Text} (hhead : ∀ c ∈ s.head?, isBlank c = false)
    (hlast : ∀ c ∈ s.getLast?, isBlank c = false) : trim s = s := by
  rw [trim, trimStart_eq_self_iff.mpr hhead, trimEnd_eq_self_iff.mpr hlast]

@[simp]
theorem trim_trim (s : Text) : trim (trim s) = trim s :=
  trim_of_ends (head?_trim s) (getLast?_trimEnd (trimStart s))

/-- Only the ends of a text matter, not what stands between them. -/
theorem trim_append_append {s t : Text} (hs : trim s = s) (hs' : s ≠ []) (ht : trim t = t)
    (ht' : t ≠ []) (middle : Text) : trim (s ++ middle ++ t) = s ++ middle ++ t := by
  apply trim_of_ends
  · rw [List.append_assoc, List.head?_append_of_ne_nil _ hs', ← hs]
    exact head?_trim s
  · rw [List.getLast?_append_of_ne_nil _ ht', ← ht]
    exact getLast?_trimEnd _

theorem trim_of_forall {s : Text} (h : ∀ c ∈ s, isBlank c = false) : trim s = s :=
  trim_of_ends (fun c hc ↦ h c (List.mem_of_mem_head? hc))
    fun c hc ↦ h c (List.mem_of_mem_getLast? hc)

theorem trim_eq_nil_iff {s : Text} : trim s = [] ↔ ∀ c ∈ s, isBlank c := by
  have h : trim s = (s.dropWhile isBlank).rdropWhile isBlank := rfl
  rw [h, List.rdropWhile_eq_nil_iff]
  refine ⟨fun hall c hc ↦ ?_, fun hall c hc ↦ hall c (List.dropWhile_suffix isBlank |>.mem hc)⟩
  rw [← List.takeWhile_append_dropWhile (p := isBlank) (l := s), List.mem_append] at hc
  exact hc.elim List.mem_takeWhile_imp (hall c)

theorem nonBlank?_eq_none_iff {s : Text} : nonBlank? s = none ↔ trim s = [] := by
  simp [nonBlank?]

theorem nonBlank?_of_visible {s : Text} (h : trim s ≠ []) : nonBlank? s = some (trim s) := by
  simp [nonBlank?, h]

section Behind

/-- Blanks in front of a text do not matter once it is trimmed. -/
theorem trim_append_of_blank_front {front s : Text} (hfront : ∀ c ∈ front, isBlank c) :
    trim (front ++ s) = trim s := by
  rw [trim, trim, trimStart, trimStart, List.dropWhile_append_of_pos hfront]

theorem trimEnd_append_of_blank {s back : Text} (hback : ∀ c ∈ back, isBlank c) :
    trimEnd (s ++ back) = trimEnd s := by
  have hreverse : ∀ c ∈ back.reverse, isBlank c := fun c hc ↦ hback c (List.mem_reverse.mp hc)
  simp only [trimEnd, dropEnd, List.reverse_append, List.dropWhile_append_of_pos hreverse]

/-- Blanks behind a text do not matter once it is trimmed. -/
theorem trim_append_of_blank {s back : Text} (hback : ∀ c ∈ back, isBlank c) :
    trim (s ++ back) = trim s := by
  rw [trim, trim, trimStart, trimStart, List.dropWhile_append]
  split
  · rename_i hblank
    rw [List.isEmpty_iff.mp hblank]
    exact trim_eq_nil_iff.mpr hback
  · exact trimEnd_append_of_blank hback

theorem exists_trimEnd_append (s : Text) :
    ∃ back, s = trimEnd s ++ back ∧ ∀ c ∈ back, isBlank c := by
  refine ⟨(s.reverse.takeWhile isBlank).reverse, ?_, fun c hc ↦ ?_⟩
  · rw [trimEnd, dropEnd, ← List.reverse_append, List.takeWhile_append_dropWhile,
      List.reverse_reverse]
  · exact List.mem_takeWhile_imp (List.mem_reverse.mp hc)

@[simp]
theorem trim_trimEnd (s : Text) : trim (trimEnd s) = trim s := by
  obtain ⟨back, hs, hback⟩ := exists_trimEnd_append s
  conv_rhs => rw [hs, trim_append_of_blank hback]

theorem trim_cons {c : Char} (hc : isBlank c = false) (s : Text) :
    trim (c :: s) = c :: trimEnd s := by
  obtain ⟨back, hs, hback⟩ := exists_trimEnd_append s
  have hends : trim (c :: trimEnd s) = c :: trimEnd s := by
    apply trim_of_ends
    · simpa using hc
    · intro d hd
      rw [List.getLast?_cons, Option.mem_some_iff] at hd
      cases hlast : (trimEnd s).getLast? with
      | none =>
        rw [hlast] at hd
        exact hd ▸ hc
      | some e =>
        rw [hlast] at hd
        exact hd ▸ getLast?_trimEnd s e hlast
  conv_lhs => rw [hs, ← List.cons_append, trim_append_of_blank hback, hends]

end Behind

section Quoted

theorem isQuotedBy_iff {quote : Char} {s : Text} :
    isQuotedBy quote s ↔ ∃ inner, s = quote :: inner ++ [quote] := by
  refine ⟨fun h ↦ ?_, fun ⟨inner, h⟩ ↦ by simp [isQuotedBy, h, List.getLast?_cons]⟩
  simp only [isQuotedBy, Bool.and_eq_true, decide_eq_true_eq, beq_iff_eq] at h
  obtain ⟨⟨hlength, hhead⟩, hlast⟩ := h
  cases s with
  | nil => cases hhead
  | cons c s =>
    obtain rfl : c = quote := by simpa using hhead
    have hs : s ≠ [] := by
      rintro rfl
      simp at hlength
    refine ⟨s.dropLast, ?_⟩
    have hquote : s.getLast hs = c := by
      rw [List.getLast?_cons, List.getLast?_eq_some_getLast hs] at hlast
      simpa using hlast
    conv_lhs => rw [← List.dropLast_append_getLast hs, hquote]
    rfl

theorem isQuoted_iff {s : Text} :
    isQuoted s ↔
      ∃ quote inner, (quote = '"' ∨ quote = singleQuote) ∧ s = quote :: inner ++ [quote] := by
  rw [isQuoted, Bool.or_eq_true, isQuotedBy_iff, isQuotedBy_iff]
  constructor
  · rintro (⟨inner, h⟩ | ⟨inner, h⟩)
    · exact ⟨_, inner, .inl rfl, h⟩
    · exact ⟨_, inner, .inr rfl, h⟩
  · rintro ⟨quote, inner, rfl | rfl, h⟩
    · exact .inl ⟨inner, h⟩
    · exact .inr ⟨inner, h⟩

theorem unquote_of_not_quoted {s : Text} (h : isQuoted s = false) : unquote s = s := by
  rw [unquote, if_neg (by simp [h])]

theorem head?_of_quoted {s : Text} (h : isQuoted s) :
    s.head? = some '"' ∨ s.head? = some singleQuote := by
  obtain ⟨quote, inner, rfl | rfl, rfl⟩ := isQuoted_iff.mp h
  · exact .inl rfl
  · exact .inr rfl

theorem trim_of_quoted {s : Text} (h : isQuoted s) : trim s = s := by
  obtain ⟨quote, inner, hquote, rfl⟩ := isQuoted_iff.mp h
  have hblank : isBlank quote = false := by rcases hquote with rfl | rfl <;> rfl
  exact trim_of_ends (by simpa using hblank) (by simpa [List.getLast?_cons] using hblank)

theorem ne_nil_of_quoted {s : Text} (h : isQuoted s) : s ≠ [] := by
  rintro rfl
  cases h

end Quoted

end RecordSearch.Text
