import RecordSearch.Proofs.Text.Margin
import RecordSearch.Proofs.Text.Word

/-!
# Texts around others

A text that shares no character with a piece can be put in front of any text or behind it without a
further occurrence of the piece. When the whole is cut at the piece, the first part begins with the
text in front and the last one ends with the text behind.
-/

namespace RecordSearch.Text

variable {piece substitute word front s t back u v rest : Text}

section Occurrences

/-- No occurrence of a piece begins in a text in front that shares no character with it. -/
theorem prefix_of_disjoint (hne : piece ≠ []) (hfront : ∀ c ∈ front, c ∉ piece)
    (h : front ++ rest = u ++ (piece ++ v)) : front <+: u := by
  have hu : u <+: front ++ rest := h ▸ List.prefix_append u _
  rcases List.prefix_or_prefix_of_prefix (List.prefix_append front rest) hu with
    hwithin | ⟨r, rfl⟩
  · exact hwithin
  · cases r with
    | nil => simp
    | cons c r =>
      obtain ⟨d, piece, rfl⟩ := List.exists_cons_of_ne_nil hne
      rw [List.append_assoc] at h
      obtain ⟨rfl, -⟩ := List.cons.inj (List.append_cancel_left h)
      exact absurd List.mem_cons_self (hfront c (by simp))

/-- The same for a word between blanks, if there is no blank at the end of the text in front. -/
theorem prefix_of_disjoint_word (hne : word ≠ []) (hfront : ∀ c ∈ front, c ∉ word)
    (hlast : front.getLast? ≠ some ' ') (h : front ++ rest = u ++ (spaced word ++ v)) :
    front <+: u := by
  have hu : u <+: front ++ rest := h ▸ List.prefix_append u _
  rcases List.prefix_or_prefix_of_prefix (List.prefix_append front rest) hu with
    hwithin | ⟨r, rfl⟩
  · exact hwithin
  · cases r with
    | nil => simp
    | cons c r =>
      obtain ⟨d, word, rfl⟩ := List.exists_cons_of_ne_nil hne
      rw [List.append_assoc] at h
      obtain ⟨rfl, hrest⟩ := List.cons.inj (List.append_cancel_left h)
      cases r with
      | nil => exact absurd (by simp) hlast
      | cons c r =>
        obtain ⟨rfl, -⟩ := List.cons.inj hrest
        exact absurd List.mem_cons_self (hfront c (by simp))

/-- The occurrences of a piece lie between two texts if none begins in the first and, read backwards,
none begins in the second. -/
theorem between_of_prefix
    (hfront : ∀ rest u v, front ++ rest = u ++ (piece ++ v) → front <+: u)
    (hback : ∀ rest u v, back.reverse ++ rest = u ++ (piece.reverse ++ v) → back.reverse <+: u) :
    Between piece front s back := by
  intro u v h
  refine ⟨hfront _ u v h, List.reverse_prefix.mp ?_⟩
  apply hback (s.reverse ++ front.reverse) v.reverse u.reverse
  simpa using congrArg List.reverse h

theorem between_of_disjoint (hne : piece ≠ []) (hfront : ∀ c ∈ front, c ∉ piece)
    (hback : ∀ c ∈ back, c ∉ piece) : Between piece front s back :=
  between_of_prefix (fun _ _ _ ↦ prefix_of_disjoint hne hfront)
    fun _ _ _ ↦ prefix_of_disjoint (by simpa using hne) (by simpa using hback)

theorem between_of_disjoint_word (hne : word ≠ []) (hfront : ∀ c ∈ front, c ∉ word)
    (hback : ∀ c ∈ back, c ∉ word) (hlast : front.getLast? ≠ some ' ')
    (hhead : back.head? ≠ some ' ') : Between (spaced word) front s back := by
  have hreverse : (spaced word).reverse = spaced word.reverse := by simp [spaced]
  refine between_of_prefix (fun _ _ _ ↦ prefix_of_disjoint_word hne hfront hlast) ?_
  rw [hreverse]
  exact fun _ _ _ ↦ prefix_of_disjoint_word (by simpa using hne) (by simpa using hback)
    (by simpa using hhead)

theorem infix_replace (hpiece : piece ≠ []) (h : piece <:+: s) :
    substitute <:+: replace piece substitute s := by
  induction s using cut_induction hpiece with
  | nil => exact absurd (List.infix_nil.mp h) hpiece
  | append s =>
    rw [replace_append hpiece]
    exact (List.prefix_append _ _).isInfix
  | cons c s hstarts ih =>
    rw [replace_cons hpiece hstarts]
    exact List.infix_cons (ih ((List.infix_cons_iff.mp h).resolve_left hstarts))

end Occurrences

section Parts

variable {parts middle : List Text} {first last : Text}

/-- A text in which a piece occurs is cut into two parts at least. -/
theorem exists_cutFrom_eq (hpiece : piece ≠ []) (h : piece <:+: s) :
    ∃ first middle last, cutFrom piece 0 s = first :: (middle ++ [last]) := by
  induction s using cut_induction hpiece with
  | nil => exact absurd (List.infix_nil.mp h) hpiece
  | append s =>
    rw [cutFrom_append hpiece]
    rcases List.eq_nil_or_concat' (cutFrom piece 0 s) with hnil | ⟨middle, last, hparts⟩
    · exact absurd hnil (cutFrom_ne_nil piece s)
    · exact ⟨[], middle, last, by rw [hparts]⟩
  | cons c s hstarts ih =>
    obtain ⟨first, middle, last, hparts⟩ :=
      ih ((List.infix_cons_iff.mp h).resolve_left hstarts)
    exact ⟨c :: first, middle, last, by rw [cutFrom_cons hstarts, hparts, pushFirst]⟩

theorem Between.cutFrom_append (hpiece : piece ≠ []) (h : Between piece [] s back)
    (hparts : cutFrom piece 0 s = parts ++ [last]) :
    cutFrom piece 0 (s ++ back) = parts ++ [last ++ back] := by
  induction s using cut_induction hpiece generalizing parts last with
  | nil =>
    have hparts : [] ++ [[]] = parts ++ [last] := hparts
    obtain ⟨rfl, hlast⟩ := List.append_inj' hparts rfl
    obtain rfl := List.singleton_injective hlast
    exact cutFrom_of_absent (h.not_infix_back hpiece)
  | append s ih =>
    rw [Text.cutFrom_append hpiece] at hparts
    rw [List.append_assoc, Text.cutFrom_append hpiece]
    cases parts with
    | nil => exact absurd (List.cons.inj hparts).2 (cutFrom_ne_nil piece s)
    | cons part parts =>
      rw [List.cons_append, List.cons.injEq] at hparts
      obtain ⟨rfl, hparts⟩ := hparts
      rw [ih h.of_append hparts, List.cons_append]
  | cons c s hstarts ih =>
    have hrest : Between piece [] s back := Between.of_append (t := [c]) h
    have hwhole : ¬ piece <+: c :: (s ++ back) := mt h.prefix_of_prefix hstarts
    rw [cutFrom_cons hstarts] at hparts
    rw [List.cons_append, cutFrom_cons hwhole]
    rcases List.eq_nil_or_concat' (cutFrom piece 0 s) with hnil | ⟨others, other, hcut⟩
    · exact absurd hnil (cutFrom_ne_nil piece s)
    · rw [ih hrest hcut]
      rw [hcut] at hparts
      cases others with
      | nil =>
        have hparts : [] ++ [c :: other] = parts ++ [last] := hparts
        obtain ⟨rfl, hlast⟩ := List.append_inj' hparts rfl
        obtain rfl := List.singleton_injective hlast
        rfl
      | cons part others =>
        have hparts : (c :: part) :: others ++ [other] = parts ++ [last] := hparts
        obtain ⟨rfl, hlast⟩ := List.append_inj' hparts rfl
        obtain rfl := List.singleton_injective hlast
        rfl

/-- Texts around another one are at the ends of its first and its last part. -/
theorem Between.cutFrom_eq (hpiece : piece ≠ []) (h : Between piece front s back)
    (hparts : cutFrom piece 0 s = first :: (middle ++ [last])) :
    cutFrom piece 0 (front ++ (s ++ back)) =
      (front ++ first) :: (middle ++ [last ++ back]) := by
  induction front with
  | nil =>
    have hparts : cutFrom piece 0 s = (first :: middle) ++ [last] := hparts
    exact h.cutFrom_append hpiece hparts
  | cons c front ih =>
    rw [List.cons_append, cutFrom_cons h.not_prefix, ih h.of_cons]
    rfl

end Parts

section Trim

theorem trim_ne_nil_of_subset (hs : trim s ≠ []) (h : s ⊆ t) : trim t ≠ [] := fun ht ↦
  hs (trim_eq_nil_iff.mpr fun c hc ↦ trim_eq_nil_iff.mp ht c (h hc))

theorem trimStart_ne_nil (hs : trim s ≠ []) : trimStart s ≠ [] := fun hnil ↦
  hs (by rw [trim, hnil]; rfl)

/-- Only the blanks at the very front are lost when a trimmed text stands at the end. -/
theorem trim_append_of_trimmed (hs : trim s ≠ []) (ht : trim t = t) (hne : t ≠ []) :
    trim (s ++ t) = trimStart s ++ t := by
  have hend : trimEnd (trimStart s ++ t) = trimStart s ++ t := by
    rw [trimEnd_eq_self_iff, List.getLast?_append_of_ne_nil _ hne, ← ht]
    exact getLast?_trimEnd _
  have hfront : trimStart (s ++ t) = trimStart s ++ t := by
    rw [trimStart, List.dropWhile_append]
    exact if_neg (mt List.isEmpty_iff.mp (trimStart_ne_nil hs))
  rw [trim, hfront, hend]

/-- A text that is still in front when the blanks are gone does not begin with one. -/
theorem trimStart_of_prefix (hs : trim s ≠ []) (h : s <+: trimStart s ++ t) : trimStart s = s := by
  rw [trimStart_eq_self_iff]
  intro c hc
  apply head?_trimStart s c
  obtain ⟨rest, hrest⟩ := h
  have hhead := congrArg List.head? hrest
  rwa [List.head?_append, Option.mem_def.mp hc,
    List.head?_append_of_ne_nil _ (trimStart_ne_nil hs), Option.some_or, eq_comm] at hhead

variable (hs : trim s = s) (hne : s ≠ [])

include hs hne

/-- Trimming leaves a trimmed text in front exactly if what is behind it is blank. -/
theorem trim_append_eq_left_iff : trim (s ++ t) = s ↔ trim t = [] := by
  constructor
  · intro htrim
    have hmargins := margins_append (s ++ t)
    rw [htrim] at hmargins
    cases hleft : leftMargin (s ++ t) with
    | nil =>
      rw [hleft, List.nil_append, List.append_cancel_left_eq] at hmargins
      exact trim_eq_nil_iff.mpr (hmargins ▸ isBlank_of_mem_rightMargin)
    | cons c left =>
      have hc : isBlank c := isBlank_of_mem_leftMargin c (hleft ▸ List.mem_cons_self)
      have hhead := head?_trim s c
      rw [hs] at hhead
      obtain ⟨d, s, rfl⟩ := List.exists_cons_of_ne_nil hne
      rw [hleft] at hmargins
      rw [hhead (congrArg some (List.cons.inj hmargins).1.symm)] at hc
      cases hc
  · intro ht
    rw [trim_append_of_blank (trim_eq_nil_iff.mp ht), hs]

theorem trim_append_eq_right_iff : trim (t ++ s) = s ↔ trim t = [] := by
  constructor
  · intro htrim
    have hmargins := margins_append (t ++ s)
    rw [htrim] at hmargins
    rcases List.eq_nil_or_concat' (rightMargin (t ++ s)) with hright | ⟨right, c, hright⟩
    · rw [hright, List.append_nil, List.append_cancel_right_eq] at hmargins
      exact trim_eq_nil_iff.mpr (hmargins ▸ isBlank_of_mem_leftMargin)
    · have hc : isBlank c := isBlank_of_mem_rightMargin c (by rw [hright]; simp)
      have hlast : (t ++ s).getLast? = some c := by
        rw [← hmargins, hright]
        simp
      rw [List.getLast?_append_of_ne_nil _ hne] at hlast
      have hblank := getLast?_trimEnd (trimStart s) c
      rw [show trimEnd (trimStart s) = s from hs, hlast] at hblank
      rw [hblank rfl] at hc
      cases hc
  · intro ht
    rw [trim_append_of_blank_front (trim_eq_nil_iff.mp ht), hs]

end Trim

end RecordSearch.Text
