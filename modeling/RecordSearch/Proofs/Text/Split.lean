import Mathlib.Data.List.Infix
import RecordSearch.Text.Basic

/-!
# Cutting texts

A text is cut from left to right: at each position either the separator stands there and is passed
over, or one character is kept. Facts about cut texts follow this walk. Replacing a piece by a
character that it does not contain leaves no further occurrence of it.
-/

namespace RecordSearch.Text

theorem dropFront?_eq_none {front s : Text} (h : ¬ front <+: s) :
    dropFront? front s = none := by
  cases hdrop : dropFront? front s with
  | none => rfl
  | some rest => exact absurd ⟨rest, (dropFront?_eq_some_iff.mp hdrop).symm⟩ h

theorem cutFrom_skip (separator : Text) (skip : ℕ) (s : Text) :
    cutFrom separator skip s = cutFrom separator 0 (s.drop skip) := by
  induction s generalizing skip with
  | nil => cases skip <;> rfl
  | cons c s ih =>
    cases skip with
    | zero => rfl
    | succ skip => exact ih skip

theorem cutFrom_ne_nil (separator : Text) (s : Text) : cutFrom separator 0 s ≠ [] := by
  induction s with
  | nil => simp [cutFrom]
  | cons c s ih =>
    unfold cutFrom
    split
    · simp
    · cases h : cutFrom separator 0 s with
      | nil => exact absurd h ih
      | cons => simp [pushFirst]

theorem cutFrom_append {separator : Text} (hseparator : separator ≠ []) (s : Text) :
    cutFrom separator 0 (separator ++ s) = [] :: cutFrom separator 0 s := by
  cases separator with
  | nil => exact absurd rfl hseparator
  | cons c separator =>
    have hstarts : startsWith (c :: separator) (c :: (separator ++ s)) :=
      startsWith_iff.mpr (List.prefix_append _ _)
    rw [List.cons_append, cutFrom, if_pos hstarts, cutFrom_skip]
    simp

theorem cutFrom_cons {separator : Text} {c : Char} {s : Text} (h : ¬ separator <+: c :: s) :
    cutFrom separator 0 (c :: s) = pushFirst c (cutFrom separator 0 s) := by
  rw [cutFrom, if_neg (mt startsWith_iff.mp h)]

/-- The walk over a text that is cut at a separator. -/
theorem cut_induction {separator : Text} (hseparator : separator ≠ []) {motive : Text → Prop}
    (nil : motive []) (append : ∀ s, motive s → motive (separator ++ s))
    (cons : ∀ c s, ¬ separator <+: c :: s → motive s → motive (c :: s)) (s : Text) : motive s := by
  induction hlength : s.length using Nat.strong_induction_on generalizing s with
  | _ n ih =>
    subst hlength
    by_cases hstarts : separator <+: s
    · obtain ⟨rest, rfl⟩ := hstarts
      have hpos : 0 < separator.length := List.length_pos_iff.mpr hseparator
      exact append rest (ih rest.length (by rw [List.length_append]; omega) rest rfl)
    · cases s with
      | nil => exact nil
      | cons c s => exact cons c s hstarts (ih s.length (Nat.lt_succ_self _) s rfl)

section Replace

variable {piece substitute s : Text}

theorem splitOn_of_ne_nil (hpiece : piece ≠ []) (s : Text) :
    splitOn piece s = cutFrom piece 0 s := by
  rw [splitOn, if_neg (by simpa using hpiece)]

theorem replace_nil (hpiece : piece ≠ []) : replace piece substitute [] = [] := by
  rw [replace, splitOn_of_ne_nil hpiece, cutFrom, List.intercalate_singleton]

theorem replace_append (hpiece : piece ≠ []) (s : Text) :
    replace piece substitute (piece ++ s) = substitute ++ replace piece substitute s := by
  simp only [replace, splitOn_of_ne_nil hpiece]
  rw [cutFrom_append hpiece, List.intercalate_cons_of_ne_nil (cutFrom_ne_nil _ _)]
  rfl

theorem replace_cons (hpiece : piece ≠ []) {c : Char} (h : ¬ piece <+: c :: s) :
    replace piece substitute (c :: s) = c :: replace piece substitute s := by
  simp only [replace, splitOn_of_ne_nil hpiece]
  rw [cutFrom_cons h]
  cases hparts : cutFrom piece 0 s with
  | nil => exact absurd hparts (cutFrom_ne_nil _ _)
  | cons part parts => exact List.intercalate_cons_cons_left

theorem replace_of_absent (hpiece : piece ≠ []) (h : ¬ piece <:+: s) :
    replace piece substitute s = s := by
  induction s with
  | nil => exact replace_nil hpiece
  | cons c s ih =>
    rw [List.infix_cons_iff, not_or] at h
    rw [replace_cons hpiece h.1, ih h.2]

/-- A front part without the substitute was there before the replacement. -/
theorem prefix_of_prefix_replace (hpiece : piece ≠ []) {mark : Char} {front : Text}
    (hfront : mark ∉ front) (h : front <+: replace piece [mark] s) : front <+: s := by
  induction s using cut_induction hpiece generalizing front with
  | nil => rwa [replace_nil hpiece] at h
  | append s =>
    rw [replace_append hpiece] at h
    cases front with
    | nil => exact List.nil_prefix
    | cons c front =>
      obtain ⟨rfl, -⟩ := List.cons_prefix_cons.mp h
      exact absurd List.mem_cons_self hfront
  | cons c s hstarts ih =>
    rw [replace_cons hpiece hstarts] at h
    cases front with
    | nil => exact List.nil_prefix
    | cons d front =>
      obtain ⟨rfl, hrest⟩ := List.cons_prefix_cons.mp h
      exact List.cons_prefix_cons.mpr ⟨rfl, ih (mt (List.mem_cons_of_mem _) hfront) hrest⟩

theorem not_infix_replace (hpiece : piece ≠ []) {mark : Char} (hmark : mark ∉ piece) (s : Text) :
    ¬ piece <:+: replace piece [mark] s := by
  induction s using cut_induction hpiece with
  | nil => simpa [replace_nil hpiece] using hpiece
  | append s ih =>
    rw [replace_append hpiece, List.singleton_append, List.infix_cons_iff, not_or]
    refine ⟨fun h ↦ ?_, ih⟩
    cases piece with
    | nil => exact hpiece rfl
    | cons c piece =>
      obtain ⟨rfl, -⟩ := List.cons_prefix_cons.mp h
      exact hmark List.mem_cons_self
  | cons c s hstarts ih =>
    rw [replace_cons hpiece hstarts, List.infix_cons_iff, not_or]
    refine ⟨fun h ↦ hstarts ?_, ih⟩
    rw [← replace_cons hpiece hstarts] at h
    exact prefix_of_prefix_replace hpiece hmark h

/-- A piece without the substitute was there before the replacement. -/
theorem infix_of_infix_replace (hpiece : piece ≠ []) {mark : Char} {part : Text}
    (hpart : mark ∉ part) (h : part <:+: replace piece [mark] s) : part <:+: s := by
  induction s using cut_induction hpiece with
  | nil => rwa [replace_nil hpiece] at h
  | append s ih =>
    rw [replace_append hpiece, List.singleton_append] at h
    rcases List.infix_cons_iff.mp h with hbegins | hrest
    · cases part with
      | nil => exact List.nil_infix
      | cons c part =>
        obtain ⟨rfl, -⟩ := List.cons_prefix_cons.mp hbegins
        exact absurd List.mem_cons_self hpart
    · exact (ih hrest).trans (List.suffix_append piece s).isInfix
  | cons c s hstarts ih =>
    rw [replace_cons hpiece hstarts] at h
    rcases List.infix_cons_iff.mp h with hbegins | hrest
    · rw [← replace_cons hpiece hstarts] at hbegins
      exact (prefix_of_prefix_replace hpiece hpart hbegins).isInfix
    · exact List.infix_cons (ih hrest)

/-- A replaced text begins with the substitute or as it did before. -/
theorem head?_replace (mark : Char) (piece s : Text) :
    (replace piece [mark] s).head? = some mark ∨
      (replace piece [mark] s).head? = s.head? := by
  by_cases hpiece : piece = []
  · subst hpiece
    cases s with
    | nil => exact .inl rfl
    | cons => exact .inl rfl
  · by_cases hstarts : piece <+: s
    · obtain ⟨rest, rfl⟩ := hstarts
      rw [replace_append hpiece]
      exact .inl rfl
    · cases s with
      | nil => exact .inr (by rw [replace_nil hpiece])
      | cons => exact .inr (by rw [replace_cons hpiece hstarts]; rfl)

theorem getLast?_replace_of_ne_nil (hpiece : piece ≠ []) (mark : Char) (s : Text) :
    (replace piece [mark] s).getLast? = some mark ∨
      (replace piece [mark] s).getLast? = s.getLast? := by
  induction s using cut_induction hpiece with
  | nil => exact .inr (by rw [replace_nil hpiece])
  | append s ih =>
    rw [replace_append hpiece, List.singleton_append, List.getLast?_cons]
    rcases ih with h | h
    · exact .inl (by rw [h, Option.getD_some])
    · cases s with
      | nil => exact .inl (by rw [replace_nil hpiece]; rfl)
      | cons c s =>
        rw [h, List.getLast?_append_of_ne_nil _ (List.cons_ne_nil c s)]
        exact .inr (by rw [List.getLast?_cons, Option.getD_some])
  | cons c s hstarts ih =>
    rw [replace_cons hpiece hstarts, List.getLast?_cons, List.getLast?_cons]
    rcases ih with h | h
    · exact .inl (by rw [h, Option.getD_some])
    · exact .inr (by rw [h])

/-- An empty piece is replaced at both ends and between any two characters. -/
theorem replace_empty (mark : Char) (s : Text) :
    replace [] [mark] s = mark :: s.flatMap fun c ↦ [c, mark] := by
  have hparts (s : Text) : (s.map fun c ↦ [c]) ++ [([] : Text)] ≠ [] := by simp
  have hjoin (s : Text) : List.intercalate [mark] ((s.map fun c ↦ [c]) ++ [([] : Text)]) =
      s.flatMap fun c ↦ [c, mark] := by
    induction s with
    | nil => rfl
    | cons c s ih =>
      rw [List.map_cons, List.cons_append, List.intercalate_cons_of_ne_nil (hparts s), ih]
      rfl
  rw [replace, splitOn, if_pos List.isEmpty_nil, List.cons_append,
    List.intercalate_cons_of_ne_nil (hparts s), hjoin]
  rfl

theorem getLast?_replace (mark : Char) (piece s : Text) :
    (replace piece [mark] s).getLast? = some mark ∨
      (replace piece [mark] s).getLast? = s.getLast? := by
  by_cases hpiece : piece = []
  · subst hpiece
    rw [replace_empty]
    refine .inl ?_
    induction s with
    | nil => rfl
    | cons c s ih => simpa [List.getLast?_cons] using ih
  · exact getLast?_replace_of_ne_nil hpiece mark s

end Replace

section Character

variable {mark : Char}

theorem singleton_prefix_cons {c : Char} {s : Text} : [mark] <+: c :: s ↔ mark = c := by
  simp [List.cons_prefix_cons]

/-- At a single character a text is cut as lists are. -/
theorem splitOn_character (mark : Char) (s : Text) : splitOn [mark] s = List.splitOn mark s := by
  rw [splitOn_of_ne_nil (List.cons_ne_nil _ _)]
  induction s with
  | nil => rfl
  | cons c s ih =>
    rw [List.splitOn_cons_eq_if_modifyHead]
    by_cases h : c = mark
    · subst h
      rw [if_pos (beq_self_eq_true c), ← ih]
      exact cutFrom_append (List.cons_ne_nil c []) s
    · rw [if_neg (by simpa using h), ← ih,
        cutFrom_cons (mt singleton_prefix_cons.mp (Ne.symm h))]
      cases hparts : cutFrom [mark] 0 s with
      | nil => exact absurd hparts (cutFrom_ne_nil _ _)
      | cons => rfl

theorem splitOn_join {parts : List Text} (hparts : ∀ part ∈ parts, mark ∉ part)
    (hne : parts ≠ []) : splitOn [mark] (join [mark] parts) = parts := by
  rw [splitOn_character]
  exact List.splitOn_intercalate mark hparts hne

/-- No part of a text contains the character that it is cut at. -/
theorem not_mem_of_mem_splitOn {s part : Text} (h : part ∈ splitOn [mark] s) : mark ∉ part := by
  rw [splitOn_of_ne_nil (List.cons_ne_nil _ _)] at h
  induction s using cut_induction (List.cons_ne_nil mark []) generalizing part with
  | nil =>
    obtain rfl := List.mem_singleton.mp h
    exact List.not_mem_nil
  | append s ih =>
    rw [cutFrom_append (List.cons_ne_nil _ _)] at h
    rcases List.mem_cons.mp h with rfl | hpart
    · exact List.not_mem_nil
    · exact ih hpart
  | cons c s hstarts ih =>
    obtain ⟨first, parts, hparts⟩ := List.exists_cons_of_ne_nil (cutFrom_ne_nil [mark] s)
    rw [cutFrom_cons hstarts, hparts, pushFirst] at h
    rw [hparts] at ih
    rcases List.mem_cons.mp h with rfl | hpart
    · exact List.not_mem_cons_of_ne_of_not_mem (mt singleton_prefix_cons.mpr hstarts)
        (ih List.mem_cons_self)
    · exact ih (List.mem_cons_of_mem _ hpart)

theorem infix_of_mem_join {separator part : Text} {parts : List Text} (h : part ∈ parts) :
    part <:+: join separator parts := by
  induction parts with
  | nil => cases h
  | cons first parts ih =>
    by_cases hparts : parts = []
    · subst hparts
      obtain rfl := List.mem_singleton.mp h
      rw [join, List.intercalate_singleton]
    · rw [join, List.intercalate_cons_of_ne_nil hparts]
      rcases List.mem_cons.mp h with rfl | hpart
      · rw [List.append_assoc]
        exact (List.prefix_append _ _).isInfix
      · exact (ih hpart).trans (List.suffix_append _ _).isInfix

/-- A part of a cut text stands in it. -/
theorem infix_of_mem_splitOn {s part : Text} (h : part ∈ splitOn [mark] s) : part <:+: s := by
  rw [splitOn_character] at h
  have hjoin : join [mark] (List.splitOn mark s) = s := List.intercalate_splitOn mark
  conv_rhs => rw [← hjoin]
  exact infix_of_mem_join h

theorem replace_character (mark substitute : Char) (s : Text) :
    replace [mark] [substitute] s = s.map fun c ↦ if c = mark then substitute else c := by
  have hmark : [mark] ≠ [] := List.cons_ne_nil _ _
  induction s with
  | nil => exact replace_nil hmark
  | cons c s ih =>
    by_cases h : c = mark
    · subst h
      rw [List.map_cons, if_pos rfl, ← ih]
      exact replace_append hmark s
    · rw [List.map_cons, if_neg h, ← ih,
        replace_cons hmark (mt singleton_prefix_cons.mp (Ne.symm h))]

theorem prefix_of_prefix_append_cons {piece front rest : Text} (hpiece : mark ∉ piece)
    (h : piece <+: front ++ mark :: rest) : piece <+: front := by
  rcases List.prefix_or_prefix_of_prefix h (List.prefix_append front (mark :: rest)) with
    hbegins | ⟨back, rfl⟩
  · exact hbegins
  · cases back with
    | nil => simp
    | cons c back =>
      rw [List.prefix_append_right_inj, List.cons_prefix_cons] at h
      exact absurd (List.mem_append_right front (h.1 ▸ List.mem_cons_self)) hpiece

theorem infix_or_infix_of_infix_append_cons {piece front rest : Text} (hpiece : mark ∉ piece)
    (h : piece <:+: front ++ mark :: rest) : piece <:+: front ∨ piece <:+: rest := by
  induction front with
  | nil =>
    rcases List.infix_cons_iff.mp h with hbegins | hrest
    · exact .inl (prefix_of_prefix_append_cons hpiece hbegins).isInfix
    · exact .inr hrest
  | cons c front ih =>
    rcases List.infix_cons_iff.mp h with hbegins | hrest
    · exact .inl (prefix_of_prefix_append_cons hpiece hbegins).isInfix
    · exact (ih hrest).imp_left fun hfront ↦ List.infix_cons hfront

/-- A character that a piece does not have keeps the replacements before and behind it apart. -/
theorem replace_append_cons {piece substitute : Text} (hne : piece ≠ []) (hpiece : mark ∉ piece)
    (s t : Text) :
    replace piece substitute (s ++ mark :: t) =
      replace piece substitute s ++ mark :: replace piece substitute t := by
  induction s using cut_induction hne with
  | nil =>
    have hbegins : ¬ piece <+: [] ++ mark :: t := fun h ↦
      hne (List.prefix_nil.mp (prefix_of_prefix_append_cons hpiece h))
    rw [replace_nil hne]
    exact replace_cons hne hbegins
  | append s ih => simp only [List.append_assoc, replace_append hne, ih]
  | cons c s hstarts ih =>
    have hbegins : ¬ piece <+: (c :: s) ++ mark :: t := fun h ↦
      hstarts (prefix_of_prefix_append_cons hpiece h)
    rw [List.cons_append] at hbegins ⊢
    rw [replace_cons hne hbegins, ih, replace_cons hne hstarts, List.cons_append]

/-- A piece without the separator that stands in a joined text stands in one of its parts. -/
theorem infix_of_infix_join {piece : Text} {parts : List Text} (hpiece : mark ∉ piece)
    (hne : piece ≠ []) (h : piece <:+: join [mark] parts) : ∃ part ∈ parts, piece <:+: part := by
  induction parts with
  | nil => exact absurd (List.infix_nil.mp h) hne
  | cons part parts ih =>
    rw [join] at h
    cases parts with
    | nil => exact ⟨part, List.mem_singleton_self part, by simpa using h⟩
    | cons next parts =>
      rw [List.intercalate_cons_of_ne_nil (List.cons_ne_nil _ _), List.append_assoc] at h
      rcases infix_or_infix_of_infix_append_cons hpiece h with hpart | hrest
      · exact ⟨part, List.mem_cons_self, hpart⟩
      · obtain ⟨found, hfound, hwithin⟩ := ih hrest
        exact ⟨found, List.mem_cons_of_mem _ hfound, hwithin⟩

end Character

section Once

theorem splitOnce_append {mark : Char} {front : Text} (h : mark ∉ front) (s : Text) :
    splitOnce mark (front ++ mark :: s) = some (front, s) := by
  induction front with
  | nil => simp [splitOnce]
  | cons c front ih =>
    rw [List.mem_cons, not_or] at h
    simp [splitOnce, Ne.symm h.1, ih h.2]

/-- The first occurrence of a mark is in one place only. -/
theorem append_cons_inj {mark : Char} {front back front' back' : Text} (h : mark ∉ front)
    (h' : mark ∉ front') (heq : front ++ mark :: back = front' ++ mark :: back') :
    front = front' ∧ back = back' := by
  have hcut := splitOnce_append h back
  rw [heq, splitOnce_append h', Option.some.injEq, Prod.mk.injEq] at hcut
  exact ⟨hcut.1.symm, hcut.2.symm⟩

theorem splitOnce_eq_none {mark : Char} {s : Text} (h : mark ∉ s) :
    splitOnce mark s = none := by
  induction s with
  | nil => rfl
  | cons c s ih =>
    rw [List.mem_cons, not_or] at h
    simp [splitOnce, Ne.symm h.1, ih h.2]

theorem eq_of_splitOnce {mark : Char} {s front back : Text}
    (h : splitOnce mark s = some (front, back)) : s = front ++ mark :: back := by
  induction s generalizing front with
  | nil => cases h
  | cons c s ih =>
    rw [splitOnce] at h
    split at h
    · rename_i hc
      obtain ⟨rfl, rfl⟩ := Prod.mk.inj (Option.some.inj h)
      rw [hc]
      rfl
    · obtain ⟨⟨first, last⟩, hs, heq⟩ := Option.map_eq_some_iff.mp h
      obtain ⟨rfl, rfl⟩ := Prod.mk.inj heq
      rw [ih hs]
      rfl

end Once

end RecordSearch.Text
