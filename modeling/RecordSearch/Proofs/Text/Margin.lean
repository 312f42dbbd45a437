import RecordSearch.Proofs.Text.Ends
import RecordSearch.Proofs.Text.Split

/-!
# The margins of texts

The blanks in front of a text and behind it are its margins. A piece whose occurrences are clear of
the margins is found, replaced and cut at as in the trimmed text, and the margins stay at the ends
of what is left.
-/

namespace RecordSearch.Text

/-- The blanks in front of a text. -/
def leftMargin (s : Text) : Text :=
  s.takeWhile isBlank

/-- The blanks behind a text, where any other character is in front of them. -/
def rightMargin (s : Text) : Text :=
  (trimStart s).rtakeWhile isBlank

theorem margins_append (s : Text) : leftMargin s ++ (trim s ++ rightMargin s) = s := by
  have hend : trim s ++ rightMargin s = trimStart s :=
    List.rdropWhile_append_rtakeWhile
  rw [hend]
  exact List.takeWhile_append_dropWhile

theorem trim_infix (s : Text) : trim s <:+: s :=
  ⟨leftMargin s, rightMargin s, by rw [List.append_assoc, margins_append]⟩

theorem isBlank_of_mem_leftMargin {s : Text} : ∀ c ∈ leftMargin s, isBlank c := fun _ ↦
  List.mem_takeWhile_imp

theorem isBlank_of_mem_rightMargin {s : Text} : ∀ c ∈ rightMargin s, isBlank c := fun _ ↦
  List.mem_rtakeWhile_imp

/-- No occurrence of a piece reaches into the margins of a text. -/
def ClearOfMargins (piece s : Text) : Prop :=
  ∀ u v, s = u ++ (piece ++ v) → leftMargin s <+: u ∧ rightMargin s <:+ v

/-- The occurrences of a piece in a text between two others all lie in the text itself. -/
def Between (piece front s back : Text) : Prop :=
  ∀ u v, front ++ (s ++ back) = u ++ (piece ++ v) → front <+: u ∧ back <:+ v

theorem clearOfMargins_iff {piece s : Text} :
    ClearOfMargins piece s ↔ Between piece (leftMargin s) (trim s) (rightMargin s) := by
  rw [ClearOfMargins, Between, margins_append]

instance (piece s : Text) : Decidable (ClearOfMargins piece s) :=
  decidable_of_iff (∀ n < s.length + 1, piece <+: s.drop n →
      leftMargin s <+: s.take n ∧ rightMargin s <:+ (s.drop n).drop piece.length) <| by
    constructor
    · rintro h u v hs
      have hbound : u.length < s.length + 1 := by
        rw [hs, List.length_append]
        omega
      have hdrop : s.drop u.length = piece ++ v := by
        rw [hs, List.drop_left]
      have htake : s.take u.length = u := by
        rw [hs, List.take_left]
      have := h u.length hbound (hdrop ▸ List.prefix_append piece v)
      rwa [htake, hdrop, List.drop_left] at this
    · rintro h n - ⟨v, hv⟩
      rw [← hv, List.drop_left]
      apply h
      rw [hv, List.take_append_drop]

theorem takeWhile_append_prefix {test : Char → Bool} {u t : Text}
    (ht : ∀ c ∈ t.head?, test c = false) : (u ++ t).takeWhile test <+: u := by
  have hnone : t.takeWhile test = [] := by
    cases t with
    | nil => rfl
    | cons c t => exact List.takeWhile_cons_of_neg (by simp [ht c rfl])
  rw [List.takeWhile_append]
  split
  · rw [hnone, List.append_nil]
  · exact List.takeWhile_prefix test

/-- A piece without blanks at its ends is clear of the margins of every text. -/
theorem clearOfMargins_of_trim {piece : Text} (hpiece : trim piece = piece) (hne : piece ≠ [])
    (s : Text) : ClearOfMargins piece s := by
  rintro u v rfl
  have hleft : leftMargin (u ++ (piece ++ v)) <+: u := by
    apply takeWhile_append_prefix
    rw [List.head?_append_of_ne_nil _ hne, ← hpiece]
    exact head?_trim piece
  refine ⟨hleft, ?_⟩
  obtain ⟨rest, hrest⟩ := hleft
  have hstart : trimStart (u ++ (piece ++ v)) = rest ++ (piece ++ v) := by
    have hsplit := List.takeWhile_append_dropWhile (p := isBlank) (l := u ++ (piece ++ v))
    conv_rhs at hsplit => rw [← hrest, List.append_assoc]
    exact List.append_cancel_left hsplit
  have hlast : ∀ c ∈ (piece.reverse ++ rest.reverse).head?, isBlank c = false := by
    rw [List.head?_append_of_ne_nil _ (by simpa using hne), List.head?_reverse, ← hpiece]
    exact getLast?_trimEnd _
  have hprefix := takeWhile_append_prefix (u := v.reverse) hlast
  rw [rightMargin, hstart, List.rtakeWhile]
  have hreverse : (rest ++ (piece ++ v)).reverse =
      v.reverse ++ (piece.reverse ++ rest.reverse) := by
    simp
  rw [hreverse, ← List.reverse_prefix, List.reverse_reverse]
  exact hprefix

section Between

variable {piece substitute front s back : Text} {c : Char}

theorem Between.infix_iff (h : Between piece front s back) :
    piece <:+: front ++ (s ++ back) ↔ piece <:+: s := by
  constructor
  · rintro ⟨u, v, huv⟩
    rw [List.append_assoc] at huv
    obtain ⟨⟨u, rfl⟩, v, rfl⟩ := h u v huv.symm
    have hs : (u ++ (piece ++ v)) ++ back = s ++ back := by simpa using huv
    exact ⟨u, v, by simpa using List.append_cancel_right hs⟩
  · rintro ⟨u, v, rfl⟩
    exact ⟨front ++ u, v ++ back, by simp⟩

theorem Between.of_cons (h : Between piece (c :: front) s back) : Between piece front s back := by
  intro u v huv
  obtain ⟨hfront, hback⟩ := h (c :: u) v (by rw [List.cons_append, huv]; rfl)
  exact ⟨(List.cons_prefix_cons.mp hfront).2, hback⟩

theorem Between.of_append {t : Text} (h : Between piece [] (t ++ s) back) :
    Between piece [] s back := by
  intro u v huv
  obtain ⟨-, hback⟩ := h (t ++ u) v (by simpa using huv)
  exact ⟨List.nil_prefix, hback⟩

theorem Between.not_prefix (h : Between piece (c :: front) s back) :
    ¬ piece <+: c :: (front ++ (s ++ back)) := by
  rintro ⟨v, hv⟩
  obtain ⟨hfront, -⟩ := h [] v (by simpa using hv.symm)
  exact absurd (List.prefix_nil.mp hfront) (List.cons_ne_nil _ _)

theorem Between.prefix_of_prefix (h : Between piece [] s back) (hs : piece <+: s ++ back) :
    piece <+: s := by
  obtain ⟨v, hv⟩ := hs
  obtain ⟨-, v, rfl⟩ := h [] v (by simpa using hv.symm)
  exact ⟨v, List.append_cancel_right (by simpa using hv)⟩

variable (hpiece : piece ≠ [])

include hpiece

theorem Between.not_infix_back (h : Between piece [] [] back) : ¬ piece <:+: back := fun hback ↦ by
  have hnil : piece <:+: [] := h.infix_iff.mp (by simpa using hback)
  exact hpiece (List.infix_nil.mp hnil)

/-- Replacing between two texts leaves them as they are. -/
theorem Between.replace_eq (h : Between piece front s back) :
    replace piece substitute (front ++ (s ++ back)) =
      front ++ (replace piece substitute s ++ back) := by
  induction front with
  | nil =>
    rw [List.nil_append, List.nil_append]
    induction s using cut_induction hpiece with
    | nil =>
      rw [List.nil_append, replace_nil hpiece, List.nil_append,
        replace_of_absent hpiece (h.not_infix_back hpiece)]
    | append s ih =>
      rw [List.append_assoc, replace_append hpiece, replace_append hpiece, ih h.of_append,
        List.append_assoc]
    | cons c s hstarts ih =>
      have hrest : Between piece [] s back := Between.of_append (t := [c]) h
      have hwhole : ¬ piece <+: c :: (s ++ back) := mt h.prefix_of_prefix hstarts
      rw [List.cons_append, replace_cons hpiece hwhole, replace_cons hpiece hstarts, ih hrest,
        List.cons_append]
  | cons c front ih =>
    rw [List.cons_append, replace_cons hpiece h.not_prefix, ih h.of_cons, List.cons_append]

omit hpiece in
theorem map_trim_pushFirst (hc : isBlank c) {parts : List Text} (hne : parts ≠ []) :
    (pushFirst c parts).map trim = parts.map trim := by
  cases parts with
  | nil => exact absurd rfl hne
  | cons part parts =>
    have hblank : ∀ d ∈ [c], isBlank d := by simpa using hc
    have hpart : trim (c :: part) = trim part := trim_append_of_blank_front hblank
    rw [pushFirst, List.map_cons, List.map_cons, hpart]

omit hpiece in
theorem cutFrom_of_absent (h : ¬ piece <:+: s) : cutFrom piece 0 s = [s] := by
  induction s with
  | nil => rfl
  | cons c s ih =>
    obtain ⟨hstarts, hrest⟩ := not_or.mp (mt List.infix_cons_iff.mpr h)
    rw [cutFrom_cons hstarts, ih hrest, pushFirst]

omit hpiece in
theorem trimEnd_cons_congr {t : Text} (h : trimEnd s = trimEnd t) :
    trimEnd (c :: s) = trimEnd (c :: t) := by
  have hreverse : s.reverse.dropWhile isBlank = t.reverse.dropWhile isBlank :=
    List.reverse_injective h
  simp only [trimEnd, dropEnd, List.reverse_cons, List.dropWhile_append, hreverse]

omit hpiece in
theorem map_trimEnd_pushFirst {parts others : List Text}
    (h : parts.map trimEnd = others.map trimEnd) :
    (pushFirst c parts).map trimEnd = (pushFirst c others).map trimEnd := by
  cases parts with
  | nil =>
    obtain rfl : others = [] := List.map_eq_nil_iff.mp h.symm
    rfl
  | cons part parts =>
    cases others with
    | nil => cases h
    | cons other others =>
      obtain ⟨hfirst, hrest⟩ := List.cons.inj h
      simp only [pushFirst, List.map_cons, hrest, trimEnd_cons_congr hfirst]

/-- Blanks behind a text are at the end of its last part when it is cut. -/
theorem Between.map_trimEnd_cutFrom (h : Between piece [] s back) (hback : ∀ c ∈ back, isBlank c) :
    (cutFrom piece 0 (s ++ back)).map trimEnd = (cutFrom piece 0 s).map trimEnd := by
  induction s using cut_induction hpiece with
  | nil =>
    have hend : trimEnd back = [] := List.rdropWhile_eq_nil_iff.mpr hback
    rw [List.nil_append, cutFrom_of_absent (h.not_infix_back hpiece), cutFrom]
    simp only [List.map_cons, List.map_nil, hend]
    rfl
  | append s ih =>
    rw [List.append_assoc, cutFrom_append hpiece, cutFrom_append hpiece, List.map_cons,
      List.map_cons, ih h.of_append]
  | cons c s hstarts ih =>
    have hrest : Between piece [] s back := Between.of_append (t := [c]) h
    have hwhole : ¬ piece <+: c :: (s ++ back) := mt h.prefix_of_prefix hstarts
    rw [List.cons_append, cutFrom_cons hwhole, cutFrom_cons hstarts]
    exact map_trimEnd_pushFirst (ih hrest)

omit hpiece in
/-- Between blanks a text is cut into the same parts, but for the blanks around them. -/
theorem Between.map_trim_splitOn (h : Between piece front s back)
    (hfront : ∀ c ∈ front, isBlank c) (hback : ∀ c ∈ back, isBlank c) :
    (splitOn piece (front ++ (s ++ back))).map trim = (splitOn piece s).map trim := by
  by_cases hpiece : piece = []
  · -- an empty piece stands at both ends, so there are no blanks
    subst hpiece
    obtain ⟨hnoFront, -⟩ := h [] (front ++ (s ++ back)) (by simp)
    obtain ⟨-, hnoBack⟩ := h (front ++ (s ++ back)) [] (by simp)
    rw [List.prefix_nil.mp hnoFront, List.suffix_nil.mp hnoBack, List.nil_append, List.append_nil]
  · simp only [splitOn_of_ne_nil hpiece]
    induction front with
    | nil =>
      have hends := congrArg (List.map trim) (h.map_trimEnd_cutFrom hpiece hback)
      simpa [List.map_map, Function.comp_def] using hends
    | cons c front ih =>
      obtain ⟨hc, hfront⟩ := List.forall_mem_cons.mp hfront
      rw [List.cons_append, cutFrom_cons h.not_prefix,
        map_trim_pushFirst hc (cutFrom_ne_nil _ _), ih h.of_cons hfront]

end Between

section Spaced

variable {piece substitute s : Text}

theorem getLast?_replace_eq (hpiece : piece ≠ []) (h : s.getLast? ≠ piece.getLast?) :
    (replace piece substitute s).getLast? = s.getLast? := by
  induction s using cut_induction hpiece with
  | nil => rw [replace_nil hpiece]
  | append s ih =>
    have hne : s ≠ [] := by
      rintro rfl
      exact h (by rw [List.append_nil])
    rw [List.getLast?_append_of_ne_nil _ hne] at h ⊢
    have hlast := ih h
    have hreplaced : replace piece substitute s ≠ [] := fun hnil ↦ by
      rw [hnil] at hlast
      exact hne (List.getLast?_eq_none_iff.mp hlast.symm)
    rw [replace_append hpiece, List.getLast?_append_of_ne_nil _ hreplaced, hlast]
  | cons c s hstarts ih =>
    rw [replace_cons hpiece hstarts]
    cases s with
    | nil => rw [replace_nil hpiece]
    | cons d s =>
      rw [List.getLast?_cons_cons] at h ⊢
      rw [List.getLast?_cons, ih h, List.getLast?_cons, Option.getD_some]

/-- A trimmed text stays trimmed if what is replaced in it begins and ends with a blank. -/
theorem trim_replace_of_trim (hpiece : piece ≠ []) (hhead : ∀ c ∈ piece.head?, isBlank c)
    (hlast : ∀ c ∈ piece.getLast?, isBlank c) (hs : trim s = s) :
    trim (replace piece substitute s) = replace piece substitute s := by
  have hheadS := head?_trim s
  have hlastS : ∀ c ∈ (trim s).getLast?, isBlank c = false := getLast?_trimEnd _
  rw [hs] at hheadS hlastS
  cases s with
  | nil => rw [replace_nil hpiece, trim]; rfl
  | cons c s =>
    have hc : isBlank c = false := hheadS c rfl
    have hstarts : ¬ piece <+: c :: s := by
      cases piece with
      | nil => exact absurd rfl hpiece
      | cons d piece =>
        intro hprefix
        obtain ⟨rfl, -⟩ := List.cons_prefix_cons.mp hprefix
        exact absurd (hhead d rfl) (by simp [hc])
    have hends : (c :: s).getLast? ≠ piece.getLast? := fun heq ↦ by
      obtain ⟨d, hd⟩ : ∃ d, (c :: s).getLast? = some d := ⟨_, List.getLast?_cons⟩
      exact absurd (hlast d (heq ▸ hd)) (by simp [hlastS d hd])
    apply trim_of_ends
    · rw [replace_cons hpiece hstarts]
      exact fun d hd ↦ Option.some.inj hd ▸ hc
    · rw [getLast?_replace_eq hpiece hends]
      exact hlastS

end Spaced

section Clear

variable {piece substitute s : Text} (h : ClearOfMargins piece s)

include h

theorem ClearOfMargins.contains_trim : contains piece (trim s) = contains piece s := by
  have hinfix := (clearOfMargins_iff.mp h).infix_iff
  rw [margins_append] at hinfix
  rw [Bool.eq_iff_iff, contains_iff, contains_iff, hinfix]

/-- Replacing in a text is replacing in the trimmed text, whatever is around it. -/
theorem ClearOfMargins.trim_replace (hpiece : piece ≠ []) (hhead : ∀ c ∈ piece.head?, isBlank c)
    (hlast : ∀ c ∈ piece.getLast?, isBlank c) :
    trim (replace piece substitute s) = replace piece substitute (trim s) := by
  have hreplace : replace piece substitute (leftMargin s ++ (trim s ++ rightMargin s)) = _ :=
    (clearOfMargins_iff.mp h).replace_eq hpiece
  rw [margins_append] at hreplace
  calc
    trim (replace piece substitute s) =
        trim (leftMargin s ++ (replace piece substitute (trim s) ++ rightMargin s)) := by
      rw [hreplace]
    _ = trim (replace piece substitute (trim s) ++ rightMargin s) :=
      trim_append_of_blank_front isBlank_of_mem_leftMargin
    _ = trim (replace piece substitute (trim s)) :=
      trim_append_of_blank isBlank_of_mem_rightMargin
    _ = replace piece substitute (trim s) :=
      trim_replace_of_trim hpiece hhead hlast (trim_trim s)

theorem ClearOfMargins.map_trim_splitOn :
    (splitOn piece s).map trim = (splitOn piece (trim s)).map trim := by
  have hparts := (clearOfMargins_iff.mp h).map_trim_splitOn isBlank_of_mem_leftMargin
    isBlank_of_mem_rightMargin
  rwa [margins_append] at hparts

end Clear

end RecordSearch.Text
