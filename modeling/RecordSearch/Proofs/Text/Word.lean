import RecordSearch.Proofs.Text.Split

/-!
# Words between blanks

A word stands in a text if a blank or an end of the text is on either side of it. Where texts are
put together at a blank, or at a character that a word does not have, the word stands in the whole
only if it stands in one of them.
-/

namespace RecordSearch.Text

/-- A text with a blank at either end. -/
def spaced (s : Text) : Text := ' ' :: s ++ [' ']

/-- Whether a word stands in a text, with a blank or an end of the text on either side. -/
def HasWord (word s : Text) : Prop := spaced word <:+: spaced s

instance (word s : Text) : Decidable (HasWord word s) :=
  inferInstanceAs (Decidable (spaced word <:+: spaced s))

variable {word s t : Text} {mark : Char}

theorem spaced_ne_nil (s : Text) : spaced s ≠ [] :=
  List.cons_ne_nil _ _

theorem spaced_append_cons (s t : Text) (c : Char) :
    spaced (s ++ c :: t) = (' ' :: s) ++ c :: (t ++ [' ']) := by
  simp [spaced]

theorem hasWord_of_infix_concat (h : spaced word <:+: s ++ [' ']) : HasWord word s :=
  List.infix_cons h

theorem hasWord_of_infix (h : spaced word <:+: s) : HasWord word s :=
  hasWord_of_infix_concat (h.trans (List.prefix_append s [' ']).isInfix)

/-- A word of two texts with a character between them that is none of its own is a word of one of
them. -/
theorem HasWord.of_append_mark (hmark : mark ∉ spaced word) (h : HasWord word (s ++ mark :: t)) :
    HasWord word s ∨ HasWord word t := by
  rw [HasWord, spaced_append_cons] at h
  rcases infix_or_infix_of_infix_append_cons hmark h with hs | ht
  · exact .inl (hs.trans (List.prefix_append _ [' ']).isInfix)
  · exact .inr (hasWord_of_infix_concat ht)

/-- A word and the mark behind it do not reach across an earlier mark. -/
theorem prefix_concat_of_prefix_append_cons (hword : mark ∉ word)
    (h : word ++ [mark] <+: s ++ mark :: t) : word ++ [mark] <+: s ++ [mark] := by
  have hfront : s ++ [mark] <+: s ++ mark :: t := ⟨t, by simp⟩
  rcases List.prefix_or_prefix_of_prefix h hfront with hwithin | hacross
  · exact hwithin
  · rcases List.prefix_concat_iff.mp hacross with heq | hbegins
    · rw [heq]
    · exact absurd (hbegins.subset (by simp)) hword

section Blank

variable (hblank : ' ' ∉ word)

include hblank

theorem spaced_prefix_concat {c : Char} (h : spaced word <+: c :: (s ++ ' ' :: t)) :
    spaced word <+: c :: (s ++ [' ']) := by
  obtain ⟨rfl, hrest⟩ := List.cons_prefix_cons.mp h
  exact List.cons_prefix_cons.mpr ⟨rfl, prefix_concat_of_prefix_append_cons hblank hrest⟩

theorem spaced_infix_of_append_blank (h : spaced word <:+: s ++ ' ' :: t) :
    spaced word <:+: s ++ [' '] ∨ spaced word <:+: ' ' :: t := by
  induction s with
  | nil => exact .inr h
  | cons c s ih =>
    rcases List.infix_cons_iff.mp h with hbegins | hrest
    · exact .inl (spaced_prefix_concat hblank hbegins).isInfix
    · exact (ih hrest).imp_left List.infix_cons

/-- A word of two texts with a blank between them is a word of one of them. -/
theorem HasWord.of_append_blank (h : HasWord word (s ++ ' ' :: t)) :
    HasWord word s ∨ HasWord word t := by
  rw [HasWord, spaced_append_cons] at h
  exact spaced_infix_of_append_blank hblank h

/-- Up to the blank behind it, a text without a word stays as it is when the word is replaced. -/
theorem replace_append_blank (substitute : Text) (h : ¬ spaced word <:+: s ++ [' ']) :
    replace (spaced word) substitute (s ++ ' ' :: t) =
      s ++ replace (spaced word) substitute (' ' :: t) := by
  induction s with
  | nil => rfl
  | cons c s ih =>
    obtain ⟨hfront, hrest⟩ := not_or.mp (mt List.infix_cons_iff.mpr h)
    have hbegins : ¬ spaced word <+: c :: (s ++ ' ' :: t) := fun hbegins ↦
      hfront (spaced_prefix_concat hblank hbegins)
    rw [List.cons_append, replace_cons (spaced_ne_nil word) hbegins, ih hrest, List.cons_append]

end Blank

end RecordSearch.Text
