import Mathlib.Tactic.MkIffOfInductiveProp
import RecordSearch.Proofs.Text.Ends
import RecordSearch.Proofs.Text.Split
import RecordSearch.Settings.Basic

/-!
# Operators and their operands

The default operators have a single character for their symbol, which is no part of their word.
Writing the symbol for the word between blanks is then done once and for all, and the operands of a
text are the parts between the symbols. An operator in front of a text is found there, and only one
that begins like the text is.
-/

namespace RecordSearch.Operator

/-- The word of an operator between blanks. -/
def middleWord (op : Operator) : Text := ' ' :: op.word ++ [' ']

/-- The symbol of the operator is a character other than a blank and no part of its word. -/
@[mk_iff]
structure MarkedBy (op : Operator) (mark : Char) : Prop where
  symbol_eq : op.symbol = [mark]
  word_ne_nil : op.word ≠ []
  not_mem_word : mark ∉ op.word
  not_blank : Text.isBlank mark = false
  word_not_blank : ∃ c ∈ op.word, Text.isBlank c = false

/-- The characters of the word are tried one by one, not all characters there are. -/
instance (op : Operator) (mark : Char) : Decidable (op.MarkedBy mark) :=
  decidable_of_iff (op.symbol = [mark] ∧ op.word ≠ [] ∧ mark ∉ op.word ∧
    Text.isBlank mark = false ∧ op.word.any fun c ↦ !Text.isBlank c) (by simp [markedBy_iff])

section MarkedBy

variable {op : Operator} {mark : Char} {s : Text}

theorem middleWord_ne_nil (op : Operator) : op.middleWord ≠ [] :=
  List.cons_ne_nil _ _

theorem MarkedBy.not_mem_middleWord (h : op.MarkedBy mark) : mark ∉ op.middleWord := by
  have hspace : mark ≠ ' ' := fun hmark ↦ by
    have := h.not_blank
    rw [hmark] at this
    exact absurd this (by decide)
  simp [middleWord, hspace, h.not_mem_word]

theorem MarkedBy.middleWord?_eq (h : op.MarkedBy mark) : op.middleWord? = some op.middleWord := by
  rw [middleWord?, if_neg (by simpa using h.word_ne_nil)]
  rfl

theorem MarkedBy.occursIn_iff (h : op.MarkedBy mark) :
    op.occursIn s ↔ mark ∈ s ∨ op.middleWord <:+: s := by
  rw [occursIn, h.symbol_eq, h.middleWord?_eq, Bool.or_eq_true, Text.contains_iff,
    Text.contains_iff, List.singleton_infix_iff]

theorem MarkedBy.normalize_eq (h : op.MarkedBy mark) (s : Text) :
    op.normalize s = Text.replace op.middleWord [mark] s := by
  rw [normalize, h.middleWord?_eq, h.symbol_eq]

theorem MarkedBy.normalize_of_absent (h : op.MarkedBy mark) (hs : ¬ op.middleWord <:+: s) :
    op.normalize s = s := by
  rw [h.normalize_eq, Text.replace_of_absent op.middleWord_ne_nil hs]

theorem MarkedBy.normalize_normalize (h : op.MarkedBy mark) (s : Text) :
    op.normalize (op.normalize s) = op.normalize s := by
  apply h.normalize_of_absent
  rw [h.normalize_eq]
  exact Text.not_infix_replace op.middleWord_ne_nil h.not_mem_middleWord s

theorem MarkedBy.split_normalize (h : op.MarkedBy mark) (s : Text) :
    op.split (op.normalize s) = op.split s := by
  rw [split, h.normalize_normalize, split]

theorem MarkedBy.split_eq (h : op.MarkedBy mark) (s : Text) :
    op.split s =
      ((List.splitOn mark (op.normalize s)).map Text.trim).filter fun part ↦ !part.isEmpty := by
  rw [split, h.symbol_eq, Text.splitOn_character]

theorem MarkedBy.normalize_append (h : op.MarkedBy mark) (s t : Text) :
    op.normalize (s ++ mark :: t) = op.normalize s ++ mark :: op.normalize t := by
  simp only [h.normalize_eq]
  exact Text.replace_append_cons op.middleWord_ne_nil h.not_mem_middleWord s t

/-- The operands of two texts with the symbol between them are those of both. -/
theorem MarkedBy.split_append (h : op.MarkedBy mark) (s t : Text) :
    op.split (s ++ mark :: t) = op.split s ++ op.split t := by
  simp only [h.split_eq, h.normalize_append, List.splitOn_append_cons_self, List.map_append,
    List.filter_append]

theorem mem_split {part : Text} (h : part ∈ op.split s) : Text.trim part = part ∧ part ≠ [] := by
  obtain ⟨hmap, hne⟩ := List.mem_filter.mp h
  obtain ⟨raw, -, rfl⟩ := List.mem_map.mp hmap
  exact ⟨Text.trim_trim raw, by simpa using hne⟩

theorem MarkedBy.not_occursIn_blank (h : op.MarkedBy mark) (hs : Text.trim s = []) :
    mark ∉ s ∧ ¬ op.middleWord <:+: s := by
  have hblank := Text.trim_eq_nil_iff.mp hs
  refine ⟨fun hmark ↦ ?_, fun hword ↦ ?_⟩
  · exact absurd (hblank mark hmark) (by simp [h.not_blank])
  · obtain ⟨c, hc, hnot⟩ := h.word_not_blank
    have hmem : c ∈ s := hword.subset (by simp [middleWord, hc])
    exact absurd (hblank c hmem) (by simp [hnot])

/-- A blank text has no operands. -/
theorem MarkedBy.split_of_blank (h : op.MarkedBy mark) (hs : Text.trim s = []) :
    op.split s = [] := by
  obtain ⟨hmark, hword⟩ := h.not_occursIn_blank hs
  rw [h.split_eq, h.normalize_of_absent hword, List.splitOn_eq_singleton hmark]
  simp [hs]

theorem MarkedBy.trim_normalize_ne_nil (h : op.MarkedBy mark) (hs : op.split s ≠ []) :
    Text.trim (op.normalize s) ≠ [] := fun hblank ↦
  hs ((h.split_normalize s).symm.trans (h.split_of_blank hblank))

/-- A text without the operator is its own operand. -/
theorem MarkedBy.split_of_not_occursIn (h : op.MarkedBy mark) (hs : op.occursIn s = false)
    (hne : Text.trim s ≠ []) : op.split s = [Text.trim s] := by
  rw [← Bool.not_eq_true, h.occursIn_iff, not_or] at hs
  rw [h.split_eq, h.normalize_of_absent hs.2, List.splitOn_eq_singleton hs.1]
  simp [hne]

/-- An operator with a character that a text does not have does not stand in it. -/
theorem MarkedBy.not_occursIn_of_forall (h : op.MarkedBy mark) {chars : Text}
    (hmark : mark ∉ chars) (hword : ∃ c ∈ op.word, c ∉ chars) (hs : ∀ c ∈ s, c ∈ chars) :
    op.occursIn s = false := by
  rw [← Bool.not_eq_true, h.occursIn_iff]
  rintro (hmem | hmiddle)
  · exact hmark (hs mark hmem)
  · obtain ⟨c, hc, hnot⟩ := hword
    exact hnot (hs c (hmiddle.subset (by simp [middleWord, hc])))

section Before

/-- An operator in front of an operand, as its symbol or as its word. -/
def before (op : Operator) (byWord : Bool) (s : Text) : Text :=
  if byWord then op.word ++ ' ' :: s else op.symbol ++ s

theorem MarkedBy.leadingWord?_eq (h : op.MarkedBy mark) :
    op.leadingWord? = some (op.word ++ [' ']) := by
  rw [leadingWord?, if_neg (by simpa using h.word_ne_nil)]

/-- The operand after the symbol or the word is read, trimmed. -/
theorem MarkedBy.operand?_before (h : op.MarkedBy mark) (byWord : Bool) (s : Text) :
    op.operand? (op.before byWord s) = some (Text.trim s) := by
  cases byWord with
  | false =>
    have hdrop : Text.dropFront? op.symbol (op.symbol ++ s) = some s :=
      Text.dropFront?_eq_some_iff.mpr rfl
    simp only [operand?, before, Bool.false_eq_true, if_false, hdrop]
  | true =>
    have hsymbol : Text.dropFront? op.symbol (op.word ++ ' ' :: s) = none := by
      rw [h.symbol_eq]
      apply Text.dropFront?_eq_none
      rintro ⟨rest, hrest⟩
      cases hword : op.word with
      | nil => exact h.word_ne_nil hword
      | cons c word =>
        rw [hword, List.cons_append, List.cons_append, List.cons.injEq] at hrest
        exact h.not_mem_word (by simp [hword, hrest.1])
    have hdrop : Text.dropFront? (op.word ++ [' ']) (op.word ++ ' ' :: s) = some s :=
      Text.dropFront?_eq_some_iff.mpr (by simp)
    simp only [operand?, before, if_true, hsymbol, h.leadingWord?_eq, Option.bind_some, hdrop,
      Option.map_some]

/-- A text that begins like neither the symbol nor the word has no operand. -/
theorem MarkedBy.operand?_eq_none (h : op.MarkedBy mark) {c : Char} (hhead : s.head? = some c)
    (hmark : c ≠ mark) (hword : op.word.head? ≠ some c) : op.operand? s = none := by
  cases s with
  | nil => cases hhead
  | cons d s =>
    obtain rfl : d = c := by simpa using hhead
    have hsymbol : Text.dropFront? op.symbol (d :: s) = none := by
      simp [h.symbol_eq, Text.dropFront?, hmark.symm]
    have hleading : Text.dropFront? (op.word ++ [' ']) (d :: s) = none := by
      cases hop : op.word with
      | nil => exact absurd hop h.word_ne_nil
      | cons e word =>
        have hne : e ≠ d := by simpa [hop] using hword
        simp [Text.dropFront?, hne]
    simp only [operand?, hsymbol, h.leadingWord?_eq, Option.bind_some, hleading, Option.map_none]

end Before

section Join

variable {parts : List Text}

theorem MarkedBy.normalize_join (h : op.MarkedBy mark)
    (hparts : ∀ part ∈ parts, op.occursIn part = false) :
    op.normalize (Text.join [mark] parts) = Text.join [mark] parts := by
  apply h.normalize_of_absent
  intro hwithin
  obtain ⟨part, hpart, hword⟩ :=
    Text.infix_of_infix_join h.not_mem_middleWord op.middleWord_ne_nil hwithin
  exact absurd (h.occursIn_iff.mpr (.inr hword)) (by simp [hparts part hpart])

/-- Joined operands are cut apart again. -/
theorem MarkedBy.split_join (h : op.MarkedBy mark)
    (hparts : ∀ part ∈ parts, op.occursIn part = false)
    (htrim : ∀ part ∈ parts, Text.trim part = part) (hblank : ∀ part ∈ parts, part ≠ [])
    (hne : parts ≠ []) :
    op.split (Text.join [mark] parts) = parts := by
  have hmark : ∀ part ∈ parts, mark ∉ part := fun part hpart hmem ↦
    absurd (h.occursIn_iff.mpr (.inl hmem)) (by simp [hparts part hpart])
  rw [split, h.normalize_join hparts, h.symbol_eq, Text.splitOn_join hmark hne,
    List.map_congr_left htrim, List.map_id', List.filter_eq_self]
  simpa using hblank

/-- An operator stands in texts joined by another mark only where it stands in one of them. -/
theorem MarkedBy.not_occursIn_join (h : op.MarkedBy mark) {other : Char} (hother : other ≠ mark)
    (hword : other ∉ op.middleWord) (hparts : ∀ part ∈ parts, op.occursIn part = false) :
    op.occursIn (Text.join [other] parts) = false := by
  rw [← Bool.not_eq_true, h.occursIn_iff, ← List.singleton_infix_iff]
  have hsymbol : other ∉ [mark] := by simpa using hother
  rintro (hmark | hmiddle)
  · obtain ⟨part, hpart, hmark⟩ :=
      Text.infix_of_infix_join hsymbol (List.cons_ne_nil _ _) hmark
    rw [List.singleton_infix_iff] at hmark
    exact absurd (h.occursIn_iff.mpr (.inl hmark)) (by simp [hparts part hpart])
  · obtain ⟨part, hpart, hmiddle⟩ :=
      Text.infix_of_infix_join hword op.middleWord_ne_nil hmiddle
    exact absurd (h.occursIn_iff.mpr (.inr hmiddle)) (by simp [hparts part hpart])

end Join

end MarkedBy

end RecordSearch.Operator

namespace RecordSearch

/-- The operators of expressions and of single values are marked by their usual characters. -/
structure Operators.Marked (ops : Operators) : Prop where
  not : ops.not.MarkedBy '!'
  and : ops.and.MarkedBy '&'
  or : ops.or.MarkedBy '|'
  like : ops.like.MarkedBy '~'
  less : ops.less.MarkedBy '<'
  greater : ops.greater.MarkedBy '>'

theorem Operators.marked_default : Operators.default.Marked := by
  constructor <;> decide

/-- Whether a character begins neither NOT nor the literal for a missing value. -/
def beginsPlainly (c : Char) : Bool :=
  c != '!' && c != 'N' && c.toLower != 'n'

theorem Settings.plain_of_head {settings : Settings} {s : Text} {c : Char}
    (hoperators : settings.operators = .default) (hhead : s.head? = some c)
    (hplain : beginsPlainly c) :
    settings.operators.not.operand? s = none ∧ settings.isNullToken s = false := by
  have hplain : (c ≠ '!' ∧ c ≠ 'N') ∧ c.toLower ≠ 'n' := by simpa [beginsPlainly] using hplain
  obtain ⟨⟨hmark, hupper⟩, hlower⟩ := hplain
  have hnot : settings.operators.not.MarkedBy '!' := hoperators ▸ Operators.marked_default.not
  have hnull : settings.operators.null = ['N', 'U', 'L', 'L'] := by
    rw [hoperators]
    rfl
  have hn : Char.toLower 'N' = 'n' := by decide
  constructor
  · apply hnot.operand?_eq_none hhead hmark
    simpa [hoperators, Operators.default] using hupper.symm
  · cases s with
    | nil => cases hhead
    | cons d s =>
      obtain rfl : d = c := by simpa using hhead
      rw [isNullToken, Text.equalsIgnoringAsciiCase, hnull]
      simp [hupper, hlower, hn]

end RecordSearch
