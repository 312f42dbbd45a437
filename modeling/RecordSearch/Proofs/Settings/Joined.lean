import RecordSearch.Proofs.Settings.Operator
import RecordSearch.Proofs.Text.Word

/-!
# Joined operands

Operands are joined by an operator, at each joint as its symbol or as its word between blanks. An
operand in which neither stands is found again, whatever the spelling of the joints is. Operands of
one operator stay operands of it when another operator is put before or between them.
-/

namespace RecordSearch.Operator

/-- An operator between two operands, as its symbol or as its word between blanks. -/
def between (op : Operator) (byWord : Bool) : Text :=
  if byWord then op.middleWord else op.symbol

/-- Operands joined by an operator; each one behind the first comes with the spelling of the joint
in front of it. -/
def joined (op : Operator) : Text → List (Bool × Text) → Text
  | first, [] => first
  | first, (byWord, next) :: rest => first ++ op.between byWord ++ joined op next rest

/-- A trimmed text in which an operator does not stand, not even as a word at one of its ends. -/
structure IsOperand (op : Operator) (s : Text) : Prop where
  trimmed : Text.trim s = s
  ne_nil : s ≠ []
  no_symbol : ¬ op.symbol <:+: s
  no_word : ¬ Text.HasWord op.word s

instance (op : Operator) (s : Text) : Decidable (op.IsOperand s) :=
  decidable_of_iff (Text.trim s = s ∧ s ≠ [] ∧ ¬ op.symbol <:+: s ∧ ¬ Text.HasWord op.word s)
    ⟨fun ⟨htrim, hne, hsymbol, hword⟩ ↦ ⟨htrim, hne, hsymbol, hword⟩,
      fun h ↦ ⟨h.trimmed, h.ne_nil, h.no_symbol, h.no_word⟩⟩

/-- The symbol and the word of an operator do not come from those of another one. -/
structure Apart (op other : Operator) : Prop where
  symbol_apart : ∀ c ∈ op.symbol, c ∉ other.symbol ++ other.word
  word_apart : ∀ c ∈ other.symbol, c ∉ op.word
  no_word : ¬ Text.HasWord op.word other.word
  word_not_blank : ∀ c ∈ op.word ++ other.word, Text.isBlank c = false

theorem and_apart_or : Operators.default.and.Apart Operators.default.or :=
  ⟨by simp [Operators.default], by simp [Operators.default], by decide,
    by simp [Operators.default, Text.isBlank]⟩

theorem and_apart_not : Operators.default.and.Apart Operators.default.not :=
  ⟨by simp [Operators.default], by simp [Operators.default], by decide,
    by simp [Operators.default, Text.isBlank]⟩

theorem or_apart_not : Operators.default.or.Apart Operators.default.not :=
  ⟨by simp [Operators.default], by simp [Operators.default], by decide,
    by simp [Operators.default, Text.isBlank]⟩

variable {op other : Operator} {mark otherMark : Char} {first s : Text} {rest : List (Bool × Text)}

section Joined

variable (h : op.MarkedBy mark)

include h

theorem MarkedBy.symbol_infix_iff : op.symbol <:+: s ↔ mark ∈ s := by
  rw [h.symbol_eq, List.singleton_infix_iff]

theorem MarkedBy.not_occursIn_of_isOperand (hs : op.IsOperand s) : op.occursIn s = false := by
  rw [← Bool.not_eq_true, h.occursIn_iff, not_or]
  exact ⟨mt h.symbol_infix_iff.mpr hs.no_symbol, mt Text.hasWord_of_infix hs.no_word⟩

/-- An operand does not begin with the operator. -/
theorem MarkedBy.operand?_of_isOperand (hs : op.IsOperand s) : op.operand? s = none := by
  have hsymbol : Text.dropFront? op.symbol s = none :=
    Text.dropFront?_eq_none fun hbegins ↦ hs.no_symbol hbegins.isInfix
  have hword : Text.dropFront? (op.word ++ [' ']) s = none :=
    Text.dropFront?_eq_none fun hbegins ↦ hs.no_word <|
      (List.cons_prefix_cons.mpr ⟨rfl, hbegins.trans (List.prefix_append s [' '])⟩).isInfix
  simp only [operand?, hsymbol, h.leadingWord?_eq, Option.bind_some, hword, Option.map_none]

theorem MarkedBy.occursIn_joined (hrest : rest ≠ []) : op.occursIn (op.joined first rest) := by
  cases rest with
  | nil => exact absurd rfl hrest
  | cons next rest =>
    obtain ⟨byWord, next⟩ := next
    rw [h.occursIn_iff, joined]
    cases byWord with
    | false => exact .inl (by simp [between, h.symbol_eq])
    | true => exact .inr ⟨first, joined op next rest, rfl⟩

variable (hblank : ' ' ∉ op.word)

include hblank

/-- A joint is normalized to the symbol, whatever its spelling is. -/
theorem MarkedBy.normalize_between (hs : ¬ Text.HasWord op.word s) (byWord : Bool) (t : Text) :
    op.normalize (s ++ op.between byWord ++ t) = s ++ mark :: op.normalize t := by
  cases byWord with
  | false =>
    have hjoint : s ++ op.between false ++ t = s ++ mark :: t := by simp [between, h.symbol_eq]
    rw [hjoint, h.normalize_append, h.normalize_of_absent (mt Text.hasWord_of_infix hs)]
  | true =>
    have hjoint : s ++ op.between true ++ t = s ++ ' ' :: (op.word ++ ' ' :: t) := by
      simp [between, middleWord]
    have hword : ' ' :: (op.word ++ ' ' :: t) = op.middleWord ++ t := by simp [middleWord]
    have hfront : Text.replace op.middleWord [mark] (s ++ ' ' :: (op.word ++ ' ' :: t)) =
        s ++ Text.replace op.middleWord [mark] (' ' :: (op.word ++ ' ' :: t)) :=
      Text.replace_append_blank hblank [mark] (mt Text.hasWord_of_infix_concat hs)
    rw [hjoint, h.normalize_eq, h.normalize_eq, hfront, hword,
      Text.replace_append op.middleWord_ne_nil]
    rfl

variable (hparts : ∀ part ∈ first :: rest.map Prod.snd, op.IsOperand part)

include hparts

theorem MarkedBy.normalize_joined :
    op.normalize (op.joined first rest) = Text.join [mark] (first :: rest.map Prod.snd) := by
  induction rest generalizing first with
  | nil =>
    have hfirst := hparts first List.mem_cons_self
    rw [joined, h.normalize_of_absent (mt Text.hasWord_of_infix hfirst.no_word)]
    exact List.intercalate_singleton.symm
  | cons next rest ih =>
    obtain ⟨hfirst, hrest⟩ := List.forall_mem_cons.mp hparts
    rw [joined, h.normalize_between hblank hfirst.no_word, ih hrest, List.map_cons,
      Text.join, Text.join, List.intercalate_cons_cons, List.append_assoc]
    rfl

/-- Joined operands are found again. -/
theorem MarkedBy.split_joined : op.split (op.joined first rest) = first :: rest.map Prod.snd := by
  rw [← h.split_normalize, h.normalize_joined hblank hparts]
  exact h.split_join (fun part hpart ↦ h.not_occursIn_of_isOperand (hparts part hpart))
    (fun part hpart ↦ (hparts part hpart).trimmed) (fun part hpart ↦ (hparts part hpart).ne_nil)
    (List.cons_ne_nil _ _)

end Joined

/-- Joined operands are trimmed, since the first and the last one are. -/
theorem trim_joined
    (hparts : ∀ part ∈ first :: rest.map Prod.snd, Text.trim part = part ∧ part ≠ []) :
    Text.trim (op.joined first rest) = op.joined first rest ∧ op.joined first rest ≠ [] := by
  induction rest generalizing first with
  | nil => exact hparts first List.mem_cons_self
  | cons next rest ih =>
    obtain ⟨⟨hfirst, hne⟩, hrest⟩ := List.forall_mem_cons.mp hparts
    obtain ⟨htrim, hne'⟩ := ih hrest
    rw [joined]
    exact ⟨Text.trim_append_append hfirst hne htrim hne' _, by simp [hne]⟩

section Apart

theorem MarkedBy.mark_ne_blank (h : op.MarkedBy mark) : mark ≠ ' ' := fun hmark ↦ by
  have hnot := h.not_blank
  rw [hmark] at hnot
  exact absurd hnot (by decide)

theorem Apart.blank_not_mem (h : op.Apart other) : ' ' ∉ op.word := fun hblank ↦
  absurd (h.word_not_blank ' ' (List.mem_append_left _ hblank)) (by decide)

theorem MarkedBy.not_hasWord_nil (h : op.MarkedBy mark) : ¬ Text.HasWord op.word [] := by
  intro hword
  obtain ⟨c, hc, hnot⟩ := h.word_not_blank
  have hmem : c ∈ Text.spaced [] := hword.subset (by simp [Text.spaced, hc])
  have hblank : c = ' ' := by simpa [Text.spaced] using hmem
  rw [hblank] at hnot
  exact absurd hnot (by decide)

theorem Apart.otherMark_not_mem (hother : other.MarkedBy otherMark) (hapart : op.Apart other) :
    otherMark ∉ Text.spaced op.word := by
  have hword : otherMark ∉ op.word := hapart.word_apart otherMark (by simp [hother.symbol_eq])
  simp [Text.spaced, hword, hother.mark_ne_blank]

theorem Apart.mark_not_mem (h : op.MarkedBy mark) (hapart : op.Apart other) :
    mark ∉ other.symbol ∧ mark ∉ Text.spaced other.word := by
  have hmark : mark ∉ other.symbol ++ other.word := hapart.symbol_apart mark (by simp [h.symbol_eq])
  rw [List.mem_append, not_or] at hmark
  exact ⟨hmark.1, by simp [Text.spaced, hmark.2, h.mark_ne_blank]⟩

variable (h : op.MarkedBy mark) (hother : other.MarkedBy otherMark) (hapart : op.Apart other)

include h hother hapart

/-- Two operands of one operator joined by another one are again an operand of the first. -/
theorem IsOperand.append_between {t : Text} (hs : op.IsOperand s) (ht : op.IsOperand t)
    (byWord : Bool) : op.IsOperand (s ++ other.between byWord ++ t) where
  trimmed := Text.trim_append_append hs.trimmed hs.ne_nil ht.trimmed ht.ne_nil _
  ne_nil := by simp [hs.ne_nil]
  no_symbol := by
    obtain ⟨hsymbol, hspaced⟩ := hapart.mark_not_mem h
    have hjoint : mark ∉ other.between byWord := by cases byWord <;> assumption
    have hs := mt h.symbol_infix_iff.mpr hs.no_symbol
    have ht := mt h.symbol_infix_iff.mpr ht.no_symbol
    rw [h.symbol_infix_iff]
    simp [hs, ht, hjoint]
  no_word := by
    intro hword
    cases byWord with
    | false =>
      have hjoint : s ++ other.between false ++ t = s ++ otherMark :: t := by
        simp [between, hother.symbol_eq]
      rw [hjoint] at hword
      exact (hword.of_append_mark (hapart.otherMark_not_mem hother)).elim hs.no_word ht.no_word
    | true =>
      have hjoint : s ++ other.between true ++ t = s ++ ' ' :: (other.word ++ ' ' :: t) := by
        simp [between, middleWord]
      rw [hjoint] at hword
      rcases hword.of_append_blank hapart.blank_not_mem with hfirst | hword
      · exact hs.no_word hfirst
      · exact (hword.of_append_blank hapart.blank_not_mem).elim hapart.no_word ht.no_word

theorem IsOperand.joined (hparts : ∀ part ∈ first :: rest.map Prod.snd, op.IsOperand part) :
    op.IsOperand (other.joined first rest) := by
  induction rest generalizing first with
  | nil => exact hparts first List.mem_cons_self
  | cons next rest ih =>
    obtain ⟨hfirst, hrest⟩ := List.forall_mem_cons.mp hparts
    exact hfirst.append_between h hother hapart (ih hrest) next.1

/-- An operand of one operator stays one behind another operator. -/
theorem IsOperand.before (hs : op.IsOperand s) (byWord : Bool) :
    op.IsOperand (other.before byWord s) := by
  obtain ⟨hsymbol, hspaced⟩ := hapart.mark_not_mem h
  have hmark : mark ∉ s := mt h.symbol_infix_iff.mpr hs.no_symbol
  cases byWord with
  | false =>
    have hbefore : other.before false s = [otherMark] ++ [] ++ s := by
      simp [Operator.before, hother.symbol_eq]
    have htrim : Text.trim [otherMark] = [otherMark] :=
      Text.trim_of_forall (by simp [hother.not_blank])
    rw [hbefore]
    refine ⟨Text.trim_append_append htrim (List.cons_ne_nil _ _) hs.trimmed hs.ne_nil _,
      List.cons_ne_nil _ _, ?_, fun hword ↦ ?_⟩
    · rw [hother.symbol_eq] at hsymbol
      rw [h.symbol_infix_iff]
      simpa [hmark] using hsymbol
    · have hsplit : Text.HasWord op.word ([] ++ otherMark :: s) := hword
      exact (hsplit.of_append_mark (hapart.otherMark_not_mem hother)).elim h.not_hasWord_nil
        hs.no_word
  | true =>
    have hbefore : other.before true s = other.word ++ [' '] ++ s := by simp [Operator.before]
    have htrim : Text.trim other.word = other.word :=
      Text.trim_of_forall fun c hc ↦ hapart.word_not_blank c (List.mem_append_right _ hc)
    rw [hbefore]
    refine ⟨Text.trim_append_append htrim hother.word_ne_nil hs.trimmed hs.ne_nil _, by simp, ?_,
      fun hword ↦ ?_⟩
    · have hword : mark ∉ other.word ++ [' '] := fun hmem ↦ hspaced (List.mem_cons_of_mem _ hmem)
      rw [h.symbol_infix_iff, List.mem_append, not_or]
      exact ⟨hword, hmark⟩
    · have hsplit : Text.HasWord op.word (other.word ++ ' ' :: s) := by simpa using hword
      exact (hsplit.of_append_blank hapart.blank_not_mem).elim hapart.no_word hs.no_word

end Apart

end RecordSearch.Operator
