import RecordSearch.Proofs.Literal.Membership

/-!
# Exact alternatives

A quoted text and a number begin with a quote, a digit, a sign or a separator. No operator and no
literal for a missing value begins like that, so such an alternative is read as it stands.
-/

namespace RecordSearch.Literal

variable {settings : Settings} {type : SemanticType} {part : Text}

/-- The texts that stand for one value of a type: quoted texts without AND or OR, and numbers. -/
def IsExactText (settings : Settings) (type : SemanticType) (part : Text) : Prop :=
  match type with
  | .text | .enumeration _ =>
    Text.isQuoted part ∧ settings.operators.and.occursIn part = false ∧
      settings.operators.or.occursIn part = false
  | .numeric type => (readNumber? settings type part).isSome
  | .boolean | .date | .dateTime => False

theorem exact_of_number {n : Number} {numericType : NumericType}
    (hseparators : settings.decimalSeparators = Settings.default.decimalSeparators)
    (h : readNumber? settings numericType part = some n) :
    part ≠ [] ∧ ∀ c ∈ part, c ∈ Number.numberChars := by
  rw [readNumber?, hseparators] at h
  obtain ⟨hne, hall⟩ := Number.all_of_read? h
  exact ⟨hne, fun c hc ↦ Number.mem_numberChars (hall c hc)⟩

/-- What holds of the exact texts of all types. -/
structure Plain (settings : Settings) (part : Text) : Prop where
  trimmed : Text.trim part = part
  ne_nil : part ≠ []
  without_and : settings.operators.and.occursIn part = false
  without_or : settings.operators.or.occursIn part = false
  not_negated : settings.operators.not.operand? part = none
  not_null : settings.isNullToken part = false

theorem IsExactText.plain (hoperators : settings.operators = .default)
    (hseparators : settings.decimalSeparators = Settings.default.decimalSeparators)
    (h : IsExactText settings type part) : Plain settings part := by
  have hquoted (hq : Text.isQuoted part ∧ settings.operators.and.occursIn part = false ∧
      settings.operators.or.occursIn part = false) : Plain settings part := by
    have hstart : ∃ c, part.head? = some c ∧ beginsPlainly c := by
      rcases Text.head?_of_quoted hq.1 with hhead | hhead
      · exact ⟨_, hhead, by decide⟩
      · exact ⟨_, hhead, by decide⟩
    obtain ⟨c, hhead, hplain⟩ := hstart
    obtain ⟨hnot, hnull⟩ := Settings.plain_of_head hoperators hhead hplain
    exact ⟨Text.trim_of_quoted hq.1, Text.ne_nil_of_quoted hq.1, hq.2.1, hq.2.2, hnot, hnull⟩
  cases type with
  | text => exact hquoted h
  | enumeration values => exact hquoted h
  | numeric numericType =>
    obtain ⟨n, hn⟩ := Option.isSome_iff_exists.mp h
    obtain ⟨hne, hall⟩ := exact_of_number hseparators hn
    have hhead : part.head? = some (part.head hne) := List.head?_eq_some_head hne
    obtain ⟨hnot, hnull⟩ := Settings.plain_of_head hoperators hhead
      (Number.beginsPlainly_of_mem_numberChars (hall _ (List.head_mem hne)))
    exact ⟨Text.trim_of_forall fun c hc ↦ Number.not_blank_of_mem_numberChars (hall c hc), hne,
      hoperators ▸ Operators.marked_default.and.not_occursIn_of_forall (by decide)
        ⟨'A', by decide, by decide⟩ hall,
      hoperators ▸ Operators.marked_default.or.not_occursIn_of_forall (by decide)
        ⟨'O', by decide, by decide⟩ hall,
      hnot, hnull⟩
  | boolean | date | dateTime => exact h.elim

/-- An exact text is classified as its item in a membership, and not recognized if it has none. -/
theorem IsExactText.classifyAs_eq [Pattern.Engine] (hplain : Plain settings part)
    (h : IsExactText settings type part) :
    classifyAs settings type part = (item? settings type part).getD .unrecognized := by
  simp only [classifyAs, hplain.trimmed]
  rw [if_neg (by simpa using hplain.ne_nil), if_neg (by simp [hplain.not_null])]
  cases type with
  | text => simp [classifyText, item?, h.1]
  | enumeration values =>
    have hquoted : Text.isQuoted part = true := h.1
    simp only [classifyConstant, item?, hquoted, if_true]
    split <;> rfl
  | numeric numericType =>
    obtain ⟨n, hn⟩ := Option.isSome_iff_exists.mp h
    have hbare : Text.unquote part = part :=
      Text.unquote_of_not_quoted (Number.not_quoted_of_read? hn)
    simp [classifyNumber, item?, hbare, hn]
  | boolean | date | dateTime => exact h.elim

end RecordSearch.Literal
