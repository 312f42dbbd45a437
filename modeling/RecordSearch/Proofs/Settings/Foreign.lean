import RecordSearch.Proofs.Settings.Operator
import RecordSearch.Proofs.Text.Around

/-!
# Operators between foreign operands

The symbol and the word of an operator may be any texts. Put between operands that share no character
with it, an operator stands in the whole only where it stands in what is between them. Whether the
symbol separates such operands is decided by the symbol alone: it does unless the symbol has operands
of its own, as one with the operator's word inside may have.
-/

namespace RecordSearch.Operator

/-- A trimmed text that shares no character with an operator. -/
structure Foreign (op : Operator) (s : Text) : Prop where
  trimmed : Text.trim s = s
  apart : ∀ c ∈ s, c ∉ op.symbol ++ op.word

-- Only the characters of the text are run through; there are too many others.
instance (op : Operator) (s : Text) : Decidable (op.Foreign s) :=
  decidable_of_iff (Text.trim s = s ∧ s.all fun c ↦ c ∉ op.symbol ++ op.word)
    ⟨fun ⟨htrim, hapart⟩ ↦ ⟨htrim, by simpa only [List.all_eq_true, decide_eq_true_eq] using hapart⟩,
      fun h ↦ ⟨h.trimmed, by simpa only [List.all_eq_true, decide_eq_true_eq] using h.apart⟩⟩

variable {op : Operator} {front s back a b : Text}

theorem foreign_nil (op : Operator) : op.Foreign [] :=
  ⟨rfl, by simp⟩

theorem Foreign.not_mem_symbol (h : op.Foreign s) : ∀ c ∈ s, c ∉ op.symbol := fun c hc hmem ↦
  h.apart c hc (List.mem_append_left _ hmem)

theorem Foreign.not_mem_word (h : op.Foreign s) : ∀ c ∈ s, c ∉ op.word := fun c hc hmem ↦
  h.apart c hc (List.mem_append_right _ hmem)

theorem middleWord?_eq_some_iff {word : Text} :
    op.middleWord? = some word ↔ op.word ≠ [] ∧ word = Text.spaced op.word := by
  unfold middleWord?
  cases hword : op.word with
  | nil => simp
  | cons => simp [Text.spaced, eq_comm]

theorem ne_nil_of_middleWord? {word : Text} (h : op.middleWord? = some word) : word ≠ [] := by
  obtain ⟨-, rfl⟩ := middleWord?_eq_some_iff.mp h
  exact List.cons_ne_nil _ _

theorem occursIn_iff_infix :
    op.occursIn s ↔ op.symbol <:+: s ∨ ∃ word, op.middleWord? = some word ∧ word <:+: s := by
  rw [occursIn, Bool.or_eq_true, Text.contains_iff]
  cases op.middleWord? <;> simp [Text.contains_iff]

/-- A foreign text does not begin with the operator. -/
theorem Foreign.operand?_eq_none (hsymbol : op.symbol ≠ []) (h : op.Foreign s) :
    op.operand? s = none := by
  have hbegins {piece : Text} (hne : piece ≠ []) (hpiece : piece ⊆ op.symbol ++ op.word) :
      ¬ piece <+: s := fun hstarts ↦ by
    obtain ⟨c, piece, rfl⟩ := List.exists_cons_of_ne_nil hne
    exact h.apart c (hstarts.subset List.mem_cons_self) (hpiece List.mem_cons_self)
  have hdrop : Text.dropFront? op.symbol s = none :=
    Text.dropFront?_eq_none (hbegins hsymbol (List.subset_append_left _ _))
  have hleading : ∀ word, op.leadingWord? = some word → Text.dropFront? word s = none := by
    unfold leadingWord?
    intro word hword
    split at hword
    · cases hword
    · rename_i hne
      obtain rfl := Option.some.inj hword
      exact Text.dropFront?_eq_none fun hstarts ↦
        hbegins (mt List.isEmpty_iff.mpr hne) (List.subset_append_right _ _)
          ((List.prefix_append _ _).trans hstarts)
  simp only [operand?, hdrop]
  cases hword : op.leadingWord? with
  | none => rfl
  | some word => rw [Option.bind_some, hleading word hword, Option.map_none]

section Around

variable (hfront : op.Foreign front) (hback : op.Foreign back)

include hfront hback

theorem Foreign.between_symbol (hsymbol : op.symbol ≠ []) (s : Text) :
    Text.Between op.symbol front s back :=
  Text.between_of_disjoint hsymbol hfront.not_mem_symbol hback.not_mem_symbol

theorem Foreign.between_word {word : Text} (hword : op.middleWord? = some word) (s : Text) :
    Text.Between word front s back := by
  obtain ⟨hne, rfl⟩ := middleWord?_eq_some_iff.mp hword
  have hblank : Text.isBlank ' ' := rfl
  apply Text.between_of_disjoint_word hne hfront.not_mem_word hback.not_mem_word
  · intro hlast
    have hend := Text.getLast?_trimEnd (Text.trimStart front) ' '
    rw [show Text.trimEnd (Text.trimStart front) = front from hfront.trimmed] at hend
    rw [hend hlast] at hblank
    cases hblank
  · intro hhead
    have hstart := Text.head?_trim back ' '
    rw [hback.trimmed] at hstart
    rw [hstart hhead] at hblank
    cases hblank

/-- Foreign texts around another one bring no occurrence of the operator. -/
theorem Foreign.occursIn_around (hsymbol : op.symbol ≠ []) (s : Text) :
    op.occursIn (front ++ (s ++ back)) = op.occursIn s := by
  have hword {word : Text} (hword : op.middleWord? = some word) :=
    (hfront.between_word hback hword s).infix_iff
  rw [Bool.eq_iff_iff, occursIn_iff_infix, occursIn_iff_infix,
    (hfront.between_symbol hback hsymbol s).infix_iff]
  apply or_congr_right
  exact exists_congr fun word ↦ and_congr_right fun h ↦ hword h

theorem Foreign.normalize_around (s : Text) :
    op.normalize (front ++ (s ++ back)) = front ++ (op.normalize s ++ back) := by
  unfold normalize
  cases hword : op.middleWord? with
  | none => rfl
  | some word =>
    exact (hfront.between_word hback hword s).replace_eq (ne_nil_of_middleWord? hword)

end Around

/-- Where the symbol is written for the words in it, it still stands. -/
theorem symbol_infix_normalize (op : Operator) : op.symbol <:+: op.normalize op.symbol := by
  unfold normalize
  cases hword : op.middleWord? with
  | none => exact List.infix_rfl
  | some word =>
    have hne := ne_nil_of_middleWord? hword
    by_cases hwithin : word <:+: op.symbol
    · exact Text.infix_replace hne hwithin
    · change op.symbol <:+: Text.replace word op.symbol op.symbol
      rw [Text.replace_of_absent hne hwithin]

theorem Foreign.not_occursIn (hsymbol : op.symbol ≠ []) (h : op.Foreign s) :
    op.occursIn s = false := by
  have haround := h.occursIn_around (foreign_nil op) hsymbol []
  rw [List.nil_append, List.append_nil] at haround
  rw [haround, ← Bool.not_eq_true, occursIn_iff_infix]
  rintro (hwithin | ⟨word, hword, hwithin⟩)
  · exact hsymbol (List.infix_nil.mp hwithin)
  · exact ne_nil_of_middleWord? hword (List.infix_nil.mp hwithin)

/-- The symbol separates two foreign operands if and only if it has no operands of its own. -/
theorem Foreign.split_around_iff (hsymbol : op.symbol ≠ []) (ha : op.Foreign a) (hb : op.Foreign b)
    (hane : a ≠ []) (hbne : b ≠ []) :
    op.split (a ++ (op.symbol ++ b)) = [a, b] ↔ op.split op.symbol = [] := by
  obtain ⟨first, middle, last, hparts⟩ :=
    Text.exists_cutFrom_eq hsymbol op.symbol_infix_normalize
  have hwhole : Text.cutFrom op.symbol 0 (a ++ (op.normalize op.symbol ++ b)) =
      (a ++ first) :: (middle ++ [last ++ b]) :=
    (ha.between_symbol hb hsymbol _).cutFrom_eq hsymbol hparts
  have hfirst : Text.trim (a ++ first) ≠ [] :=
    Text.trim_ne_nil_of_subset (by rwa [ha.trimmed]) (List.subset_append_left _ _)
  have hlast : Text.trim (last ++ b) ≠ [] :=
    Text.trim_ne_nil_of_subset (by rwa [hb.trimmed]) (List.subset_append_right _ _)
  have hoperands : op.split (a ++ (op.symbol ++ b)) = Text.trim (a ++ first) ::
      ((middle.map Text.trim).filter (fun part ↦ !part.isEmpty) ++ [Text.trim (last ++ b)]) := by
    rw [split, ha.normalize_around hb, Text.splitOn_of_ne_nil hsymbol, hwhole]
    simp [hfirst, hlast]
  calc
    _ ↔ Text.trim (a ++ first) = a ∧
        (middle.map Text.trim).filter (fun part ↦ !part.isEmpty) = [] ∧
        Text.trim (last ++ b) = b := by
      rw [hoperands, List.cons.injEq, List.append_eq_singleton_iff]
      simp
    _ ↔ Text.trim first = [] ∧
        (middle.map Text.trim).filter (fun part ↦ !part.isEmpty) = [] ∧ Text.trim last = [] := by
      rw [Text.trim_append_eq_left_iff ha.trimmed hane,
        Text.trim_append_eq_right_iff hb.trimmed hbne]
    _ ↔ _ := by
      rw [split, Text.splitOn_of_ne_nil hsymbol, hparts]
      simp only [List.map_cons, List.map_append, List.map_nil, List.filter_eq_nil_iff,
        List.forall_mem_cons, List.forall_mem_append, List.not_mem_nil, false_imp_iff,
        implies_true, and_true, Bool.not_eq_true', List.isEmpty_eq_false_iff, not_not]

/-- A symbol without the operator's word in it has no operands. -/
theorem split_symbol_eq_nil (hsymbol : op.symbol ≠ [])
    (hword : ∀ word, op.middleWord? = some word → ¬ word <:+: op.symbol) :
    op.split op.symbol = [] := by
  have hnormal : op.normalize op.symbol = op.symbol := by
    unfold normalize
    cases hmiddle : op.middleWord? with
    | none => rfl
    | some word =>
      exact Text.replace_of_absent (ne_nil_of_middleWord? hmiddle) (hword word hmiddle)
  have hparts : Text.cutFrom op.symbol 0 op.symbol = [[], []] := by
    have hcut := Text.cutFrom_append hsymbol []
    rwa [List.append_nil] at hcut
  rw [split, hnormal, Text.splitOn_of_ne_nil hsymbol, hparts]
  rfl

end RecordSearch.Operator
