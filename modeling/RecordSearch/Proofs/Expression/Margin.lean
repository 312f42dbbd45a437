import RecordSearch.Proofs.Condition.Membership
import RecordSearch.Proofs.Text.Margin
import RecordSearch.Settings.Validation

/-!
# Blanks around filters

A filter is read as if it had no blanks at its ends, as long as no operator in it takes one of them
in. The symbol of an operator does so only if it has blanks of its own; its word does where the
blank that sets it off is one of those at the ends.
-/

namespace RecordSearch

open Text (leftMargin rightMargin)

namespace Operator

variable {op : Operator} {s : Text}

/-- No occurrence of the operator reaches into the margins of a text, also none of those that appear
once its words are replaced. -/
structure ClearOfMargins (op : Operator) (s : Text) : Prop where
  symbol : Text.ClearOfMargins op.symbol s
  word : ∀ word ∈ op.middleWord?, Text.ClearOfMargins word s
  normalized : Text.ClearOfMargins op.symbol (op.normalize s)

instance (op : Operator) (s : Text) : Decidable (op.ClearOfMargins s) :=
  decidable_of_iff (Text.ClearOfMargins op.symbol s ∧
      (∀ word ∈ op.middleWord?, Text.ClearOfMargins word s) ∧
      Text.ClearOfMargins op.symbol (op.normalize s))
    ⟨fun ⟨hsymbol, hword, hnormalized⟩ ↦ ⟨hsymbol, hword, hnormalized⟩,
      fun h ↦ ⟨h.symbol, h.word, h.normalized⟩⟩

/-- Where the operator begins a text or the trimmed text, it begins both, behind no blank. -/
def BeginsClearly (op : Operator) (s : Text) : Prop :=
  ∀ form ∈ op.symbol :: op.leadingWord?.toList,
    form <+: s ∨ form <+: Text.trim s → leftMargin s = [] ∧ form <+: Text.trim s

instance (op : Operator) (s : Text) : Decidable (op.BeginsClearly s) :=
  inferInstanceAs (Decidable (∀ form ∈ op.symbol :: op.leadingWord?.toList,
    form <+: s ∨ form <+: Text.trim s → leftMargin s = [] ∧ form <+: Text.trim s))

/-- Only the word of an operator can reach into a margin if its symbol has no blanks at its ends. -/
theorem clearOfMargins_of_trim (hsymbol : Text.trim op.symbol = op.symbol) (hne : op.symbol ≠ [])
    (hword : ∀ word ∈ op.middleWord?, Text.ClearOfMargins word s) : op.ClearOfMargins s :=
  ⟨Text.clearOfMargins_of_trim hsymbol hne s, hword, Text.clearOfMargins_of_trim hsymbol hne _⟩

theorem ends_middleWord? {word : Text} (hword : word ∈ op.middleWord?) :
    word ≠ [] ∧ (∀ c ∈ word.head?, Text.isBlank c) ∧ ∀ c ∈ word.getLast?, Text.isBlank c := by
  rw [middleWord?] at hword
  split at hword
  · cases hword
  · obtain rfl := Option.some.inj hword
    refine ⟨List.cons_ne_nil _ _, fun c hc ↦ ?_, fun c hc ↦ ?_⟩
    · obtain rfl : ' ' = c := by simpa using hc
      decide
    · rw [List.getLast?_append_of_ne_nil _ (List.cons_ne_nil _ _)] at hc
      obtain rfl : ' ' = c := by simpa using hc
      decide

theorem ClearOfMargins.occursIn_trim (h : op.ClearOfMargins s) :
    op.occursIn (Text.trim s) = op.occursIn s := by
  rw [occursIn, occursIn, h.symbol.contains_trim]
  cases hword : op.middleWord? with
  | none => rfl
  | some word => simp only [(h.word word hword).contains_trim]

theorem ClearOfMargins.trim_normalize (h : op.ClearOfMargins s) :
    Text.trim (op.normalize s) = op.normalize (Text.trim s) := by
  unfold normalize
  cases hword : op.middleWord? with
  | none => rfl
  | some word =>
    obtain ⟨hne, hhead, hlast⟩ := ends_middleWord? hword
    exact (h.word word hword).trim_replace hne hhead hlast

theorem trim_normalize_of_trim (hs : Text.trim s = s) :
    Text.trim (op.normalize s) = op.normalize s := by
  unfold normalize
  cases hword : op.middleWord? with
  | none => exact hs
  | some word =>
    obtain ⟨hne, hhead, hlast⟩ := ends_middleWord? hword
    exact Text.trim_replace_of_trim hne hhead hlast hs

/-- The operands of a text are those of the trimmed text. -/
theorem ClearOfMargins.split_trim (h : op.ClearOfMargins s) :
    op.split (Text.trim s) = op.split s := by
  rw [split, split, ← h.trim_normalize, ← h.normalized.map_trim_splitOn]

theorem operand?_eq (op : Operator) (s : Text) :
    op.operand? s = ((Text.dropFront? op.symbol s).map Text.trim).or
      (op.leadingWord?.bind fun word ↦ (Text.dropFront? word s).map Text.trim) := by
  rw [operand?]
  cases Text.dropFront? op.symbol s <;> rfl

/-- An operator that begins a text clearly has the same operand in the trimmed text. -/
theorem BeginsClearly.operand?_trim (h : op.BeginsClearly s) :
    op.operand? (Text.trim s) = op.operand? s := by
  have hdrop : ∀ form ∈ op.symbol :: op.leadingWord?.toList,
      (Text.dropFront? form (Text.trim s)).map Text.trim =
        (Text.dropFront? form s).map Text.trim := by
    intro form hform
    by_cases hbegins : form <+: Text.trim s
    · obtain ⟨hleft, rest, hrest⟩ := h form hform (.inr hbegins)
      have hwhole : form ++ (rest ++ rightMargin s) = s := by
        rw [← List.append_assoc, hrest]
        simpa [hleft] using Text.margins_append s
      rw [Text.dropFront?_eq_some_iff.mpr hrest.symm, Text.dropFront?_eq_some_iff.mpr hwhole.symm,
        Option.map_some, Option.map_some,
        Text.trim_append_of_blank Text.isBlank_of_mem_rightMargin]
    · have hwhole : ¬ form <+: s := fun hs ↦ hbegins (h form hform (.inl hs)).2
      rw [Text.dropFront?_eq_none hbegins, Text.dropFront?_eq_none hwhole]
  rw [operand?_eq, operand?_eq, hdrop _ List.mem_cons_self]
  cases hword : op.leadingWord? with
  | none => rfl
  | some word =>
    rw [Option.bind_some, Option.bind_some, hdrop word (by simp [hword])]

/-- An operand is what stands behind the operator, trimmed. -/
theorem exists_of_operand? {rest : Text} (h : op.operand? s = some rest) :
    ∃ front behind, s = front ++ behind ∧ Text.trim behind = rest := by
  rw [operand?_eq, Option.or_eq_some_iff] at h
  have hmap {form : Text} (hrest : (Text.dropFront? form s).map Text.trim = some rest) :
      ∃ front behind, s = front ++ behind ∧ Text.trim behind = rest := by
    obtain ⟨behind, hdrop, htrim⟩ := Option.map_eq_some_iff.mp hrest
    exact ⟨form, behind, Text.dropFront?_eq_some_iff.mp hdrop, htrim⟩
  rcases h with h | ⟨-, h⟩
  · exact hmap h
  · obtain ⟨word, -, h⟩ := Option.bind_eq_some_iff.mp h
    exact hmap h

theorem trim_of_operand? {rest : Text} (h : op.operand? s = some rest) : Text.trim rest = rest := by
  obtain ⟨front, behind, -, rfl⟩ := exists_of_operand? h
  exact Text.trim_trim behind

end Operator

/-- None of the operators that a filter is read by takes in a blank at its ends. OR is looked for
where there is no AND, and NOT where there is neither. -/
structure Operators.ClearOfMargins (ops : Operators) (s : Text) : Prop where
  and : ops.and.ClearOfMargins s
  or : ops.and.occursIn s = false → ops.or.ClearOfMargins s
  not : ops.and.occursIn s = false → ops.or.occursIn s = false → ops.not.BeginsClearly s

instance (ops : Operators) (s : Text) : Decidable (ops.ClearOfMargins s) :=
  decidable_of_iff (ops.and.ClearOfMargins s ∧
      (ops.and.occursIn s = false → ops.or.ClearOfMargins s) ∧
      (ops.and.occursIn s = false → ops.or.occursIn s = false → ops.not.BeginsClearly s))
    ⟨fun ⟨hand, hor, hnot⟩ ↦ ⟨hand, hor, hnot⟩, fun h ↦ ⟨h.and, h.or, h.not⟩⟩

namespace Expression

variable {settings : Settings} {name value s : Text}

mutual

/-- The expression without the blanks at the ends of its values. -/
def trimValues : Expression → Expression
  | .leaf name value kind => .leaf name (Text.trim value) kind
  | .group connective negated children => .group connective negated (trimAllValues children)

def trimAllValues : List Expression → List Expression
  | [] => []
  | child :: children => trimValues child :: trimAllValues children

end

theorem trimAllValues_eq (es : List Expression) : trimAllValues es = es.map trimValues := by
  induction es with
  | nil => rfl
  | cons e es ih => rw [trimAllValues, ih, List.map_cons]

theorem trimValues_any {es : List Expression} (hes : ∀ e ∈ es, trimValues e = e) :
    trimValues (any es) = any es := by
  rw [any, trimValues, trimAllValues_eq, List.map_congr_left hes, List.map_id']

theorem trimValues_all {es : List Expression} (hes : ∀ e ∈ es, trimValues e = e) :
    trimValues (all es) = all es := by
  rw [all, trimValues, trimAllValues_eq, List.map_congr_left hes, List.map_id']

theorem trimValues_ofLiteral (settings : Settings) (name value : Text) :
    trimValues (ofLiteral settings name value) = ofLiteral settings name value := by
  unfold ofLiteral
  split
  · rename_i rest hrest
    simp only [negate, comparison, trimValues, trimAllValues, Operator.trim_of_operand? hrest]
  · simp only [comparison, trimValues, Text.trim_trim]

/-- Alternatives that become a membership keep the blanks around them, any others do not. -/
theorem trimValues_ofAlternatives
    (hvalue : settings.operators.or.occursIn value →
      settings.orLimit < (settings.operators.or.split value).length → Text.trim value = value) :
    trimValues (ofAlternatives settings name value) = ofAlternatives settings name value := by
  unfold ofAlternatives
  dsimp only
  split
  · rename_i hoccurs
    split
    · rename_i hover
      simp only [membership, trimValues, Operator.trim_normalize_of_trim (hvalue hoccurs hover)]
    · exact trimValues_any (List.forall_mem_map.mpr fun _ _ ↦ trimValues_ofLiteral _ _ _)
  · exact trimValues_ofLiteral _ _ _

/-- A value without blanks at its ends if it becomes a membership. -/
def Settled (settings : Settings) (value : Text) : Prop :=
  settings.operators.and.occursIn value = false → settings.operators.or.occursIn value →
    settings.orLimit < (settings.operators.or.split value).length → Text.trim value = value

theorem settled_of_mem_split {op : Operator} {part : Text} (hpart : part ∈ op.split s) :
    Settled settings part := fun _ _ _ ↦ (Operator.mem_split hpart).1

theorem trimValues_ofClauses (hvalue : Settled settings value) :
    trimValues (ofClauses settings name value) = ofClauses settings name value := by
  unfold ofClauses
  dsimp only
  split
  · refine trimValues_all (List.forall_mem_map.mpr fun part hpart ↦ ?_)
    exact trimValues_ofAlternatives fun _ _ ↦ (Operator.mem_split hpart).1
  · rename_i hand
    exact trimValues_ofAlternatives (hvalue (by simpa using hand))

theorem trimValues_ofNames {names : List Text} (hvalue : Settled settings value) :
    trimValues (ofNames settings names value) = ofNames settings names value :=
  trimValues_any (List.forall_mem_map.mpr fun _ _ ↦ trimValues_ofClauses hvalue)

/-- The values of a filter are trimmed, those of long memberships apart. -/
theorem trimValues_parse? (hvalue : Settled settings value) (key : Text) :
    (parse? settings key value).map trimValues = parse? settings key value := by
  unfold parse?
  dsimp only
  split
  · rfl
  · split
    · split
      · rw [Option.map_some, trimValues_all]
        exact List.forall_mem_map.mpr fun part hpart ↦
          trimValues_ofNames (settled_of_mem_split hpart)
      · rw [Option.map_some, trimValues_ofNames hvalue]
    · rw [Option.map_some, trimValues_ofClauses hvalue]

section Margins

theorem ofLiteral_trim (hnot : settings.operators.not.BeginsClearly s) (name : Text) :
    ofLiteral settings name (Text.trim s) = ofLiteral settings name s := by
  rw [ofLiteral, ofLiteral, hnot.operand?_trim, Text.trim_trim]

theorem ofAlternatives_trim (hor : settings.operators.or.ClearOfMargins s)
    (hnot : settings.operators.or.occursIn s = false → settings.operators.not.BeginsClearly s)
    (name : Text) :
    ofAlternatives settings name (Text.trim s) = trimValues (ofAlternatives settings name s) := by
  simp only [ofAlternatives, hor.occursIn_trim, hor.split_trim]
  split
  · split
    · simp only [membership, trimValues, hor.trim_normalize]
    · exact (trimValues_any (List.forall_mem_map.mpr fun _ _ ↦ trimValues_ofLiteral _ _ _)).symm
  · rename_i hoccurs
    rw [trimValues_ofLiteral, ofLiteral_trim (hnot (by simpa using hoccurs))]

variable (h : settings.operators.ClearOfMargins s)

include h

theorem ofClauses_trim (name : Text) :
    ofClauses settings name (Text.trim s) = trimValues (ofClauses settings name s) := by
  simp only [ofClauses, h.and.occursIn_trim, h.and.split_trim]
  split
  · refine (trimValues_all (List.forall_mem_map.mpr fun part hpart ↦ ?_)).symm
    exact trimValues_ofAlternatives fun _ _ ↦ (Operator.mem_split hpart).1
  · rename_i hand
    have hand : settings.operators.and.occursIn s = false := by simpa using hand
    exact ofAlternatives_trim (h.or hand) (h.not hand) name

theorem ofNames_trim (names : List Text) :
    ofNames settings names (Text.trim s) = trimValues (ofNames settings names s) := by
  simp only [ofNames, any, trimValues, trimAllValues_eq, List.map_map, Function.comp_def,
    ofClauses_trim h]

/-- Blanks at the ends of a filter change at most the value of a membership, which keeps them, if no
operator takes one of them in. -/
theorem parse?_trim (key : Text) :
    (parse? settings key s).map trimValues = parse? settings key (Text.trim s) ∧
    ((settings.operators.and.occursIn s = false → settings.operators.or.occursIn s →
        (settings.operators.or.split s).length ≤ settings.orLimit) →
      parse? settings key s = parse? settings key (Text.trim s)) := by
  have htrimmed : (parse? settings key s).map trimValues = parse? settings key (Text.trim s) := by
    simp only [parse?, Text.trim_trim, h.and.occursIn_trim, h.and.split_trim]
    split
    · rfl
    · split
      · split
        · rw [Option.map_some, trimValues_all]
          exact List.forall_mem_map.mpr fun part hpart ↦
            trimValues_ofNames (settled_of_mem_split hpart)
        · rw [Option.map_some, ofNames_trim h]
      · rw [Option.map_some, ofClauses_trim h]
  refine ⟨htrimmed, fun hlimit ↦ ?_⟩
  rw [← htrimmed, trimValues_parse? fun hand hor hover ↦ ?_]
  exact absurd hover (Nat.not_lt.mpr (hlimit hand hor))

end Margins

theorem parse?_trim_or :
    Settings.default.operators.ClearOfMargins "  ann OR !bob ".toList ∧
    (parse? .default "name".toList "  ann OR !bob ".toList).map trimValues =
      parse? .default "name".toList "ann OR !bob".toList ∧
    parse? .default "name".toList "  ann OR !bob ".toList =
      parse? .default "name".toList "ann OR !bob".toList := by
  have hclear : Settings.default.operators.ClearOfMargins "  ann OR !bob ".toList :=
    ⟨Operator.clearOfMargins_of_trim rfl (by decide) (by decide),
      fun _ ↦ Operator.clearOfMargins_of_trim rfl (by decide) (by decide), by decide⟩
  obtain ⟨htrimmed, hequal⟩ := parse?_trim hclear "name".toList
  exact ⟨hclear, htrimmed, hequal fun _ _ ↦ by decide⟩

/-- A word at the end of a filter is an operator only with the blank behind it, and a membership
keeps the blanks in front of its first alternative. -/
theorem parse?_blank_matters :
    Settings.default.IsValid ∧
    parse? .default "name".toList "ann AND ".toList ≠
      parse? .default "name".toList (Text.trim "ann AND ".toList) ∧
    (Settings.default.withOrLimit 1).IsValid ∧
    parse? (Settings.default.withOrLimit 1) "name".toList " a|b".toList ≠
      parse? (Settings.default.withOrLimit 1) "name".toList (Text.trim " a|b".toList) := by
  have hword : parse? .default "name".toList "ann AND ".toList =
      some (all [comparison "name".toList "ann".toList]) := rfl
  have htrimmed : parse? .default "name".toList (Text.trim "ann AND ".toList) =
      some (comparison "name".toList "ann AND".toList) := rfl
  have hmembership : parse? (Settings.default.withOrLimit 1) "name".toList " a|b".toList =
      some (membership "name".toList " a|b".toList) := rfl
  have hplain : parse? (Settings.default.withOrLimit 1) "name".toList (Text.trim " a|b".toList) =
      some (membership "name".toList "a|b".toList) := rfl
  rw [hword, htrimmed, hmembership, hplain]
  refine ⟨by decide, fun h ↦ ?_, by decide, fun h ↦ ?_⟩
  · cases h
  · simp [membership] at h

end Expression

end RecordSearch
