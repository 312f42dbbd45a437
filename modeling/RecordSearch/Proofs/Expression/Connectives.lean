import RecordSearch.Expression.Parse
import RecordSearch.Proofs.Settings.Foreign
import RecordSearch.Proofs.Settings.Validation

/-!
# Operators of any spelling

Settings may spell NOT, OR and AND in any visible way. A filter that puts a symbol between or before
operands of other characters is read as that operator if and only if no operator that is looked for
earlier stands in the symbol, and the symbol is not cut by its own word.
-/

namespace RecordSearch

/-- A text, not empty, that shares no character with NOT, OR and AND. -/
structure Operators.Plain (ops : Operators) (s : Text) : Prop where
  ne_nil : s ≠ []
  not_foreign : ops.not.Foreign s
  or_foreign : ops.or.Foreign s
  and_foreign : ops.and.Foreign s

instance (ops : Operators) (s : Text) : Decidable (ops.Plain s) :=
  decidable_of_iff (s ≠ [] ∧ ops.not.Foreign s ∧ ops.or.Foreign s ∧ ops.and.Foreign s)
    ⟨fun ⟨hne, hnot, hor, hand⟩ ↦ ⟨hne, hnot, hor, hand⟩,
      fun h ↦ ⟨h.ne_nil, h.not_foreign, h.or_foreign, h.and_foreign⟩⟩

theorem Operators.Plain.trim_ne_nil {ops : Operators} {s : Text} (h : ops.Plain s) :
    Text.trim s ≠ [] := by
  rw [h.not_foreign.trimmed]
  exact h.ne_nil

namespace Expression

variable {settings : Settings} {key name a b s t : Text}

section Literals

theorem trim_of_ofLiteral (h : ofLiteral settings name s = comparison name t) :
    Text.trim s = t := by
  unfold ofLiteral at h
  split at h
  · cases h
  · cases h
    rfl

theorem trim_of_ofAlternatives (h : ofAlternatives settings name s = comparison name t) :
    Text.trim s = t := by
  unfold ofAlternatives at h
  simp only at h
  split at h
  · split at h <;> cases h
  · exact trim_of_ofLiteral h

/-- Trimmed parts are read as given literals if and only if they are those. -/
theorem map_eq_comparisons_iff {read : Text → Expression} {parts operands : List Text}
    (hread : ∀ {s t}, read s = comparison name t → Text.trim s = t)
    (hparts : ∀ part ∈ parts, Text.trim part = part)
    (hoperands : ∀ operand ∈ operands, read operand = comparison name operand) :
    parts.map read = operands.map (comparison name) ↔ parts = operands := by
  constructor
  · intro h
    induction parts generalizing operands with
    | nil => exact (List.map_eq_nil_iff.mp h.symm).symm
    | cons part parts ih =>
      cases operands with
      | nil => cases h
      | cons operand operands =>
        obtain ⟨hfirst, hrest⟩ := List.cons.inj h
        obtain ⟨htrim, hparts⟩ := List.forall_mem_cons.mp hparts
        rw [← htrim, hread hfirst, ih hparts (List.forall_mem_cons.mp hoperands).2 hrest]
  · rintro rfl
    exact List.map_congr_left hoperands

end Literals

theorem ofLiteral_of_plain (hvalid : settings.IsValid) (hs : settings.operators.Plain s) :
    ofLiteral settings name s = comparison name s := by
  rw [ofLiteral, hs.not_foreign.operand?_eq_none hvalid.not_ne_nil, hs.not_foreign.trimmed]

theorem ofAlternatives_of_plain (hvalid : settings.IsValid) (hs : settings.operators.Plain s) :
    ofAlternatives settings name s = comparison name s := by
  simp only [ofAlternatives, hs.or_foreign.not_occursIn hvalid.or_ne_nil]
  exact ofLiteral_of_plain hvalid hs

/-- On a key of one name a visible filter is read for that name. -/
theorem parse?_of_single (htrim : Text.trim key = key)
    (hkey : Text.contains settings.operators.or.symbol key = false) (hs : Text.trim s ≠ []) :
    parse? settings key s = some (ofClauses settings key s) := by
  rw [parse?, if_neg (by simpa using hs)]
  simp only [hkey, htrim]
  rfl

section Symbols

variable (hvalid : settings.IsValid) (ha : settings.operators.Plain a)

include hvalid ha

section Between

variable (hb : settings.operators.Plain b)

include hb

/-- The symbol of OR separates alternatives if it has no operands of its own. -/
theorem ofAlternatives_or_iff (hlimit : 2 ≤ settings.orLimit) :
    ofAlternatives settings name (a ++ (settings.operators.or.symbol ++ b)) =
        any [comparison name a, comparison name b] ↔
      settings.operators.or.split settings.operators.or.symbol = [] := by
  have hoccurs : settings.operators.or.occursIn (a ++ (settings.operators.or.symbol ++ b)) :=
    Operator.occursIn_iff_infix.mpr (.inl ⟨a, b, by simp⟩)
  have hoperands : ∀ operand ∈ [a, b],
      ofLiteral settings name operand = comparison name operand := by
    simp [ofLiteral_of_plain hvalid ha, ofLiteral_of_plain hvalid hb]
  rw [← ha.or_foreign.split_around_iff hvalid.or_ne_nil hb.or_foreign ha.ne_nil hb.ne_nil,
    ← map_eq_comparisons_iff trim_of_ofLiteral (fun part hpart ↦ (Operator.mem_split hpart).1)
      hoperands]
  simp only [ofAlternatives, hoccurs, if_true]
  constructor
  · intro h
    split at h
    · cases h
    · exact (Expression.group.inj h).2.2
  · intro h
    have hlength := congrArg List.length h
    simp only [List.length_map, List.length_cons, List.length_nil] at hlength
    rw [if_neg (by omega), h]
    rfl

theorem ofClauses_or_iff (hlimit : 2 ≤ settings.orLimit) :
    ofClauses settings name (a ++ (settings.operators.or.symbol ++ b)) =
        any [comparison name a, comparison name b] ↔
      settings.operators.and.occursIn settings.operators.or.symbol = false ∧
        settings.operators.or.split settings.operators.or.symbol = [] := by
  rw [ofClauses, ha.and_foreign.occursIn_around hb.and_foreign hvalid.and_ne_nil]
  cases settings.operators.and.occursIn settings.operators.or.symbol with
  | true => simp [all, any]
  | false => simpa using ofAlternatives_or_iff hvalid ha hb hlimit

/-- The symbol of AND separates clauses if it has no operands of its own. -/
theorem ofClauses_and_iff :
    ofClauses settings name (a ++ (settings.operators.and.symbol ++ b)) =
        all [comparison name a, comparison name b] ↔
      settings.operators.and.split settings.operators.and.symbol = [] := by
  have hoccurs : settings.operators.and.occursIn (a ++ (settings.operators.and.symbol ++ b)) :=
    Operator.occursIn_iff_infix.mpr (.inl ⟨a, b, by simp⟩)
  have hoperands : ∀ operand ∈ [a, b],
      ofAlternatives settings name operand = comparison name operand := by
    simp [ofAlternatives_of_plain hvalid ha, ofAlternatives_of_plain hvalid hb]
  rw [← ha.and_foreign.split_around_iff hvalid.and_ne_nil hb.and_foreign ha.ne_nil hb.ne_nil,
    ← map_eq_comparisons_iff trim_of_ofAlternatives
      (fun part hpart ↦ (Operator.mem_split hpart).1) hoperands]
  simp only [ofClauses, hoccurs, if_true]
  exact ⟨fun h ↦ (Expression.group.inj h).2.2, fun h ↦ congrArg all h⟩

end Between

/-- The symbol of NOT is looked for last, so no other operator may stand in it. -/
theorem ofClauses_not_iff :
    ofClauses settings name (settings.operators.not.symbol ++ a) = negate (comparison name a) ↔
      settings.operators.and.occursIn settings.operators.not.symbol = false ∧
        settings.operators.or.occursIn settings.operators.not.symbol = false := by
  have hand : settings.operators.and.occursIn (settings.operators.not.symbol ++ a) =
      settings.operators.and.occursIn settings.operators.not.symbol :=
    (Operator.foreign_nil _).occursIn_around ha.and_foreign hvalid.and_ne_nil _
  have hor : settings.operators.or.occursIn (settings.operators.not.symbol ++ a) =
      settings.operators.or.occursIn settings.operators.not.symbol :=
    (Operator.foreign_nil _).occursIn_around ha.or_foreign hvalid.or_ne_nil _
  have hoperand : settings.operators.not.operand? (settings.operators.not.symbol ++ a) = some a := by
    have hdrop : Text.dropFront? settings.operators.not.symbol
        (settings.operators.not.symbol ++ a) = some a :=
      Text.dropFront?_eq_some_iff.mpr rfl
    simp only [Operator.operand?, hdrop, ha.not_foreign.trimmed]
  rw [ofClauses, hand, ofAlternatives, hor]
  cases settings.operators.and.occursIn settings.operators.not.symbol with
  | true => simp [all, negate]
  | false =>
    cases settings.operators.or.occursIn settings.operators.not.symbol with
    | true =>
      simp only [Bool.false_eq_true, if_false, if_true]
      split <;> simp [membership, any, negate]
    | false => simp [ofLiteral, hoperand]

end Symbols

/-- In valid settings, whatever the spelling of the operators is, a symbol between or before operands
of other characters is read as its operator unless an operator that is looked for earlier stands in
it or it has operands of its own. -/
theorem parse?_symbols (hvalid : settings.IsValid) (hlimit : 2 ≤ settings.orLimit)
    (htrim : Text.trim key = key)
    (hkey : Text.contains settings.operators.or.symbol key = false)
    (ha : settings.operators.Plain a) (hb : settings.operators.Plain b) :
    let ops := settings.operators
    (parse? settings key (a ++ ops.or.symbol ++ b) =
        some (any [comparison key a, comparison key b]) ↔
      ops.and.occursIn ops.or.symbol = false ∧ ops.or.split ops.or.symbol = []) ∧
    (parse? settings key (a ++ ops.and.symbol ++ b) =
        some (all [comparison key a, comparison key b]) ↔
      ops.and.split ops.and.symbol = []) ∧
    (parse? settings key (ops.not.symbol ++ a) = some (negate (comparison key a)) ↔
      ops.and.occursIn ops.not.symbol = false ∧ ops.or.occursIn ops.not.symbol = false) := by
  intro ops
  have hbetween (symbol : Text) : Text.trim (a ++ (symbol ++ b)) ≠ [] :=
    Text.trim_ne_nil_of_subset ha.trim_ne_nil (List.subset_append_left _ _)
  have hbehind : Text.trim (ops.not.symbol ++ a) ≠ [] :=
    Text.trim_ne_nil_of_subset ha.trim_ne_nil (List.subset_append_right _ _)
  rw [List.append_assoc, List.append_assoc, parse?_of_single htrim hkey (hbetween _),
    parse?_of_single htrim hkey (hbetween _), parse?_of_single htrim hkey hbehind,
    Option.some.injEq, Option.some.injEq, Option.some.injEq]
  exact ⟨ofClauses_or_iff hvalid ha hb hlimit, ofClauses_and_iff hvalid ha hb,
    ofClauses_not_iff hvalid ha⟩

/-- A symbol of AND that holds the one of OR is looked for first, and one of OR is its own word. -/
theorem parse?_symbols_nested :
    let ops : Operators := { Operators.default with
      not := ⟨"not".toList, "NOT".toList⟩
      or := ⟨" OR ".toList, "OR".toList⟩
      and := ⟨"& OR &".toList, "AND".toList⟩ }
    let settings := { Settings.default with operators := ops }
    let leaf (value : String) := comparison "k".toList value.toList
    settings.IsValid ∧ ops.Plain "x-y".toList ∧ ops.Plain "z".toList ∧
      parse? settings "k".toList "x-y OR z".toList = some (any [leaf "x-y", leaf "z"]) ∧
      parse? settings "k".toList "x-y& OR &z".toList = some (all [leaf "x-y", leaf "z"]) ∧
      parse? settings "k".toList "notx-y".toList = some (negate (leaf "x-y")) := by
  intro ops settings leaf
  have hvalid : settings.IsValid := by decide
  have ha : ops.Plain "x-y".toList := by decide
  have hb : ops.Plain "z".toList := by decide
  have hkey : Text.trim "k".toList = "k".toList := by decide
  obtain ⟨hor, hand, hnot⟩ := parse?_symbols hvalid (by decide) hkey (by decide) ha hb
  have hword : ∀ word, ops.and.middleWord? = some word → ¬ word <:+: ops.and.symbol := by
    rintro word hword
    obtain rfl := Option.some.inj hword
    decide
  exact ⟨hvalid, ha, hb, hor.mpr ⟨by decide, by decide⟩,
    hand.mpr (Operator.split_symbol_eq_nil (by decide) hword), hnot.mpr ⟨by decide, by decide⟩⟩

/-- Symbols of OR and NOT that hold the one of AND are accepted and never read. -/
theorem parse?_shadowed_symbols :
    let ops : Operators := { Operators.default with
      not := ⟨"|!".toList, "NOT".toList⟩
      or := ⟨"||".toList, "OR".toList⟩
      and := ⟨"|".toList, "AND".toList⟩ }
    let settings := { Settings.default with operators := ops }
    let leaf (value : String) := comparison "k".toList value.toList
    settings.IsValid ∧ 2 ≤ settings.orLimit ∧ Text.trim "k".toList = "k".toList ∧
      Text.contains ops.or.symbol "k".toList = false ∧ ops.Plain "x".toList ∧
      ops.Plain "y".toList ∧
      parse? settings "k".toList ("x".toList ++ ops.or.symbol ++ "y".toList) =
        some (all [leaf "x", leaf "y"]) ∧
      parse? settings "k".toList ("x".toList ++ ops.or.symbol ++ "y".toList) ≠
        some (any [leaf "x", leaf "y"]) ∧
      parse? settings "k".toList (ops.not.symbol ++ "x".toList) ≠ some (negate (leaf "x")) := by
  intro ops settings leaf
  have hor : parse? settings "k".toList ("x".toList ++ ops.or.symbol ++ "y".toList) =
      some (all [leaf "x", leaf "y"]) := rfl
  have hnot : parse? settings "k".toList (ops.not.symbol ++ "x".toList) =
      some (all [leaf "!x"]) := rfl
  have hx : ops.Plain "x".toList := by decide
  have hy : ops.Plain "y".toList := by decide
  refine ⟨by decide, by decide, by decide, by decide, hx, hy, hor, ?_, ?_⟩
  · rw [hor]
    simp [all, any]
  · rw [hnot]
    simp [all, negate]

end Expression

end RecordSearch
