import RecordSearch.Proofs.Condition.Membership
import RecordSearch.Proofs.Literal.Exact

/-!
# The limit for alternatives

Exact alternatives mean the same as a group and as a membership: both select the values that equal
one of them. The limit between the two forms is invisible as long as nothing else is among the
alternatives.
-/

namespace RecordSearch.Condition

open Literal

variable {ρ : Type} [Record ρ] {schema : Schema} {settings : Settings} {a : Attribute}
  {name part : Text} {parts : List Text} {record : ρ}

section Leaf

variable [Pattern.Engine] (hname : Text.trim name = name) (ha : schema.get? name = some a)

include hname ha

theorem compile_exact (hplain : Plain settings part)
    (hexact : IsExactText settings a.effectiveType part) :
    compile schema settings (Expression.ofLiteral settings name part) =
      (item? settings a.effectiveType part).map (.leaf name) := by
  have hliteral : Expression.ofLiteral settings name part = .comparison name part := by
    simp only [Expression.ofLiteral, hplain.not_negated, hplain.trimmed]
  rw [hliteral, compile_comparison hname ha hplain.trimmed hplain.ne_nil, Literal.classify,
    hexact.classifyAs_eq hplain]
  cases hitem : item? settings a.effectiveType part with
  | none => rfl
  | some item =>
    have hequality := isEquality_of_item? hitem
    have hrecognized : item.isRecognized := by
      cases item <;> first | rfl | cases hequality
    rw [Option.getD_some, if_pos hrecognized]
    rfl

/-- As a group, exact alternatives choose among their items. -/
theorem chooses_group (hplain : ∀ part ∈ parts, Plain settings part)
    (hexact : ∀ part ∈ parts, IsExactText settings a.effectiveType part) :
    Chooses (compile schema settings (.any (parts.map (Expression.ofLiteral settings name))))
      name (parts.filterMap (item? settings a.effectiveType)) := by
  have hleaves : (parts.map (Expression.ofLiteral settings name)).filterMap
      (compile schema settings) =
        (parts.filterMap (item? settings a.effectiveType)).map (.leaf name) := by
    rw [List.filterMap_map, List.map_filterMap]
    exact List.filterMap_congr fun part hpart ↦
      compile_exact hname ha (hplain part hpart) (hexact part hpart)
  rw [Expression.any, compile_group, hleaves]
  cases parts.filterMap (item? settings a.effectiveType) with
  | nil => exact ⟨by simp [ofMembers], by simp [ofMembers]⟩
  | cons item items =>
    refine ⟨by simp [ofMembers], fun c hc view ↦ ?_⟩
    obtain rfl := Option.some.inj hc
    simp [holds, holdsAny, holdsAny_iff]

end Leaf

section Joined

variable (hoperators : settings.operators = .default)
  (hseparators : settings.decimalSeparators = Settings.default.decimalSeparators)
  (hexact : ∀ part ∈ parts, IsExactText settings a.effectiveType part) (hparts : parts ≠ [])

include hoperators hseparators hexact

theorem plain_of_exact : ∀ part ∈ parts, Plain settings part := fun part hpart ↦
  (hexact part hpart).plain hoperators hseparators

include hparts

/-- Joined exact alternatives are the operands of OR. -/
theorem split_joined :
    settings.operators.or.split (Text.join settings.operators.or.symbol parts) = parts := by
  have hplain := plain_of_exact hoperators hseparators hexact
  have hor : settings.operators.or.MarkedBy '|' := hoperators ▸ Operators.marked_default.or
  rw [hor.symbol_eq]
  exact hor.split_join (fun part hpart ↦ (hplain part hpart).without_or)
    (fun part hpart ↦ (hplain part hpart).trimmed) (fun part hpart ↦ (hplain part hpart).ne_nil)
    hparts

theorem trim_joined : Text.trim (Text.join settings.operators.or.symbol parts) ≠ [] := by
  apply trim_ne_nil_of_split hoperators
  rwa [split_joined hoperators hseparators hexact hparts]

variable [Pattern.Engine] (ha : schema.get? name = some a)

include ha

/-- Whatever the limit is, joined exact alternatives choose among their items. -/
theorem chooses_joined (hname : Text.trim name = name) :
    Chooses (compile schema settings
        (Expression.ofClauses settings name (Text.join settings.operators.or.symbol parts)))
      name (parts.filterMap (item? settings a.effectiveType)) := by
  have hplain := plain_of_exact hoperators hseparators hexact
  have hor : settings.operators.or.MarkedBy '|' := hoperators ▸ Operators.marked_default.or
  have hand : settings.operators.and.MarkedBy '&' := hoperators ▸ Operators.marked_default.and
  have hsplit := split_joined hoperators hseparators hexact hparts
  have hvalue := trim_joined hoperators hseparators hexact hparts
  rw [hor.symbol_eq] at hsplit hvalue ⊢
  have hwithout : settings.operators.and.occursIn (Text.join ['|'] parts) = false :=
    hand.not_occursIn_join (by decide) (by rw [hoperators]; decide)
      fun part hpart ↦ (hplain part hpart).without_and
  have hnormal : settings.operators.or.normalize (Text.join ['|'] parts) = Text.join ['|'] parts :=
    hor.normalize_join fun part hpart ↦ (hplain part hpart).without_or
  cases hoccurs : settings.operators.or.occursIn (Text.join ['|'] parts) with
  | true =>
    by_cases hlimit : parts.length ≤ settings.orLimit
    · rw [ofClauses_of_within hwithout hoccurs (by rwa [hsplit]), hsplit]
      exact chooses_group hname ha hplain hexact
    · have hchooses : Chooses (compile schema settings (.membership name _)) name _ :=
        chooses_membership hname ha hvalue
      rw [hsplit] at hchooses
      rwa [ofClauses_of_over hwithout hoccurs (by rw [hsplit]; omega), hnormal]
  | false =>
    -- a single alternative is read without OR, whatever the limit is
    obtain ⟨part, rfl⟩ : ∃ part, parts = [part] :=
      ⟨_, hsplit.symm.trans (hor.split_of_not_occursIn hoccurs hvalue)⟩
    have hjoin : Text.join ['|'] [part] = part := List.intercalate_singleton
    have hpart : part ∈ [part] := List.mem_singleton_self part
    rw [Expression.ofClauses_of_not_occursIn name hwithout hoccurs, hjoin,
      compile_exact hname ha (hplain part hpart) (hexact part hpart)]
    cases hitem : item? settings a.effectiveType part with
    | none => exact ⟨by simp [hitem], by simp⟩
    | some item =>
      refine ⟨by simp [hitem], fun c hc view ↦ ?_⟩
      obtain rfl := Option.some.inj hc
      simp [hitem, holds]

/-- For exact alternatives the limit does not show: any two limits leave the same filters without a
condition and select the same records. Texts select the values that are one of them. -/
theorem ofFilter_withOrLimit (hname : settings.SingleName name) (record : ρ) (m n : ℕ) :
    let condition (limit : ℕ) := ofFilter schema (settings.withOrLimit limit) name
      (Text.join settings.operators.or.symbol parts)
    (condition m).isSome = (condition n).isSome ∧
      selects (condition m) record = selects (condition n) record ∧
      (a.effectiveType = .text → (selects (condition m) record ↔
        Record.value record name ≠ .null ∧
          (Record.value record name).render ∈ parts.map Text.unquote)) := by
  intro condition
  have hvalue := trim_joined hoperators hseparators hexact hparts
  have hlimited (limit : ℕ) : (settings.withOrLimit limit).operators = .default := hoperators
  have hchooses (limit : ℕ) : Chooses (compile schema (settings.withOrLimit limit)
      (Expression.ofClauses (settings.withOrLimit limit) name
        (Text.join settings.operators.or.symbol parts)))
      name (parts.filterMap (item? settings a.effectiveType)) :=
    chooses_joined (hlimited limit) hseparators hexact hparts ha hname.trimmed
  have hsome (limit : ℕ) :
      (condition limit).isSome ↔ parts.filterMap (item? settings a.effectiveType) ≠ [] := by
    rw [isSome_ofFilter (hname.withOrLimit limit) hvalue]
    exact (hchooses limit).isSome_iff
  have hselects (limit : ℕ) : selects (condition limit) record ↔
      IsOneOf settings a.effectiveType parts (Record.value record name) := by
    rw [selects_ofFilter (hname.withOrLimit limit) hvalue, isOneOf_iff hparts]
    exact (hchooses limit).selects_iff record
  refine ⟨?_, ?_, fun htype ↦ ?_⟩
  · exact Bool.eq_iff_iff.mpr ((hsome m).trans (hsome n).symm)
  · exact Bool.eq_iff_iff.mpr ((hselects m).trans (hselects n).symm)
  · rw [hselects m, htype]
    rfl

end Joined

theorem ofFilter_withOrLimit_quoted :
    let schema : Schema := Dictionary.empty.insert "k".toList (Attribute.ofType .text)
    let parts := ["\"a b\"".toList, "\"c\"d\"".toList]
    let condition (limit : ℕ) := ofFilter schema (Settings.default.withOrLimit limit) "k".toList
      (Text.join ['|'] parts)
    let record : Text → Value := fun _ ↦ .text "a b".toList
    (∀ part ∈ parts, IsExactText Settings.default .text part) ∧
      selects (condition 1) record = selects (condition 2) record ∧
      selects (condition 1) record := by
  intro schema parts condition record
  have hname : Settings.default.SingleName "k".toList := ⟨by decide, by decide, by decide⟩
  have ha : schema.get? "k".toList = some (Attribute.ofType .text) := rfl
  have hexact : ∀ part ∈ parts, IsExactText Settings.default .text part := by
    simp only [IsExactText]
    decide
  obtain ⟨-, hsame, hverdict⟩ := ofFilter_withOrLimit rfl rfl hexact
    (List.cons_ne_nil _ _) ha hname record 1 2
  exact ⟨hexact, hsame, (hverdict rfl).mpr ⟨by decide, by decide⟩⟩

end RecordSearch.Condition
