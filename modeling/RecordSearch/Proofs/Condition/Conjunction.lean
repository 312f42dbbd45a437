import RecordSearch.Literal.Engine
import RecordSearch.Proofs.Condition.Compile

/-!
# Conjunctions of filters

A group of AND selects the records that each of its members selects, also those members of which
nothing is left. The parts of two filters with AND between them are the parts of both, whatever
stands in them, so the filter selects what both select.
-/

namespace RecordSearch

namespace Condition

variable {ρ : Type} [Record ρ] {schema : Schema} {settings : Settings} {key value v w : Text}
  {record : ρ}

/-- The condition of one filter on a key of any form. -/
def ofEntry [Pattern.Engine] (schema : Schema) (settings : Settings) (key value : Text) :
    Option Condition :=
  (Expression.parse? settings key value).bind (compile schema settings)

theorem selects_iff {condition : Option Condition} :
    selects condition record ↔ ∀ c ∈ condition, c.holds (Record.value record) := by
  cases condition with
  | none => simp [selects]
  | some c => simp [selects]

/-- A group of AND selects what each of its members does. -/
theorem selects_all_iff [Pattern.Engine] {es : List Expression} :
    selects (compile schema settings (.all es)) record ↔
      ∀ e ∈ es, selects (compile schema settings e) record := by
  have hmembers : selects (ofMembers .and false (es.filterMap (compile schema settings))) record ↔
      ∀ c ∈ es.filterMap (compile schema settings), c.holds (Record.value record) := by
    cases es.filterMap (compile schema settings) with
    | nil => simp [ofMembers, selects]
    | cons c cs => simp [ofMembers, selects, holds, holdsAll_iff, holdsAll]
  rw [Expression.all, compile_group, hmembers]
  simp only [List.mem_filterMap, selects_iff, Option.mem_def]
  constructor
  · intro h e he c hc
    exact h c ⟨e, he, hc⟩
  · rintro h c ⟨e, he, hc⟩
    exact h e he c hc

/-- A filter selects what each of its AND parts does. -/
theorem selects_ofEntry_iff [Pattern.Engine] (hoperators : settings.operators = .default)
    (htrim : Text.trim value = value) (hvalue : value ≠ []) :
    selects (ofEntry schema settings key value) record ↔
      ∀ part ∈ settings.operators.and.split value,
        selects (compile schema settings (.ofPart settings key part)) record := by
  have hand : settings.operators.and.MarkedBy '&' := hoperators ▸ Operators.marked_default.and
  have hblank : Text.trim value ≠ [] := htrim.symm ▸ hvalue
  rw [ofEntry, Expression.parse?_eq settings key hblank, Option.bind_some]
  cases hoccurs : settings.operators.and.occursIn value with
  | true => simp [selects_all_iff]
  | false => simp [hand.split_of_not_occursIn hoccurs hblank, htrim]

/-- Two filters with AND between them select what both select. -/
theorem selects_ofEntry_and [Pattern.Engine] (hoperators : settings.operators = .default)
    (hv : Text.trim v = v) (hv' : v ≠ []) (hw : Text.trim w = w) (hw' : w ≠ []) :
    selects (ofEntry schema settings key (v ++ settings.operators.and.symbol ++ w)) record ↔
      selects (ofEntry schema settings key v) record ∧
        selects (ofEntry schema settings key w) record := by
  have hand : settings.operators.and.MarkedBy '&' := hoperators ▸ Operators.marked_default.and
  have hjoined : v ++ settings.operators.and.symbol ++ w = v ++ '&' :: w := by
    rw [hand.symbol_eq, List.append_assoc]
    rfl
  have htrim : Text.trim (v ++ settings.operators.and.symbol ++ w) =
      v ++ settings.operators.and.symbol ++ w := Text.trim_append_append hv hv' hw hw' _
  rw [selects_ofEntry_iff hoperators htrim (by simp [hv']), hjoined, hand.split_append,
    List.forall_mem_append, selects_ofEntry_iff hoperators hv hv',
    selects_ofEntry_iff hoperators hw hw']

/-- A part without an alternative constrains nothing, but the other parts do. -/
theorem selects_ofEntry_and_blank :
    let schema : Schema := Dictionary.empty.insert "k".toList (Attribute.ofType .text)
    let v := "ab AND |".toList
    let w := "!x".toList
    let filter := ofEntry schema .default "k".toList (v ++ ['&'] ++ w)
    let record (s : Text) : Text → Value := fun _ ↦ .text s
    (Text.trim v = v ∧ v ≠ []) ∧ (Text.trim w = w ∧ w ≠ []) ∧
      selects filter (record "cab".toList) ∧ ¬ selects filter (record "xab".toList) := by
  intro schema v w filter record
  have hv : Text.trim v = v ∧ v ≠ [] := by decide
  have hw : Text.trim w = w ∧ w ≠ [] := by decide
  have hfilter (record : Text → Value) : selects filter record ↔
      selects (ofEntry schema .default "k".toList v) record ∧
        selects (ofEntry schema .default "k".toList w) record :=
    selects_ofEntry_and rfl hv.1 hv.2 hw.1 hw.2
  refine ⟨hv, hw, (hfilter _).mpr ⟨?_, ?_⟩, fun h ↦ absurd ((hfilter _).mp h).2 ?_⟩
  all_goals decide +kernel

end Condition

end RecordSearch
