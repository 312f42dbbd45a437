import RecordSearch.Literal.Engine
import RecordSearch.Proofs.Condition.Disjunction
import RecordSearch.Proofs.Condition.UnknownNames

/-!
# Search terms as disjunctions

A search term is one filter for each searchable attribute, and the filters are joined by OR. So it has
a condition if the term has one as a filter on one of these attributes, and it holds where one of
these filters does.
-/

namespace RecordSearch

theorem Schema.ascending_searchable (schema : Schema) (term : Text) :
    Dictionary.Ascending (schema.searchable.map fun name ↦ (name, term)) := by
  have hnames : schema.searchable.Pairwise fun a b ↦ compare a b = .lt :=
    List.pairwise_map.mpr (schema.ascending.filter _)
  exact List.pairwise_map.mpr hnames

namespace Condition

variable {ρ : Type} [Record ρ] {schema : Schema} {settings : Settings} {name term : Text}
  {view : Text → Value}

theorem ofMapEntry_of_blank [Pattern.Engine] (hterm : Text.trim term = []) (name : Text) :
    ofMapEntry schema settings (name, term) = none := by
  have hparse : Expression.parse? settings name term = none := by
    rw [Expression.parse?, if_pos (by simp [hterm])]
  simp [ofMapEntry, ofEntry, hparse]

/-- A map with one entry compiles to the condition of the entry in a group of its own. -/
theorem ofFilter_eq_map [Pattern.Engine] (schema : Schema) (settings : Settings)
    (name value : Text) :
    ofFilter schema settings name value =
      (ofMapEntry schema settings (name, value)).map fun c ↦
        .group (.ofDisjunctive (name == settings.disjunctionKey)) false [c] := by
  have hentries : (Dictionary.empty.insert name value).entries = [(name, value)] := rfl
  rw [ofFilter, ofFilters_eq, hentries, List.filterMap_cons]
  cases ofMapEntry schema settings (name, value) <;> simp [ofMembers]

theorem holds_group_singleton (connective : Connective) (c : Condition) :
    (group connective false [c]).holds view = c.holds view := by
  cases connective <;> simp [holds, holdsAll, holdsAny]

theorem exists_holds_ofFilter_iff [Pattern.Engine] :
    (∃ d ∈ ofFilter schema settings name term, d.holds view) ↔
      ∃ c ∈ ofMapEntry schema settings (name, term), c.holds view := by
  rw [ofFilter_eq_map]
  cases ofMapEntry schema settings (name, term) <;> simp [holds_group_singleton]

/-- A search term is any of the filters for it on searchable attributes. -/
theorem isAnyOf_ofSearchTerm [Pattern.Engine] (schema : Schema) (settings : Settings)
    (term : Text) :
    IsAnyOf (ofSearchTerm schema settings term)
      (schema.searchable.map fun name ↦ ofMapEntry schema settings (name, term)) := by
  by_cases hterm : Text.trim term = []
  · have hnone : ofSearchTerm schema settings term = none := by
      simp [ofSearchTerm, Expression.ofSearchTerm, hterm, Expression.empty, Expression.all,
        compile_group, ofMembers]
    rw [hnone]
    constructor <;> simp [ofMapEntry_of_blank hterm]
  · let filters := Dictionary.ofList (schema.searchable.map fun name ↦ (name, term))
    have hentries : filters.entries = schema.searchable.map fun name ↦ (name, term) :=
      Dictionary.entries_ofList (schema.ascending_searchable term)
    have hswitch (value : Text) :
        ofMapEntry schema settings (settings.disjunctionKey, value) = none := by
      simp [ofMapEntry]
    -- The disjunction key joins the others by OR and is no filter itself.
    have hor : (filters.insert settings.disjunctionKey []).entries.any
        (fun entry ↦ entry.1 == settings.disjunctionKey) = true :=
      List.any_eq_true.mpr ⟨_, Dictionary.mem_insert_self _, BEq.rfl⟩
    have hsearch : ofSearchTerm schema settings term = ofMembers .or false
        (schema.searchable.filterMap fun name ↦ ofMapEntry schema settings (name, term)) := by
      calc
        _ = ofFilters schema settings (filters.insert settings.disjunctionKey []) := by
          rw [ofSearchTerm, Expression.ofSearchTerm, if_neg (by simpa using hterm)]
          rfl
        _ = ofMembers .or false ((filters.insert settings.disjunctionKey []).entries.filterMap
              (ofMapEntry schema settings)) := by
          rw [ofFilters_eq, hor]
          rfl
        _ = _ := by
          rw [Dictionary.insert, Dictionary.filterMap_insertEntry hswitch, hentries,
            List.filterMap_map]
          rfl
    rw [hsearch]
    exact isAnyOf_ofMembers _ _

/-- A search term has a condition if it has one as the filter on a searchable attribute, and a record
satisfies the condition if it satisfies that of one of these filters. -/
theorem holds_ofSearchTerm [Pattern.Engine] (schema : Schema) (settings : Settings) (term : Text) :
    ((ofSearchTerm schema settings term).isSome ↔
      ∃ name ∈ schema.searchable, (ofFilter schema settings name term).isSome) ∧
    ∀ c ∈ ofSearchTerm schema settings term, ∀ record : ρ, c.holds (Record.value record) ↔
      ∃ name ∈ schema.searchable, ∃ d ∈ ofFilter schema settings name term,
        d.holds (Record.value record) := by
  have hany := isAnyOf_ofSearchTerm schema settings term
  constructor
  · rw [hany.isSome_iff]
    simp [ofFilter_eq_map]
  · intro c hc record
    have hcondition : c.holds (Record.value record) ↔
        ∃ d ∈ ofSearchTerm schema settings term, d.holds (Record.value record) := by
      rw [Option.mem_def.mp hc]
      simp
    rw [hcondition, hany.holds_iff]
    simp only [List.mem_map, exists_exists_and_eq_and, exists_holds_ofFilter_iff]

/-- A term that is no filter for integers is still looked for in texts. -/
theorem holds_ofSearchTerm_texts :
    let schema := (Dictionary.empty.insert "n".toList (Attribute.ofType (.numeric .integer))).insert
      "s".toList (Attribute.ofType .text)
    let found : List (Text × Value) := [("n".toList, .integer 5), ("s".toList, .text "cab".toList)]
    let other : List (Text × Value) := [("n".toList, .integer 5)]
    ofFilter schema .default "n".toList "ab".toList = none ∧
      ∃ c ∈ ofSearchTerm schema .default "ab".toList,
        c.holds (Record.value found) ∧ ¬ c.holds (Record.value other) := by
  intro schema found other
  have hnumber : ofFilter schema .default "n".toList "ab".toList = none := by decide
  have htext : (ofFilter schema .default "s".toList "ab".toList).isSome := by decide
  obtain ⟨hsome, hholds⟩ :=
    holds_ofSearchTerm (ρ := List (Text × Value)) schema .default "ab".toList
  obtain ⟨c, hc⟩ := Option.isSome_iff_exists.mp (hsome.mpr ⟨"s".toList, by decide, htext⟩)
  refine ⟨hnumber, c, hc, (hholds c hc found).mpr ?_, mt (hholds c hc other).mp ?_⟩
  · decide
  · decide

end Condition

end RecordSearch
