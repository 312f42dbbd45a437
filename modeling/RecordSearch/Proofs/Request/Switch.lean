import RecordSearch.Proofs.Condition.Compile
import RecordSearch.Proofs.Dictionary
import RecordSearch.Proofs.Settings.Validation
import RecordSearch.Proofs.Text.Ends
import RecordSearch.Request.Basic

/-!
# The switch to OR

The filters of a request are joined by OR if the disjunction key is among them. A request takes the key
in as it takes in any name, without the blanks around it, and a map of filters has it only as it is. So
the switch works exactly if no blanks stand around the disjunction key, which valid settings may have.
-/

namespace RecordSearch

namespace Expression

variable {settings : Settings} {filters : Dictionary Text}

/-- Under the disjunction key the members stay as they are and are joined by OR. -/
theorem ofFilters_insert_switch (settings : Settings) (filters : Dictionary Text) (value : Text) :
    ofFilters settings (filters.insert settings.disjunctionKey value) =
      any (filters.entries.filterMap (ofMapPair? settings)) := by
  have hnone (v : Text) : ofMapPair? settings (settings.disjunctionKey, v) = none := by
    simp [ofMapPair?]
  have hswitch : (filters.insert settings.disjunctionKey value).contains
      settings.disjunctionKey := by
    simp [Dictionary.contains, Dictionary.get?_insert]
  rw [ofFilters_eq, Dictionary.any_key_eq, hswitch, Dictionary.insert,
    Dictionary.filterMap_insertEntry hnone]
  rfl

/-- Without the disjunction key the members are joined by AND. -/
theorem ofFilters_of_not_contains (h : filters.contains settings.disjunctionKey = false) :
    ofFilters settings filters = all (filters.entries.filterMap (ofMapPair? settings)) := by
  rw [ofFilters_eq, Dictionary.any_key_eq, h]
  rfl

theorem not_contains_insert {key : Text} (hkey : key ≠ settings.disjunctionKey)
    (h : filters.contains settings.disjunctionKey = false) (value : Text) :
    (filters.insert key value).contains settings.disjunctionKey = false := by
  rw [Dictionary.contains, Dictionary.get?_insert, if_neg hkey.symm]
  exact h

end Expression

namespace Request

variable {settings : Settings} {request : Request}

theorem filters_addFilter {name value : Text} (hname : Text.trim name ≠ [])
    (hvalue : Text.trim value ≠ []) :
    (request.addFilter name value).filters =
      request.filters.insert (Text.trim name) (Text.trim value) := by
  rw [addFilter, Text.nonBlank?_of_visible hname, Text.nonBlank?_of_visible hvalue]

open Expression in
/-- A disjunction key without blanks around it joins the members that a request has by OR, and does
nothing else. Under any other key the filters stay joined by AND. -/
theorem ofFilters_addFilter_switch (hvalid : settings.IsValid)
    (habsent : request.filters.contains settings.disjunctionKey = false) :
    let switched := request.addFilter settings.disjunctionKey "true".toList
    ∃ members, ofFilters settings request.filters = all members ∧
      (Text.trim settings.disjunctionKey = settings.disjunctionKey →
        ofFilters settings switched.filters = any members) ∧
      (Text.trim settings.disjunctionKey ≠ settings.disjunctionKey →
        ∃ others, ofFilters settings switched.filters = all others) := by
  intro switched
  have hkey : Text.trim settings.disjunctionKey ≠ [] :=
    hvalid.trim_ne_nil (by simp [Settings.map_snd_tokens])
  have hswitched : switched.filters =
      request.filters.insert (Text.trim settings.disjunctionKey) "true".toList :=
    filters_addFilter hkey (by decide)
  refine ⟨_, ofFilters_of_not_contains habsent, fun htrim ↦ ?_, fun htrim ↦ ?_⟩
  · rw [hswitched, htrim, ofFilters_insert_switch]
  · have hother : switched.filters.contains settings.disjunctionKey = false := by
      rw [hswitched]
      exact not_contains_insert htrim habsent _
    exact ⟨_, ofFilters_of_not_contains hother⟩

open Expression in
/-- A key that looks like two names, over a filter with an AND group of its own. -/
theorem ofFilters_addFilter_switch_names :
    let settings := { Settings.default with disjunctionKey := "any | of".toList }
    let request := (Request.empty.addFilter "a".toList "x".toList).addFilter "b".toList "y&z".toList
    let switched := request.addFilter settings.disjunctionKey "true".toList
    let leaf (name value : String) := comparison name.toList value.toList
    let members := [leaf "a" "x", all [leaf "b" "y", leaf "b" "z"]]
    settings.IsValid ∧ request.filters.contains settings.disjunctionKey = false ∧
      ofFilters settings request.filters = all members ∧
      ofFilters settings switched.filters = any members := by
  intro settings request switched leaf members
  have hvalid : settings.IsValid := by decide
  have habsent : request.filters.contains settings.disjunctionKey = false := by decide
  have hmembers : ofFilters settings request.filters = all members := rfl
  obtain ⟨others, hothers, hany, -⟩ := ofFilters_addFilter_switch hvalid habsent
  obtain rfl : others = members := by
    have hgroup := hothers.symm.trans hmembers
    simpa [all] using hgroup
  exact ⟨hvalid, habsent, hmembers, hany rfl⟩

open Expression in
/-- A key with blanks around it. -/
theorem ofFilters_addFilter_switch_blank :
    let settings := { Settings.default with disjunctionKey := " or ".toList }
    let request := (Request.empty.addFilter "a".toList "x".toList).addFilter "b".toList "y".toList
    let switched := request.addFilter settings.disjunctionKey "true".toList
    let leaf (name value : String) := comparison name.toList value.toList
    settings.IsValid ∧ request.filters.contains settings.disjunctionKey = false ∧
      ofFilters settings request.filters = all [leaf "a" "x", leaf "b" "y"] ∧
      ofFilters settings switched.filters ≠ any [leaf "a" "x", leaf "b" "y"] ∧
      ofFilters settings switched.filters =
        all [leaf "a" "x", leaf "b" "y", leaf "or" "true"] := by
  intro settings request switched leaf
  have hswitched : ofFilters settings switched.filters =
      all [leaf "a" "x", leaf "b" "y", leaf "or" "true"] := rfl
  refine ⟨by decide, by decide, rfl, ?_, hswitched⟩
  rw [hswitched]
  rintro ⟨⟩

end Request

end RecordSearch
