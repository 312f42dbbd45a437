import RecordSearch.Literal.Engine
import RecordSearch.Proofs.Condition.Names
import RecordSearch.Settings.Validation

/-!
# Search terms and excluded attributes

A search term is asked for under the name of each searchable attribute, and this name is read like
the key of any other filter. Excluded attributes do not count for the verdict unless such a name
lists one of them.
-/

namespace RecordSearch

/-- No name of a searchable attribute lists an excluded one when it is read as a key. -/
def Schema.KeepsExcluded (schema : Schema) (settings : Settings) : Prop :=
  ∀ key ∈ schema.searchable, ∀ name ∈ settings.namesOfKey key, ∀ a, schema.get? name = some a →
    a.excludedFromSearch = false

variable {schema : Schema} {settings : Settings}

theorem Schema.exists_of_mem_searchable {name : Text} (h : name ∈ schema.searchable) :
    ∃ a, schema.get? name = some a ∧ a.excludedFromSearch = false := by
  obtain ⟨⟨key, a⟩, hentry, rfl⟩ := List.mem_map.mp h
  obtain ⟨hmem, hsearched⟩ := List.mem_filter.mp hentry
  exact ⟨a, Dictionary.get?_eq_some_of_mem hmem, by simpa using hsearched⟩

/-- Trimmed names without OR list only themselves. -/
theorem Schema.keepsExcluded_of_plain
    (h : ∀ key ∈ schema.searchable,
      Text.trim key = key ∧ Text.contains settings.operators.or.symbol key = false) :
    schema.KeepsExcluded settings := by
  intro key hkey name hname a ha
  obtain ⟨htrim, hunjoined⟩ := h key hkey
  obtain rfl : name = key := by simpa [Settings.namesOfKey, hunjoined, htrim] using hname
  obtain ⟨b, hb, hsearched⟩ := exists_of_mem_searchable hkey
  rw [hb] at ha
  exact Option.some.inj ha ▸ hsearched

/-- A search term is asked for on attributes that the searchable names list. -/
theorem Expression.names_ofSearchTerm_subset (schema : Schema) (settings : Settings) (term : Text) :
    (ofSearchTerm schema settings term).names ⊆
      schema.searchable.flatMap settings.namesOfKey := by
  unfold ofSearchTerm
  split
  · exact List.nil_subset _
  · apply names_ofFilters_subset
    intro entry hentry hswitch name hname
    rcases Dictionary.mem_insert hentry with rfl | hentry
    · exact absurd rfl hswitch
    · obtain ⟨key, hkey, rfl⟩ := List.mem_map.mp (Dictionary.mem_ofList hentry)
      exact List.mem_flatMap.mpr ⟨key, hkey, hname⟩

namespace Condition

variable {ρ : Type} [Record ρ] {record record' : ρ}

/-- Where searchable names list no excluded attribute, records that differ only in excluded ones get
the same verdict for any search term. -/
theorem selects_ofSearchTerm_congr [Pattern.Engine] (hkeeps : schema.KeepsExcluded settings)
    (hagree : ∀ name a, schema.get? name = some a → a.excludedFromSearch = false →
      Record.value record name = Record.value record' name) (term : Text) :
    selects (ofSearchTerm schema settings term) record =
      selects (ofSearchTerm schema settings term) record' := by
  apply selects_compile_congr
  rintro name ⟨hknown, raw, hraw, htrim⟩
  obtain ⟨key, hkey, hlisted⟩ :=
    List.mem_flatMap.mp (Expression.names_ofSearchTerm_subset schema settings term hraw)
  obtain rfl : raw = name := (settings.trim_of_mem_namesOfKey hlisted).symm.trans htrim
  obtain ⟨a, ha⟩ := Option.isSome_iff_exists.mp hknown
  exact hagree raw a ha (hkeeps key hkey raw hlisted a ha)

/-- Views that differ in an excluded attribute only agree on the searched ones. -/
theorem update_agree {excluded : Text} {b : Attribute} (hexcluded : schema.get? excluded = some b)
    (hb : b.excludedFromSearch) (view : Text → Value) (v v' : Value) :
    ∀ name a, schema.get? name = some a → a.excludedFromSearch = false →
      Record.value (Function.update view excluded v) name =
        Record.value (Function.update view excluded v') name := by
  intro name a ha hsearched
  have hne : name ≠ excluded := by
    rintro rfl
    rw [hexcluded] at ha
    obtain rfl := Option.some.inj ha
    exact absurd hb (by simp [hsearched])
  exact (Function.update_of_ne hne v view).trans (Function.update_of_ne hne v' view).symm

theorem selects_ofSearchTerm_congr_plain :
    let schema : Schema :=
      (Dictionary.empty.insert "b".toList (Attribute.ofType .text)).insert "a".toList
        { Attribute.ofType .text with excludedFromSearch := true }
    let record (s : String) : Text → Value :=
      Function.update (fun _ ↦ .text "xy".toList) "a".toList (.text s.toList)
    let selects (s : String) := selects (ofSearchTerm schema .default "z".toList) (record s)
    schema.KeepsExcluded .default ∧
      (∀ name a, schema.get? name = some a → a.excludedFromSearch = false →
        Record.value (record "u") name = Record.value (record "z") name) ∧
      selects "u" = selects "z" := by
  intro schema record selects
  have hkeeps : schema.KeepsExcluded .default := Schema.keepsExcluded_of_plain (by decide)
  have hagree : ∀ name a, schema.get? name = some a → a.excludedFromSearch = false →
      Record.value (record "u") name = Record.value (record "z") name :=
    update_agree rfl rfl _ _ _
  exact ⟨hkeeps, hagree, selects_ofSearchTerm_congr hkeeps hagree _⟩

/-- A searchable name that is read as a list with an excluded attribute on it. -/
theorem selects_ofSearchTerm_joined :
    let schema : Schema :=
      (Dictionary.empty.insert "a|b".toList (Attribute.ofType .text)).insert "a".toList
        { Attribute.ofType .text with excludedFromSearch := true }
    let record (s : String) : Text → Value :=
      Function.update (fun _ ↦ .text "x".toList) "a".toList (.text s.toList)
    let selects (s : String) := selects (ofSearchTerm schema .default "x".toList) (record s)
    Settings.default.IsValid ∧
      (∀ name a, schema.get? name = some a → a.excludedFromSearch = false →
        Record.value (record "x") name = Record.value (record "y") name) ∧
      selects "x" ≠ selects "y" := by
  intro schema record selects
  exact ⟨by decide, update_agree rfl rfl _ _ _, by decide +kernel⟩

end Condition

end RecordSearch
