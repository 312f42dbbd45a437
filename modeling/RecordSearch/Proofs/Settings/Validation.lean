import RecordSearch.Settings.Validation

/-!
# Tokens of valid settings

No token of valid settings is blank. So the symbols of the operators between literals and the sort
marks are found in texts at their own characters only.
-/

namespace RecordSearch.Settings

variable {settings : Settings}

/-- The tokens without the keys that they are written under. -/
theorem map_snd_tokens (settings : Settings) : settings.tokens.map Prod.snd =
    [settings.operators.not.symbol, settings.operators.or.symbol, settings.operators.and.symbol,
      settings.operators.like.symbol, settings.operators.less.symbol,
      settings.operators.greater.symbol, settings.operators.range.symbol, settings.operators.null,
      settings.wildcards.many, settings.wildcards.one, settings.sortMarks.ascending,
      settings.sortMarks.descending, settings.truthWords.yes, settings.truthWords.no,
      settings.disjunctionKey] :=
  rfl

namespace IsValid

theorem trim_ne_nil (h : settings.IsValid) {token : Text}
    (htoken : token ∈ settings.tokens.map Prod.snd) : Text.trim token ≠ [] := by
  obtain ⟨entry, hentry, rfl⟩ := List.mem_map.mp htoken
  unfold IsValid fault? at h
  split at h
  · cases h
  · rename_i hnone
    simpa using List.find?_eq_none.mp hnone entry hentry

theorem ne_nil (h : settings.IsValid) {token : Text}
    (htoken : token ∈ settings.tokens.map Prod.snd) : token ≠ [] := fun hnil ↦
  h.trim_ne_nil htoken (by rw [hnil]; rfl)

theorem not_ne_nil (h : settings.IsValid) : settings.operators.not.symbol ≠ [] :=
  h.ne_nil (by simp [map_snd_tokens])

theorem or_ne_nil (h : settings.IsValid) : settings.operators.or.symbol ≠ [] :=
  h.ne_nil (by simp [map_snd_tokens])

theorem and_ne_nil (h : settings.IsValid) : settings.operators.and.symbol ≠ [] :=
  h.ne_nil (by simp [map_snd_tokens])

theorem ascending_visible (h : settings.IsValid) : Text.trim settings.sortMarks.ascending ≠ [] :=
  h.trim_ne_nil (by simp [map_snd_tokens])

theorem descending_visible (h : settings.IsValid) : Text.trim settings.sortMarks.descending ≠ [] :=
  h.trim_ne_nil (by simp [map_snd_tokens])

theorem ascending_ne_nil (h : settings.IsValid) : settings.sortMarks.ascending ≠ [] :=
  h.ne_nil (by simp [map_snd_tokens])

theorem descending_ne_nil (h : settings.IsValid) : settings.sortMarks.descending ≠ [] :=
  h.ne_nil (by simp [map_snd_tokens])

end IsValid

end RecordSearch.Settings
