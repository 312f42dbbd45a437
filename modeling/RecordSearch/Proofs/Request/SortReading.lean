import RecordSearch.Proofs.Request.SortToken

/-!
# Reading shown sorts

Reports show a sort with a minus sign in front of each descending name and nothing in front of the
others, whatever the marks of the settings are. A shown sort can be read again exactly if the minus
sign is the descending mark of its descending keys, and no name begins with a mark that would be taken
from it.
-/

namespace RecordSearch.SortKey

variable {schema : Schema} {settings : Settings} {marks : SortMarks} {key : SortKey}
  {keys : List SortKey} {mark s raw : Text}

/-- A shown key is taken for itself. -/
def ReadsBack (marks : SortMarks) (key : SortKey) : Prop :=
  ¬ marks.ascending <+: key.name ∧
    if key.descending then marks.descending = ['-'] else ¬ marks.descending <+: key.name

instance (marks : SortMarks) (key : SortKey) : Decidable (key.ReadsBack marks) :=
  inferInstanceAs (Decidable (¬ _ ∧ ite _ _ _))

/-- A name from which a mark is taken is not left whole. -/
theorem not_prefix_of_trim_dropMark (hmark : mark ≠ []) (h : Text.trim (dropMark mark s) = s) :
    ¬ mark <+: s := by
  rintro ⟨rest, rfl⟩
  rw [dropMark_append] at h
  have hlength := (Text.trim_infix rest).length_le
  rw [h, List.length_append] at hlength
  have hpos := List.length_pos_iff.mpr hmark
  omega

theorem ofToken?_render_ascending_iff (hascending : marks.ascending ≠ [])
    (htrim : Text.trim s = s) (hne : s ≠ []) :
    ofToken? marks s = some ⟨s, false⟩ ↔
      ¬ marks.ascending <+: s ∧ ¬ marks.descending <+: s := by
  rw [ofToken?_eq_some_iff, htrim, ← Bool.not_eq_true, Text.startsWith_iff]
  constructor
  · rintro ⟨-, hname, hstarts⟩
    rw [dropMark_of_absent hstarts] at hname
    exact ⟨not_prefix_of_trim_dropMark hascending hname, hstarts⟩
  · rintro ⟨hname, hstarts⟩
    rw [dropMark_of_absent hstarts, dropMark_of_absent hname]
    exact ⟨hne, htrim, hstarts⟩

theorem ofToken?_render_descending_iff (hascending : marks.ascending ≠ [])
    (hdescending : marks.descending ≠ []) (htrim : Text.trim s = s) (hne : s ≠ []) :
    ofToken? marks ('-' :: s) = some ⟨s, true⟩ ↔
      ¬ marks.ascending <+: s ∧ marks.descending = ['-'] := by
  have htoken : Text.trim (['-'] ++ s) = ['-'] ++ s :=
    Text.trim_append_of_trimmed (by decide) htrim hne
  rw [← List.singleton_append, ofToken?_eq_some_iff, htoken, Text.startsWith_iff]
  constructor
  · rintro ⟨-, hname, hstarts⟩
    obtain ⟨c, rest, hmark⟩ := List.exists_cons_of_ne_nil hdescending
    rw [hmark] at hname hstarts ⊢
    obtain ⟨rfl, behind, rfl⟩ := List.cons_prefix_cons.mp hstarts
    -- Whatever the mark takes of the name is lost.
    have hdrop : dropMark ('-' :: rest) (['-'] ++ (rest ++ behind)) = behind := dropMark_append _ _
    rw [hdrop] at hname
    dsimp only at hname
    obtain rfl : rest = [] := by
      have hlength := ((Text.trim_infix _).trans
        (dropMark_suffix marks.ascending behind).isInfix).length_le
      rw [hname, List.length_append] at hlength
      exact List.length_eq_zero_iff.mp (by omega)
    exact ⟨not_prefix_of_trim_dropMark hascending hname, rfl⟩
  · rintro ⟨hname, hmark⟩
    rw [hmark, dropMark_append, dropMark_of_absent hname]
    exact ⟨hne, htrim, List.prefix_append _ _⟩

/-- In valid settings a shown key is read as itself exactly if its name and the descending mark allow
it. -/
theorem ofToken?_render_iff (hvalid : settings.IsValid) (htrim : Text.trim key.name = key.name)
    (hne : key.name ≠ []) :
    ofToken? settings.sortMarks key.render = some key ↔ key.ReadsBack settings.sortMarks := by
  obtain ⟨name, descending⟩ := key
  cases descending with
  | false => exact ofToken?_render_ascending_iff hvalid.ascending_ne_nil htrim hne
  | true =>
    exact ofToken?_render_descending_iff hvalid.ascending_ne_nil hvalid.descending_ne_nil htrim hne

/-- The sort that a valid request is shown with is read again as the same keys exactly if each of them
is. -/
theorem parse_renderAll_iff (hvalid : settings.IsValid) (hparse : parse schema settings raw = .ok keys) :
    parse schema settings (renderAll keys) = .ok keys ↔
      ∀ key ∈ keys, key.ReadsBack settings.sortMarks := by
  obtain ⟨rfl, hschema⟩ := parse_eq_ok_iff.mp hparse
  have htokens : ∀ token ∈ (ofTokens settings.sortMarks raw).map render, ';' ∉ token := by
    refine List.forall_mem_map.mpr fun key hkey ↦ ?_
    obtain ⟨-, -, hwhole⟩ := mem_ofTokens hkey
    unfold render
    split
    · exact List.not_mem_cons_of_ne_of_not_mem (by decide) hwhole
    · exact hwhole
  rw [parse_eq_ok_iff, and_iff_left hschema, renderAll, ofTokens_join htokens, List.filterMap_map]
  conv_lhs => rhs; rw [← List.map_id (ofTokens settings.sortMarks raw)]
  rw [List.filterMap_eq_map_iff_forall_eq_some]
  refine forall₂_congr fun key hkey ↦ ?_
  obtain ⟨htrim, hne, -⟩ := mem_ofTokens hkey
  exact ofToken?_render_iff hvalid htrim hne

/-- With the minus sign as the descending mark, a sort is shown as it can be written. -/
theorem parse_renderAll_plain :
    let schema : Schema := (Dictionary.empty.insert "created".toList (.ofType .dateTime)).insert
      "name".toList (.ofType .text)
    let keys : List SortKey := [⟨"created".toList, true⟩, ⟨"name".toList, false⟩]
    Settings.default.IsValid ∧ parse schema .default " - created;; +name".toList = .ok keys ∧
      renderAll keys = "-created;name".toList ∧
      parse schema .default (renderAll keys) = .ok keys := by
  intro schema keys
  have hvalid : Settings.default.IsValid := by decide
  have hparse : parse schema .default " - created;; +name".toList = .ok keys := by decide
  exact ⟨hvalid, hparse, rfl, (parse_renderAll_iff hvalid hparse).mpr (by decide)⟩

/-- With another descending mark, a sort is shown as no sort of these settings. -/
theorem parse_renderAll_other_mark :
    let settings := { Settings.default with sortMarks := ⟨"^".toList, "v".toList⟩ }
    let schema : Schema := Dictionary.empty.insert "created".toList (.ofType .dateTime)
    let keys : List SortKey := [⟨"created".toList, true⟩]
    settings.IsValid ∧ parse schema settings "vcreated".toList = .ok keys ∧
      renderAll keys = "-created".toList ∧
      parse schema settings (renderAll keys) =
        .error (.sortAttribute "-created".toList schema.keys) ∧
      parse schema settings (renderAll keys) ≠ .ok keys := by
  intro settings schema keys
  have hfault : parse schema settings (renderAll keys) =
      .error (.sortAttribute "-created".toList schema.keys) := rfl
  exact ⟨by decide, rfl, rfl, hfault, by simp [hfault]⟩

end RecordSearch.SortKey
