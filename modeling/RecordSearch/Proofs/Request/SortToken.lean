import RecordSearch.Proofs.Settings.Validation
import RecordSearch.Proofs.Text.Around
import RecordSearch.Request.Sort

/-!
# Tokens of a written sort

A sort is cut at semicolons and each token is read by itself: its direction is that of the descending
mark, and its name is what the marks leave of it, trimmed.
-/

namespace RecordSearch.SortKey

variable {schema : Schema} {settings : Settings} {marks : SortMarks} {key : SortKey}
  {keys : List SortKey} {mark s raw token : Text}

theorem dropMark_of_absent (h : ¬ mark <+: s) : dropMark mark s = s := by
  rw [dropMark, Text.dropFront?_eq_none h]
  rfl

theorem dropMark_append (mark s : Text) : dropMark mark (mark ++ s) = s := by
  rw [dropMark, Text.dropFront?_eq_some_iff.mpr rfl]
  rfl

theorem dropMark_suffix (mark s : Text) : dropMark mark s <:+ s := by
  by_cases h : mark <+: s
  · obtain ⟨rest, rfl⟩ := h
    rw [dropMark_append]
    exact List.suffix_append mark rest
  · rw [dropMark_of_absent h]

theorem ofToken?_eq_some_iff : ofToken? marks token = some key ↔
    key.name ≠ [] ∧
      Text.trim (dropMark marks.ascending (dropMark marks.descending (Text.trim token))) =
        key.name ∧
      Text.startsWith marks.descending (Text.trim token) = key.descending := by
  obtain ⟨name, descending⟩ := key
  simp only [ofToken?, List.isEmpty_iff]
  split
  · rename_i hnil
    simp only [hnil]
    tauto
  · rename_i hne
    simp only [Option.some.injEq, SortKey.mk.injEq]
    constructor
    · rintro ⟨rfl, rfl⟩
      exact ⟨hne, rfl, rfl⟩
    · rintro ⟨-, rfl, rfl⟩
      exact ⟨rfl, rfl⟩

/-- A sort is accepted as the keys of its tokens if the schema has all their names. -/
theorem parse_eq_ok_iff : parse schema settings raw = .ok keys ↔
    ofTokens settings.sortMarks raw = keys ∧ ∀ key ∈ keys, schema.contains key.name := by
  simp only [parse]
  cases hfind : (ofTokens settings.sortMarks raw).find? fun key ↦ !schema.contains key.name with
  | none =>
    have hall := List.find?_eq_none.mp hfind
    simp only [Except.ok.injEq]
    constructor
    · rintro rfl
      exact ⟨rfl, by simpa using hall⟩
    · exact And.left
  | some key =>
    have hkey := List.find?_some hfind
    have hmem := List.mem_of_find?_eq_some hfind
    simp only [reduceCtorEq, false_iff]
    rintro ⟨rfl, hall⟩
    simp [hall key hmem] at hkey

/-- Tokens joined by semicolons are read one by one. -/
theorem ofTokens_join {tokens : List Text} (h : ∀ token ∈ tokens, ';' ∉ token) :
    ofTokens marks (Text.join separator tokens) = tokens.filterMap (ofToken? marks) := by
  cases tokens with
  | nil =>
    have hblank : ofToken? marks [] = none := by
      rw [ofToken?, show Text.trim [] = [] from rfl, List.suffix_nil.mp (dropMark_suffix _ _),
        List.suffix_nil.mp (dropMark_suffix _ _)]
      rfl
    exact List.filterMap_cons_none hblank
  | cons token tokens =>
    rw [ofTokens, separator, Text.splitOn_join h (List.cons_ne_nil _ _)]

/-- The marks are taken from the front of a token, so its name is a part of it. -/
theorem infix_of_ofToken? (h : ofToken? marks token = some key) : key.name <:+: token := by
  obtain ⟨-, hname, -⟩ := ofToken?_eq_some_iff.mp h
  rw [← hname]
  exact (Text.trim_infix _).trans <| (dropMark_suffix _ _).isInfix.trans <|
    (dropMark_suffix _ _).isInfix.trans (Text.trim_infix token)

theorem mem_ofTokens (h : key ∈ ofTokens marks raw) :
    Text.trim key.name = key.name ∧ key.name ≠ [] ∧ ';' ∉ key.name := by
  obtain ⟨token, htoken, hkey⟩ := List.mem_filterMap.mp h
  obtain ⟨hne, hname, -⟩ := ofToken?_eq_some_iff.mp hkey
  refine ⟨?_, hne, fun hmem ↦ ?_⟩
  · rw [← hname, Text.trim_trim]
  · exact Text.not_mem_of_mem_splitOn htoken ((infix_of_ofToken? hkey).subset hmem)

/-- A descending mark with a semicolon in it stands in no token. -/
theorem descending_of_mem_ofTokens (hmark : ';' ∈ marks.descending)
    (h : key ∈ ofTokens marks raw) : key.descending = false := by
  obtain ⟨token, htoken, hkey⟩ := List.mem_filterMap.mp h
  obtain ⟨-, -, hstarts⟩ := ofToken?_eq_some_iff.mp hkey
  rw [← hstarts, ← Bool.not_eq_true, Text.startsWith_iff]
  intro hstarts
  exact Text.not_mem_of_mem_splitOn htoken
    ((Text.trim_infix token).subset (hstarts.subset hmark))

end RecordSearch.SortKey
