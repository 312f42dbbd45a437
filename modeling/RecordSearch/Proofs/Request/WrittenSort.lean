import RecordSearch.Proofs.Request.SortToken

/-!
# Sorts written with the configured marks

A key of a sort is written as its name, alone or with one of the two marks in front of it. Valid
settings have two different marks that are not blank. For a written sort to be read as its keys this
is enough if no mark has a semicolon in it or begins with a blank, and the descending mark does not
begin what is written with the ascending one.
-/

namespace RecordSearch

/-- A name, and whether a mark is put in front of it. -/
inductive WrittenKey where
  | plain (name : Text)
  | ascending (name : Text)
  | descending (name : Text)
  deriving DecidableEq, Repr

/-- A name that can be told from the marks in front of it. -/
structure SortMarks.Names (marks : SortMarks) (name : Text) : Prop where
  trimmed : Text.trim name = name
  ne_nil : name ≠ []
  whole : ';' ∉ name
  not_ascending : ¬ marks.ascending <+: name
  not_descending : ¬ marks.descending <+: name

instance (marks : SortMarks) (name : Text) : Decidable (marks.Names name) :=
  decidable_of_iff (Text.trim name = name ∧ name ≠ [] ∧ ';' ∉ name ∧
      ¬ marks.ascending <+: name ∧ ¬ marks.descending <+: name)
    ⟨fun ⟨htrim, hne, hwhole, hascending, hdescending⟩ ↦
        ⟨htrim, hne, hwhole, hascending, hdescending⟩,
      fun h ↦ ⟨h.trimmed, h.ne_nil, h.whole, h.not_ascending, h.not_descending⟩⟩

namespace WrittenKey

variable {schema : Schema} {settings : Settings} {marks : SortMarks} {key : WrittenKey}
  {keys : List WrittenKey}

def name : WrittenKey → Text
  | plain name | ascending name | descending name => name

def render (marks : SortMarks) : WrittenKey → Text
  | plain name => name
  | ascending name => marks.ascending ++ name
  | descending name => marks.descending ++ name

def renderAll (marks : SortMarks) (keys : List WrittenKey) : Text :=
  Text.join SortKey.separator (keys.map (render marks))

/-- The key that is written. -/
def sortKey : WrittenKey → SortKey
  | plain name | ascending name => ⟨name, false⟩
  | descending name => ⟨name, true⟩

/-- The mark of a written key is found in front of its token, and no other mark is. -/
def IsRead (marks : SortMarks) : WrittenKey → Prop
  | plain _ => True
  | ascending name =>
    ';' ∉ marks.ascending ∧ Text.trimStart marks.ascending = marks.ascending ∧
      ¬ marks.descending <+: marks.ascending ++ name
  | descending _ =>
    ';' ∉ marks.descending ∧ Text.trimStart marks.descending = marks.descending

instance : (key : WrittenKey) → Decidable (key.IsRead marks)
  | plain _ => inferInstanceAs (Decidable True)
  | ascending _ => inferInstanceAs (Decidable (_ ∧ _ ∧ ¬ _))
  | descending _ => inferInstanceAs (Decidable (_ ∧ _))

section Token

variable {name : Text} (hname : marks.Names name)

include hname

theorem ofToken?_plain : SortKey.ofToken? marks name = some ⟨name, false⟩ := by
  rw [SortKey.ofToken?_eq_some_iff]
  rw [hname.trimmed, SortKey.dropMark_of_absent hname.not_descending,
    SortKey.dropMark_of_absent hname.not_ascending]
  rw [← Bool.not_eq_true, Text.startsWith_iff]
  exact ⟨hname.ne_nil, hname.trimmed, hname.not_descending⟩

theorem ofToken?_ascending_iff (hmark : Text.trim marks.ascending ≠ []) :
    SortKey.ofToken? marks (marks.ascending ++ name) = some ⟨name, false⟩ ↔
      Text.trimStart marks.ascending = marks.ascending ∧
        ¬ marks.descending <+: marks.ascending ++ name := by
  rw [SortKey.ofToken?_eq_some_iff, Text.trim_append_of_trimmed hmark hname.trimmed hname.ne_nil,
    ← Bool.not_eq_true, Text.startsWith_iff]
  constructor
  · rintro ⟨-, htrim, hdescending⟩
    rw [SortKey.dropMark_of_absent hdescending] at htrim
    by_cases hstart : Text.trimStart marks.ascending = marks.ascending
    · exact ⟨hstart, by rwa [hstart] at hdescending⟩
    · rw [SortKey.dropMark_of_absent (mt (Text.trimStart_of_prefix hmark) hstart),
        Text.trim_append_eq_right_iff hname.trimmed hname.ne_nil] at htrim
      refine absurd ?_ hmark
      rwa [Text.trim, ← Text.trimStart_eq_self_iff.mpr (Text.head?_trimStart marks.ascending)]
  · rintro ⟨hstart, hdescending⟩
    rw [hstart, SortKey.dropMark_of_absent hdescending, SortKey.dropMark_append]
    exact ⟨hname.ne_nil, hname.trimmed, hdescending⟩

theorem ofToken?_descending_iff (hmark : Text.trim marks.descending ≠ []) :
    SortKey.ofToken? marks (marks.descending ++ name) = some ⟨name, true⟩ ↔
      Text.trimStart marks.descending = marks.descending := by
  rw [SortKey.ofToken?_eq_some_iff, Text.trim_append_of_trimmed hmark hname.trimmed hname.ne_nil,
    Text.startsWith_iff]
  constructor
  · rintro ⟨-, -, hstarts⟩
    exact Text.trimStart_of_prefix hmark hstarts
  · intro hstart
    rw [hstart, SortKey.dropMark_append, SortKey.dropMark_of_absent hname.not_ascending]
    exact ⟨hname.ne_nil, hname.trimmed, List.prefix_append _ _⟩

end Token

/-- A token without semicolons is read as the key it is written for exactly if its mark is found. -/
theorem ofToken?_render_iff (hvalid : settings.IsValid)
    (hname : settings.sortMarks.Names key.name) (htoken : ';' ∉ key.render settings.sortMarks) :
    SortKey.ofToken? settings.sortMarks (key.render settings.sortMarks) = some key.sortKey ↔
      key.IsRead settings.sortMarks := by
  cases key with
  | plain name =>
    simp only [render, sortKey, IsRead, iff_true]
    exact ofToken?_plain hname
  | ascending name =>
    simp only [render, List.mem_append, not_or] at htoken
    simp only [render, sortKey, IsRead, htoken.1, not_false_eq_true, true_and]
    exact ofToken?_ascending_iff hname hvalid.ascending_visible
  | descending name =>
    simp only [render, List.mem_append, not_or] at htoken
    simp only [render, sortKey, IsRead, htoken.1, not_false_eq_true, true_and]
    exact ofToken?_descending_iff hname hvalid.descending_visible

theorem IsRead.separator_not_mem (h : key.IsRead marks) (hname : marks.Names key.name) :
    ';' ∉ key.render marks := by
  cases key with
  | plain name => exact hname.whole
  | ascending name => exact List.not_mem_append h.1 hname.whole
  | descending name => exact List.not_mem_append h.1 hname.whole

/-- Tokens are read as the keys they are written for exactly if all their marks are found. -/
theorem ofTokens_render_iff (hvalid : settings.IsValid)
    (hnames : ∀ key ∈ keys, settings.sortMarks.Names key.name)
    (htokens : ∀ key ∈ keys, ';' ∉ key.render settings.sortMarks) :
    SortKey.ofTokens settings.sortMarks (renderAll settings.sortMarks keys) = keys.map sortKey ↔
      ∀ key ∈ keys, key.IsRead settings.sortMarks := by
  rw [renderAll, SortKey.ofTokens_join (by simpa using htokens), List.filterMap_map,
    List.filterMap_eq_map_iff_forall_eq_some]
  exact forall₂_congr fun key hkey ↦
    ofToken?_render_iff hvalid (hnames key hkey) (htokens key hkey)

end WrittenKey

/-- In valid settings the tokens of names that do not begin with a mark are read as the keys they are
written for, in order, if the mark of each is found in front of it. Otherwise they are not, unless the
ascending mark has a semicolon in it. -/
theorem SortKey.parse_written {schema : Schema} {settings : Settings} (hvalid : settings.IsValid)
    {keys : List WrittenKey}
    (hnames : ∀ key ∈ keys, settings.sortMarks.Names key.name ∧ schema.contains key.name) :
    ((∀ key ∈ keys, key.IsRead settings.sortMarks) →
        SortKey.parse schema settings (WrittenKey.renderAll settings.sortMarks keys) =
          .ok (keys.map WrittenKey.sortKey)) ∧
      (';' ∉ settings.sortMarks.ascending →
        SortKey.parse schema settings (WrittenKey.renderAll settings.sortMarks keys) =
          .ok (keys.map WrittenKey.sortKey) →
        ∀ key ∈ keys, key.IsRead settings.sortMarks) := by
  constructor
  · intro hread
    rw [SortKey.parse_eq_ok_iff,
      WrittenKey.ofTokens_render_iff hvalid (fun key hkey ↦ (hnames key hkey).1)
        fun key hkey ↦ (hread key hkey).separator_not_mem (hnames key hkey).1]
    refine ⟨hread, List.forall_mem_map.mpr fun key hkey ↦ ?_⟩
    cases key <;> exact (hnames _ hkey).2
  · intro hascending hparse
    obtain ⟨htokens, -⟩ := SortKey.parse_eq_ok_iff.mp hparse
    refine (WrittenKey.ofTokens_render_iff hvalid (fun key hkey ↦ (hnames key hkey).1)
      fun key hkey ↦ ?_).mp htokens
    have hwhole := (hnames key hkey).1.whole
    cases key with
    | plain name => exact hwhole
    | ascending name => exact List.not_mem_append hascending hwhole
    | descending name =>
      refine List.not_mem_append (fun hmark ↦ ?_) hwhole
      have hmem : ⟨name, true⟩ ∈ keys.map WrittenKey.sortKey := List.mem_map.mpr ⟨_, hkey, rfl⟩
      cases SortKey.descending_of_mem_ofTokens hmark (htokens ▸ hmem)

/-- The ascending mark may begin the descending one, which is looked for first. -/
theorem SortKey.parse_written_nested :
    let settings := { Settings.default with sortMarks := ⟨"-".toList, "-- ".toList⟩ }
    let schema : Schema := (Dictionary.empty.insert "age".toList (.ofType .date)).insert
      "name".toList (.ofType .text)
    settings.IsValid ∧ SortKey.parse schema settings "-- age;name;-age".toList =
      .ok [⟨"age".toList, true⟩, ⟨"name".toList, false⟩, ⟨"age".toList, false⟩] := by
  intro settings schema
  have hvalid : settings.IsValid := by decide
  let keys : List WrittenKey := [.descending "age".toList, .plain "name".toList,
    .ascending "age".toList]
  have hnames : ∀ key ∈ keys,
      settings.sortMarks.Names key.name ∧ schema.contains key.name := by decide
  exact ⟨hvalid, (SortKey.parse_written hvalid hnames).1 (by decide)⟩

/-- A descending mark that begins the ascending one, and a mark that begins with a blank, are accepted
and misread. -/
theorem SortKey.parse_misread_marks :
    let nested := { Settings.default with sortMarks := ⟨"--".toList, "-".toList⟩ }
    let padded := { Settings.default with sortMarks := ⟨"+".toList, " -".toList⟩ }
    let schema : Schema := Dictionary.empty.insert "age".toList (.ofType .text)
    nested.IsValid ∧ padded.IsValid ∧ nested.sortMarks.Names "age".toList ∧
      padded.sortMarks.Names "age".toList ∧ schema.contains "age".toList ∧
      SortKey.parse schema nested (nested.sortMarks.ascending ++ "age".toList) ≠
        .ok [⟨"age".toList, false⟩] ∧
      SortKey.parse schema padded (padded.sortMarks.descending ++ "age".toList) ≠
        .ok [⟨"age".toList, true⟩] := by
  decide

end RecordSearch
