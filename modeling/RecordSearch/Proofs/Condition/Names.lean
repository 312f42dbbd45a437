import RecordSearch.Proofs.Condition.Compile

/-!
# Names in filters

The verdict of a condition depends only on the attributes that it names. A condition names
attributes of its schema that its expression names, and the expression of a filter names those that
its key lists.
-/

namespace RecordSearch

/-- The attributes that a key lists, joined by OR or a single one. -/
def Settings.namesOfKey (settings : Settings) (key : Text) : List Text :=
  if Text.contains settings.operators.or.symbol key then settings.operators.or.split key
  else [Text.trim key]

theorem Settings.trim_of_mem_namesOfKey {settings : Settings} {key name : Text}
    (h : name ∈ settings.namesOfKey key) : Text.trim name = name := by
  unfold namesOfKey at h
  split at h
  · exact (Operator.mem_split h).1
  · rw [List.mem_singleton.mp h]
    exact Text.trim_trim key

namespace Expression

mutual

/-- The names of the leaves of an expression. -/
def names : Expression → List Text
  | .leaf name _ _ => [name]
  | .group _ _ children => namesAll children

def namesAll : List Expression → List Text
  | [] => []
  | child :: children => names child ++ namesAll children

end

variable {settings : Settings} {key value : Text} {listed : List Text}

theorem namesAll_subset {es : List Expression} (h : ∀ e ∈ es, e.names ⊆ listed) :
    namesAll es ⊆ listed := by
  induction es with
  | nil => exact List.nil_subset _
  | cons e es ih =>
    obtain ⟨he, hes⟩ := List.forall_mem_cons.mp h
    exact List.append_subset.mpr ⟨he, ih hes⟩

/-- The expressions of some parts, as a group, name nothing that none of them names. -/
theorem names_group_map_subset {parts : List Text} {read : Text → Expression}
    (connective : Connective) (h : ∀ part ∈ parts, (read part).names ⊆ listed) :
    (group connective false (parts.map read)).names ⊆ listed :=
  namesAll_subset (List.forall_mem_map.mpr h)

theorem names_ofLiteral_subset (settings : Settings) (name value : Text) :
    (ofLiteral settings name value).names ⊆ [name] := by
  unfold ofLiteral
  split
  · exact List.Subset.refl [name]
  · exact List.Subset.refl [name]

theorem names_ofAlternatives_subset (settings : Settings) (name value : Text) :
    (ofAlternatives settings name value).names ⊆ [name] := by
  unfold ofAlternatives
  dsimp only
  split
  · split
    · exact List.Subset.refl [name]
    · exact names_group_map_subset .or fun part _ ↦ names_ofLiteral_subset settings name part
  · exact names_ofLiteral_subset settings name value

theorem names_ofClauses_subset (settings : Settings) (name value : Text) :
    (ofClauses settings name value).names ⊆ [name] := by
  unfold ofClauses
  dsimp only
  split
  · exact names_group_map_subset .and fun part _ ↦ names_ofAlternatives_subset settings name part
  · exact names_ofAlternatives_subset settings name value

theorem names_ofPart_subset (settings : Settings) (key part : Text) :
    (ofPart settings key part).names ⊆ settings.namesOfKey key := by
  unfold ofPart Settings.namesOfKey
  split
  · refine names_group_map_subset .or fun name hname ↦ ?_
    have hsingle : [name] ⊆ settings.operators.or.split key :=
      List.cons_subset.mpr ⟨hname, List.nil_subset _⟩
    exact List.Subset.trans (names_ofClauses_subset settings name part) hsingle
  · exact names_ofAlternatives_subset settings (Text.trim key) part

/-- A filter names only attributes that its key lists. -/
theorem names_parse?_subset {e : Expression} (h : parse? settings key value = some e) :
    e.names ⊆ settings.namesOfKey key := by
  by_cases hvalue : Text.trim value = []
  · rw [parse?, if_pos (by simpa using hvalue)] at h
    cases h
  · rw [parse?_eq settings key hvalue] at h
    obtain rfl := Option.some.inj h
    split
    · exact names_group_map_subset .and fun part _ ↦ names_ofPart_subset settings key part
    · exact names_ofPart_subset settings key value

/-- The filters of a map name only attributes that their keys list. -/
theorem names_ofFilters_subset {filters : Dictionary Text}
    (h : ∀ entry ∈ filters.entries, entry.1 ≠ settings.disjunctionKey →
      settings.namesOfKey entry.1 ⊆ listed) :
    (ofFilters settings filters).names ⊆ listed := by
  apply namesAll_subset
  intro e he
  obtain ⟨entry, hentry, hparse⟩ := List.mem_filterMap.mp he
  obtain ⟨hmem, hswitch⟩ := List.mem_filter.mp hentry
  exact List.Subset.trans (names_parse?_subset hparse) (h entry hmem (by simpa using hswitch))

end Expression

namespace Condition

mutual

/-- The names of the leaves of a condition. -/
def names : Condition → List Text
  | .leaf name _ => [name]
  | .group _ _ children => namesAll children

def namesAll : List Condition → List Text
  | [] => []
  | child :: children => names child ++ namesAll children

end

section Congr

variable {view view' : Text → Value}

mutual

/-- Only the attributes that a condition names count for its verdict. -/
theorem holds_congr : (c : Condition) → (∀ name ∈ c.names, view name = view' name) →
    c.holds view = c.holds view'
  | .leaf name literal, h => congrArg literal.holds (h name (List.mem_singleton_self name))
  | .group .and negated children, h => congrArg (· != negated) (holdsAll_congr children h)
  | .group .or negated children, h => congrArg (· != negated) (holdsAny_congr children h)

theorem holdsAll_congr : (children : List Condition) →
    (∀ name ∈ namesAll children, view name = view' name) →
    holdsAll view children = holdsAll view' children
  | [], _ => rfl
  | child :: children, h => by
    obtain ⟨hchild, hchildren⟩ := List.forall_mem_append.mp h
    exact congrArg₂ (· && ·) (holds_congr child hchild) (holdsAll_congr children hchildren)

theorem holdsAny_congr : (children : List Condition) →
    (∀ name ∈ namesAll children, view name = view' name) →
    holdsAny view children = holdsAny view' children
  | [], _ => rfl
  | child :: children, h => by
    obtain ⟨hchild, hchildren⟩ := List.forall_mem_append.mp h
    exact congrArg₂ (· || ·) (holds_congr child hchild) (holdsAny_congr children hchildren)

end

end Congr

section Compile

variable {schema : Schema} {settings : Settings} {name : Text}

/-- Whether a name is that of an attribute and stands, untrimmed, in a list. -/
def IsKnownAmong (schema : Schema) (raws : List Text) (name : Text) : Prop :=
  (schema.get? name).isSome ∧ ∃ raw ∈ raws, Text.trim raw = name

theorem IsKnownAmong.mono {raws raws' : List Text} (hsubset : raws ⊆ raws')
    (h : IsKnownAmong schema raws name) : IsKnownAmong schema raws' name := by
  obtain ⟨hknown, raw, hraw, htrim⟩ := h
  exact ⟨hknown, raw, hsubset hraw, htrim⟩

variable [Pattern.Engine]

theorem isKnownAmong_of_compileLeaf {raw value : Text} {kind : LeafKind} {c : Condition}
    (h : compileLeaf schema settings raw value kind = some c) (hname : name ∈ c.names) :
    IsKnownAmong schema [raw] name := by
  unfold compileLeaf at h
  dsimp only at h
  split at h
  · cases h
  · rename_i a ha
    split at h
    · cases h
    · split at h
      · obtain rfl := Option.some.inj h
        obtain rfl : name = Text.trim raw := List.mem_singleton.mp hname
        exact ⟨by simp [ha], raw, List.mem_singleton_self raw, rfl⟩
      · cases h

mutual

/-- A condition names attributes of the schema that its expression names. -/
theorem isKnownAmong_of_compile : (e : Expression) → {c : Condition} →
    compile schema settings e = some c → name ∈ c.names → IsKnownAmong schema e.names name
  | .leaf .., _, h, hname => isKnownAmong_of_compileLeaf h hname
  | .group connective negated children, c, h, hname => by
    apply isKnownAmong_of_compileAll children
    rw [compile] at h
    split at h
    · cases h
    · rename_i child rest hchildren
      obtain rfl := Option.some.inj h
      rw [hchildren]
      exact hname

theorem isKnownAmong_of_compileAll : (es : List Expression) →
    name ∈ namesAll (compileAll schema settings es) →
    IsKnownAmong schema (Expression.namesAll es) name
  | [], h => absurd h List.not_mem_nil
  | e :: es, h => by
    have hrest (h : name ∈ namesAll (compileAll schema settings es)) :
        IsKnownAmong schema (Expression.namesAll (e :: es)) name :=
      (isKnownAmong_of_compileAll es h).mono (List.subset_append_right e.names _)
    rw [compileAll] at h
    cases hc : compile schema settings e with
    | none =>
      rw [hc] at h
      exact hrest h
    | some c =>
      rw [hc] at h
      rcases List.mem_append.mp h with hchild | h
      · exact (isKnownAmong_of_compile e hc hchild).mono (List.subset_append_left _ _)
      · exact hrest h

end

/-- Records that agree on the known attributes an expression names get the same verdict. -/
theorem selects_compile_congr {ρ : Type} [Record ρ] {e : Expression} {record record' : ρ}
    (h : ∀ name, IsKnownAmong schema e.names name →
      Record.value record name = Record.value record' name) :
    selects (compile schema settings e) record = selects (compile schema settings e) record' := by
  cases hc : compile schema settings e with
  | none => rfl
  | some c => exact holds_congr c fun name hname ↦ h name (isKnownAmong_of_compile e hc hname)

end Compile

end Condition

end RecordSearch
