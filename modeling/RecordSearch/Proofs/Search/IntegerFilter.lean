import RecordSearch.Proofs.Condition.Membership
import RecordSearch.Proofs.Literal.IntegerFilter
import RecordSearch.Search.Basic

/-!
# Searches for integers

A request with one filter on an attribute of integers becomes a search that selects the records
whose integer the filter accepts, and behind NOT exactly the others.
-/

namespace RecordSearch

section Request

variable {schema : Schema} {settings : Settings} {name value : Text}

theorem Text.nonBlank?_of_trimmed {s : Text} (htrim : Text.trim s = s) (hne : s ≠ []) :
    Text.nonBlank? s = some s := by
  simp [Text.nonBlank?, htrim, hne]

/-- A request with a filter only is a search by that filter. -/
theorem Search.ofRequest_addFilter [Pattern.Engine] (schema : Schema) (settings : Settings)
    (hname : Text.trim name = name) (hnamed : name ≠ []) (hvalue : Text.trim value = value)
    (hne : value ≠ []) :
    ∃ search, Search.ofRequest schema settings (Request.empty.addFilter name value) = .ok search ∧
      search.condition = Condition.ofFilter schema settings name value := by
  have hrequest : Request.empty.addFilter name value =
      { Request.empty with filters := Dictionary.empty.insert name value } := by
    simp only [Request.addFilter, Text.nonBlank?_of_trimmed hname hnamed,
      Text.nonBlank?_of_trimmed hvalue hne]
    rfl
  refine ⟨_, by rw [hrequest]; rfl, ?_⟩
  change Condition.conjunction
    (_ ++ (Condition.ofFilter schema settings name value).toList ++ _) = _
  cases Condition.ofFilter schema settings name value <;> rfl

end Request

namespace IntegerFilter

/-- The characters of filters and of NOT. -/
def chars : Text := "<>!LTGNO ".toList ++ Number.numberChars

theorem mem_chars_ofInt {n : ℤ} {c : Char} (hc : c ∈ Text.ofInt n) : c ∈ chars := by
  have hinteger := (Text.all_of_toInt? (Text.toInt?_ofInt n)).2 c hc
  exact List.mem_append_right _
    (Number.mem_numberChars (Number.isNumberChar_of_isIntegerChar hinteger))

theorem mem_chars_before {op : Operator} {byWord : Bool} {s : Text}
    (hop : (op.symbol ++ op.word).all (List.contains chars)) (hs : ∀ c ∈ s, c ∈ chars) :
    ∀ c ∈ op.before byWord s, c ∈ chars := by
  intro c hc
  have hop : ∀ c ∈ op.symbol ++ op.word, c ∈ chars := fun d hd ↦ by
    simpa using List.all_eq_true.mp hop d hd
  cases byWord with
  | false =>
    rcases List.mem_append.mp hc with hc | hc
    · exact hop c (List.mem_append_left _ hc)
    · exact hs c hc
  | true =>
    rcases List.mem_append.mp hc with hc | hc
    · exact hop c (List.mem_append_right _ hc)
    · rcases List.mem_cons.mp hc with rfl | hc
      · decide
      · exact hs c hc

theorem mem_chars_render (filter : IntegerFilter) : ∀ c ∈ filter.render, c ∈ chars := by
  cases filter with
  | equal n => exact fun c hc ↦ mem_chars_ofInt hc
  | less byWord n => exact mem_chars_before (by decide) fun c hc ↦ mem_chars_ofInt hc
  | greater byWord n => exact mem_chars_before (by decide) fun c hc ↦ mem_chars_ofInt hc
  | between byWord low high =>
    intro c hc
    have hall : (Grammar.rangeMark byWord).all (List.contains chars) := by cases byWord <;> decide
    have hmark : ∀ c ∈ Grammar.rangeMark byWord, c ∈ chars := fun d hd ↦ by
      simpa using List.all_eq_true.mp hall d hd
    rcases List.mem_append.mp hc with hc | hc
    · exact mem_chars_ofInt hc
    · exact (List.mem_append.mp hc).elim (hmark c) mem_chars_ofInt

theorem trim_negated (filter : IntegerFilter) (byWord : Bool) :
    Text.trim (Operators.default.not.before byWord filter.render) =
      Operators.default.not.before byWord filter.render := by
  obtain ⟨front, n, hrender, -⟩ := filter.render_eq
  have htrim (first : Char) (start : Text) (hfirst : Text.isBlank first = false) :
      Text.trim (first :: start ++ Text.ofInt n) = first :: start ++ Text.ofInt n := by
    apply Text.trim_append_ofInt
    intro c hc
    obtain rfl : first = c := by simpa using hc
    exact hfirst
  rw [hrender]
  cases byWord with
  | false => exact htrim '!' front (by decide)
  | true => exact htrim 'N' (['O', 'T', ' '] ++ front) (by decide)

section Search

variable {ρ : Type} [Record ρ] {schema : Schema} {settings : Settings} {a : Attribute}
  {type : NumericType} {bits : ℕ} {name : Text} {record : ρ} {m : ℤ}

/-- A filter is a single literal: neither AND nor OR stands in it, behind NOT or not. -/
theorem ofClauses_eq (hoperators : settings.operators = .default) {value : Text}
    (hvalue : ∀ c ∈ value, c ∈ chars) :
    Expression.ofClauses settings name value = Expression.ofLiteral settings name value := by
  apply Expression.ofClauses_of_not_occursIn
  · rw [hoperators]
    exact Operators.marked_default.and.not_occursIn_of_forall (by decide)
      ⟨'A', by decide, by decide⟩
      hvalue
  · rw [hoperators]
    exact Operators.marked_default.or.not_occursIn_of_forall (by decide) ⟨'R', by decide, by decide⟩
      hvalue

theorem ofLiteral_render (hoperators : settings.operators = .default) (filter : IntegerFilter) :
    Expression.ofLiteral settings name filter.render = .comparison name filter.render := by
  obtain ⟨hnot, -⟩ := plain_render hoperators filter
  simp only [Expression.ofLiteral, hnot, filter.trim_render]

theorem ofLiteral_negated (hoperators : settings.operators = .default) (filter : IntegerFilter)
    (byWord : Bool) :
    Expression.ofLiteral settings name (Operators.default.not.before byWord filter.render) =
      .negate (.comparison name filter.render) := by
  simp only [Expression.ofLiteral, hoperators, Operators.marked_default.not.operand?_before,
    filter.trim_render]

/-- A filter on an attribute of integers compiles to what it is meant to be. -/
theorem compile_render [Pattern.Engine] (hoperators : settings.operators = .default)
    (hname : Text.trim name = name) (ha : schema.get? name = some a)
    (htype : a.effectiveType = .numeric type) (hbits : type.bits? = some bits)
    (filter : IntegerFilter) (hfits : filter.Fits bits) :
    Condition.compile schema settings (.comparison name filter.render) =
      some (.leaf name (filter.literal type)) := by
  have hliteral : Literal.classify settings a filter.render = filter.literal type := by
    rw [Literal.classify, htype]
    exact filter.classifyAs_render hbits hoperators hfits
  have hrecognized : (filter.literal type).isRecognized := by cases filter <;> rfl
  rw [Condition.compile_comparison hname ha filter.trim_render filter.render_ne_nil, hliteral,
    if_pos hrecognized]

/-- A filter on integers means what it says: the search of a request with the filter selects a
record if and only if its integer is accepted, and behind NOT if and only if it is not. -/
theorem ofRequest_selects [Pattern.Engine] (hname : Settings.default.SingleName name)
    (hnamed : name ≠ [])
    (ha : schema.get? name = some a) (htype : a.type = .numeric type)
    (hforced : a.forcedText = false) (hbits : type.bits? = some bits) (filter : IntegerFilter)
    (hfits : filter.Fits bits) (hm : Record.value record name = .integer m) :
    (∃ search, Search.ofRequest schema .default (Request.empty.addFilter name filter.render) =
        .ok search ∧ (search.selects record ↔ filter.Accepts m)) ∧
      ∀ byWord, ∃ search, Search.ofRequest schema .default (Request.empty.addFilter name
          (Operators.default.not.before byWord filter.render)) = .ok search ∧
        (search.selects record ↔ ¬ filter.Accepts m) := by
  have heffective : a.effectiveType = .numeric type := by
    simp [Attribute.effectiveType, hforced, htype]
  have hcompile : Condition.compile schema .default (.comparison name filter.render) =
      some (.leaf name (filter.literal type)) :=
    compile_render rfl hname.trimmed ha heffective hbits filter hfits
  have hholds : (filter.literal type).holds (Record.value record name) ↔ filter.Accepts m := by
    rw [hm, holds_literal]
  refine ⟨?_, fun byWord ↦ ?_⟩
  · obtain ⟨search, hsearch, hcondition⟩ := Search.ofRequest_addFilter schema .default
      hname.trimmed hnamed filter.trim_render filter.render_ne_nil
    refine ⟨search, hsearch, ?_⟩
    rw [Search.selects, hcondition,
      Condition.selects_ofFilter hname (by simpa [filter.trim_render] using filter.render_ne_nil),
      ofClauses_eq rfl filter.mem_chars_render, ofLiteral_render rfl, hcompile]
    exact hholds
  · have hchars : ∀ c ∈ Operators.default.not.before byWord filter.render, c ∈ chars :=
      mem_chars_before (by decide) filter.mem_chars_render
    have hnegated : Operators.default.not.before byWord filter.render ≠ [] := by
      cases byWord <;> exact List.cons_ne_nil _ _
    obtain ⟨search, hsearch, hcondition⟩ := Search.ofRequest_addFilter schema .default
      hname.trimmed hnamed (filter.trim_negated byWord) hnegated
    refine ⟨search, hsearch, ?_⟩
    rw [Search.selects, hcondition,
      Condition.selects_ofFilter hname (by rwa [filter.trim_negated]),
      ofClauses_eq rfl hchars, ofLiteral_negated rfl, Expression.negate, Condition.compile_group,
      List.filterMap_cons, hcompile, ← hholds]
    simp [Condition.ofMembers, Condition.selects, Condition.holds, Condition.holdsAll]

theorem ofRequest_selects_negative :
    let schema : Schema := Dictionary.empty.insert "k".toList (Attribute.ofType (.numeric .short))
    let filter : IntegerFilter := .between false (-32768) (-3)
    let record : Text → Value := fun _ ↦ .integer (-5)
    filter.Fits 16 ∧ filter.render = "-32768--3".toList ∧
      ∃ search, Search.ofRequest schema .default
        (Request.empty.addFilter "k".toList filter.render) = .ok search ∧
          search.selects record := by
  intro schema filter record
  have hname : Settings.default.SingleName "k".toList := ⟨by decide, by decide, by decide⟩
  have ha : schema.get? "k".toList = some (Attribute.ofType (.numeric .short)) := rfl
  have hfits : filter.Fits 16 := ⟨by decide, by decide⟩
  have hm : Record.value record "k".toList = .integer (-5) := rfl
  obtain ⟨⟨search, hsearch, hselects⟩, -⟩ :=
    ofRequest_selects hname (List.cons_ne_nil _ _) ha rfl rfl rfl filter hfits hm
  exact ⟨hfits, by decide, search, hsearch, hselects.mpr ⟨by decide, by decide⟩⟩

end Search

end IntegerFilter

end RecordSearch
