import RecordSearch.Proofs.Literal.Contained
import RecordSearch.Proofs.Search.IntegerFilter

/-!
# Searches for a text

A filter in which nothing has a meaning of its own becomes a search for the records that contain it.
It finds its own text wherever that stands, as long as no `İ` is in it, and never where one is.
-/

namespace RecordSearch

/-- A filter that is looked for as it stands: it is not quoted, the literal for a missing value,
negated or joined of others, has no wildcards and compiles to a pattern. -/
structure Settings.LooksFor [Pattern.Engine] (settings : Settings) (filter : Text) : Prop where
  trimmed : Text.trim filter = filter
  ne_nil : filter ≠ []
  not_quoted : Text.isQuoted filter = false
  not_null : settings.isNullToken filter = false
  without_wildcards : settings.wildcards.occurIn filter = false
  without_and : settings.operators.and.occursIn filter = false
  without_or : settings.operators.or.occursIn filter = false
  without_not : settings.operators.not.operand? filter = none
  compiles : (Pattern.ofFilter? settings.wildcards filter).isSome

namespace Settings.LooksFor

variable [Pattern.Engine] {schema : Schema} {settings : Settings} {a : Attribute}
  {name filter : Text}

theorem ofClauses_eq (h : settings.LooksFor filter) (name : Text) :
    Expression.ofClauses settings name filter = .comparison name filter := by
  rw [Expression.ofClauses_of_not_occursIn name h.without_and h.without_or, Expression.ofLiteral,
    h.without_not, h.trimmed]

theorem exists_classify_eq (h : settings.LooksFor filter) (htype : a.effectiveType = .text) :
    ∃ pattern, Pattern.ofFilter? settings.wildcards filter = some pattern ∧
      Literal.classify settings a filter = .like pattern := by
  obtain ⟨pattern, hpattern⟩ := Option.isSome_iff_exists.mp h.compiles
  refine ⟨pattern, hpattern, ?_⟩
  simp [Literal.classify, Literal.classifyAs, htype, h.trimmed, h.ne_nil, h.not_null,
    Literal.classifyText, h.not_quoted, Literal.ofPattern?, hpattern]

/-- The filter compiles to its pattern. -/
theorem exists_compile_eq (h : settings.LooksFor filter) (hname : Text.trim name = name)
    (ha : schema.get? name = some a) (htype : a.effectiveType = .text) :
    ∃ pattern, Pattern.ofFilter? settings.wildcards filter = some pattern ∧
      Condition.compile schema settings (.ofClauses settings name filter) =
        some (.leaf name (.like pattern)) := by
  obtain ⟨pattern, hpattern, hclassify⟩ := h.exists_classify_eq htype
  refine ⟨pattern, hpattern, ?_⟩
  rw [h.ofClauses_eq, Condition.compile_comparison hname ha h.trimmed h.ne_nil, hclassify]
  rfl

end Settings.LooksFor

theorem Literal.holds_like {pattern : Pattern} {v : Value} {text : Text}
    (hv : v.toText? = some text) : (Literal.like pattern).holds v = pattern.accepts text := by
  cases v <;> cases hv <;> rfl

namespace Search

variable {ρ : Type} [Record ρ] {schema : Schema} {settings : Settings} {a : Attribute}
  {name filter : Text}

/-- A search for a text finds the records that contain it, up to one letter: a filter with `İ` does
not find the records that have its own text, and any other filter finds its text in every other. -/
theorem finds_own_text [Pattern.Engine] (hname : settings.SingleName name) (hnamed : name ≠ [])
    (ha : schema.get? name = some a) (htype : a.effectiveType = .text)
    (hfilter : settings.LooksFor filter) :
    ∃ search, Search.ofRequest schema settings (Request.empty.addFilter name filter) = .ok search ∧
      ('İ' ∉ filter → ∀ (before after : Text) (record : ρ),
        (Record.value record name).toText? = some (before ++ filter ++ after) →
          search.selects record) ∧
      ('İ' ∈ filter → ∀ record : ρ, (Record.value record name).toText? = some filter →
        ¬ search.selects record) := by
  have hvalue : Text.trim filter ≠ [] := by
    rw [hfilter.trimmed]
    exact hfilter.ne_nil
  obtain ⟨pattern, hpattern, hcompile⟩ := hfilter.exists_compile_eq hname.trimmed ha htype
  obtain ⟨search, hsearch, hcondition⟩ := ofRequest_addFilter schema settings hname.trimmed hnamed
    hfilter.trimmed hfilter.ne_nil
  have hselects (record : ρ) {text : Text} (htext : (Record.value record name).toText? = some text) :
      search.selects record = pattern.accepts text := by
    rw [selects, hcondition, Condition.selects_ofFilter hname hvalue, hcompile]
    exact Literal.holds_like htext
  refine ⟨search, hsearch, fun hdotless before after record htext ↦ ?_,
    fun hdotted record htext ↦ ?_⟩
  · rw [hselects record htext]
    exact Pattern.accepts_around hfilter.without_wildcards hpattern hdotless before after
  · rw [hselects record htext]
    exact Pattern.not_accepts_self hfilter.without_wildcards hpattern hdotted

/-- A filter of capital letters and characters with a meaning in patterns, and the filter `İ`. -/
theorem finds_own_text_capitals :
    let schema : Schema := Dictionary.empty.insert "k".toList (Attribute.ofType .text)
    let record (s : Text) : Text → Value := fun _ ↦ .text s
    ∃ search dotted,
      Search.ofRequest schema .default
        (Request.empty.addFilter "k".toList "ẞΣ_\\K 1%".toList) = .ok search ∧
      Search.ofRequest schema .default (Request.empty.addFilter "k".toList "İ".toList) =
        .ok dotted ∧
      (∀ before after, search.selects (record (before ++ "ẞΣ_\\K 1%".toList ++ after))) ∧
      ¬ dotted.selects (record "İ".toList) := by
  intro schema record
  have hname : Settings.default.SingleName "k".toList := ⟨by decide, by decide, by decide⟩
  have ha : schema.get? "k".toList = some (Attribute.ofType .text) := rfl
  have hcapitals : Settings.default.LooksFor "ẞΣ_\\K 1%".toList := by
    constructor <;> decide +kernel
  have hdotted : Settings.default.LooksFor "İ".toList := by
    constructor <;> decide +kernel
  obtain ⟨search, hsearch, hfinds, -⟩ :=
    finds_own_text (ρ := Text → Value) hname (List.cons_ne_nil _ _) ha rfl hcapitals
  obtain ⟨dotted, hdottedSearch, -, hmisses⟩ :=
    finds_own_text (ρ := Text → Value) hname (List.cons_ne_nil _ _) ha rfl hdotted
  refine ⟨search, dotted, hsearch, hdottedSearch, fun before after ↦ ?_, ?_⟩
  · exact hfinds (by decide) before after (record _) rfl
  · exact hmisses (by decide) (record _) rfl

/-- The lower-case form of `İ` is not found in `İ`. -/
theorem misses_dotted_capital :
    let schema : Schema := Dictionary.empty.insert "k".toList (Attribute.ofType .text)
    let filter := "İ".toList
    let record : Text → Value := fun _ ↦ .text ([] ++ filter ++ [])
    Settings.default.SingleName "k".toList ∧ schema.get? "k".toList = some (Attribute.ofType .text) ∧
      Settings.default.LooksFor filter ∧
      ∃ search, Search.ofRequest schema .default (Request.empty.addFilter "k".toList filter) =
        .ok search ∧ ¬ search.selects record := by
  refine ⟨⟨by decide, by decide, by decide⟩, rfl, ?_, _, rfl, by decide +kernel⟩
  constructor <;> decide +kernel

end Search

end RecordSearch
