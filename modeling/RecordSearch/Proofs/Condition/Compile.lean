import RecordSearch.Condition.Compile
import RecordSearch.Condition.Holds
import RecordSearch.Proofs.Settings.Operator

/-!
# Conditions of single filters

A filter is read by the AND parts of its value, and a map of filters entry by entry. A group is
compiled member by member and selects by the members that are left. A map with one filter for one name
compiles to the condition of its value.
-/

namespace RecordSearch

/-- A key that a filter takes for the name of a single attribute. -/
structure Settings.SingleName (settings : Settings) (name : Text) : Prop where
  trimmed : Text.trim name = name
  unjoined : Text.contains settings.operators.or.symbol name = false
  not_switch : name ≠ settings.disjunctionKey

/-- What leaves have and groups have if their members do, every expression has. -/
@[elab_as_elim]
theorem Expression.inductionOn {motive : Expression → Prop} (e : Expression)
    (leaf : ∀ name value kind, motive (.leaf name value kind))
    (group : ∀ connective negated children, (∀ e ∈ children, motive e) →
      motive (.group connective negated children)) : motive e :=
  @Expression.rec motive (fun es ↦ ∀ e ∈ es, motive e) leaf group
    (fun _ he ↦ absurd he List.not_mem_nil)
    (fun _ _ hhead htail ↦ List.forall_mem_cons.mpr ⟨hhead, htail⟩) e

/-- The expression of one AND part of a filter on a key. -/
def Expression.ofPart (settings : Settings) (key part : Text) : Expression :=
  if Text.contains settings.operators.or.symbol key then
    ofNames settings (settings.operators.or.split key) part
  else ofAlternatives settings (Text.trim key) part

/-- A filter is read part by part, whatever its key is. -/
theorem Expression.parse?_eq (settings : Settings) (key : Text) {value : Text}
    (hvalue : Text.trim value ≠ []) :
    parse? settings key value =
      some (if settings.operators.and.occursIn value then
          all ((settings.operators.and.split value).map (ofPart settings key))
        else ofPart settings key value) := by
  rw [parse?, if_neg (by simpa using hvalue)]
  cases hkey : Text.contains settings.operators.or.symbol key with
  | true =>
    have hpart : ofPart settings key = ofNames settings (settings.operators.or.split key) := by
      funext part
      simp only [ofPart, hkey, if_true]
    simp only [hpart, if_true]
    exact (apply_ite some _ _ _).symm
  | false =>
    have hpart : ofPart settings key = ofAlternatives settings (Text.trim key) := by
      funext part
      simp only [ofPart, hkey, Bool.false_eq_true, if_false]
    rw [hpart]
    rfl

theorem Expression.parse?_of_singleName {settings : Settings} {name value : Text}
    (hname : settings.SingleName name) (hvalue : Text.trim value ≠ []) :
    Expression.parse? settings name value = some (Expression.ofClauses settings name value) := by
  rw [Expression.parse?, if_neg (by simpa using hvalue)]
  simp only [hname.unjoined, hname.trimmed]
  rfl

/-- A value without AND and OR is one literal. -/
theorem Expression.ofClauses_of_not_occursIn {settings : Settings} {value : Text} (name : Text)
    (hand : settings.operators.and.occursIn value = false)
    (hor : settings.operators.or.occursIn value = false) :
    Expression.ofClauses settings name value = Expression.ofLiteral settings name value := by
  simp [Expression.ofClauses, Expression.ofAlternatives, hand, hor]

/-- The member that an entry of a map of filters contributes; the disjunction key has none. -/
def Expression.ofMapPair? (settings : Settings) (entry : Text × Text) : Option Expression :=
  if entry.1 == settings.disjunctionKey then none else parse? settings entry.1 entry.2

/-- A map of filters is the group of the members that its entries contribute. -/
theorem Expression.ofFilters_eq (settings : Settings) (filters : Dictionary Text) :
    ofFilters settings filters =
      .group (.ofDisjunctive (filters.entries.any fun entry ↦
          entry.1 == settings.disjunctionKey)) false
        (filters.entries.filterMap (ofMapPair? settings)) := by
  have hmember : (fun entry : Text × Text ↦ if !(entry.1 == settings.disjunctionKey) then
      parse? settings entry.1 entry.2 else none) = ofMapPair? settings := by
    funext entry
    unfold ofMapPair?
    cases entry.1 == settings.disjunctionKey <;> rfl
  rw [ofFilters, List.filterMap_filter, hmember]

namespace Condition

variable {schema : Schema} {settings : Settings} {view : Text → Value}

theorem compileAll_eq [Pattern.Engine] (schema : Schema) (settings : Settings)
    (es : List Expression) :
    compileAll schema settings es = es.filterMap (compile schema settings) := by
  induction es with
  | nil => rfl
  | cons e es ih =>
    rw [compileAll, List.filterMap_cons]
    cases compile schema settings e with
    | none => exact ih
    | some c => exact congrArg (c :: ·) ih

/-- The group of some conditions, and none if there are none. -/
def ofMembers (connective : Connective) (negated : Bool) : List Condition → Option Condition
  | [] => none
  | c :: cs => some (.group connective negated (c :: cs))

/-- A group compiles to the group of the conditions that its members have. -/
theorem compile_group [Pattern.Engine] (connective : Connective) (negated : Bool)
    (es : List Expression) :
    compile schema settings (.group connective negated es) =
      ofMembers connective negated (es.filterMap (compile schema settings)) := by
  rw [compile, compileAll_eq]
  cases es.filterMap (compile schema settings) <;> rfl

theorem holdsAll_iff {children : List Condition} :
    holdsAll view children ↔ ∀ child ∈ children, child.holds view := by
  induction children with
  | nil => simp [holdsAll]
  | cons child children ih => simp [holdsAll, ih]

theorem holdsAny_iff {children : List Condition} :
    holdsAny view children ↔ ∃ child ∈ children, child.holds view := by
  induction children with
  | nil => simp [holdsAny]
  | cons child children ih => simp [holdsAny, ih]

/-- The condition of a single filter. -/
def ofFilter [Pattern.Engine] (schema : Schema) (settings : Settings) (name value : Text) :
    Option Condition :=
  ofFilters schema settings (Dictionary.empty.insert name value)

/-- A group of one condition selects what that condition does. -/
theorem compile_all_singleton [Pattern.Engine] (e : Expression) :
    compile schema settings (.all [e]) =
      (compile schema settings e).map fun c ↦ .group .and false [c] := by
  rw [Expression.all, compile_group, List.filterMap_cons]
  cases compile schema settings e <;> rfl

section OfFilter

variable [Pattern.Engine] {name value : Text}

/-- A single filter on a single name is its value's condition in a group of its own. -/
theorem ofFilter_eq (hname : settings.SingleName name) (hvalue : Text.trim value ≠ []) :
    ofFilter schema settings name value =
      (compile schema settings (Expression.ofClauses settings name value)).map
        fun c ↦ .group .and false [c] := by
  have hswitch : (name == settings.disjunctionKey) = false := by simpa using hname.not_switch
  have hentries : (Dictionary.empty.insert name value).entries = [(name, value)] := rfl
  rw [← compile_all_singleton, ofFilter, ofFilters, Expression.ofFilters, hentries]
  simp [hswitch, Expression.parse?_of_singleName hname hvalue, Expression.all,
    Connective.ofDisjunctive]

theorem isSome_ofFilter (hname : settings.SingleName name) (hvalue : Text.trim value ≠ []) :
    (ofFilter schema settings name value).isSome =
      (compile schema settings (Expression.ofClauses settings name value)).isSome := by
  rw [ofFilter_eq hname hvalue, Option.isSome_map]

theorem selects_ofFilter {ρ : Type} [Record ρ] (hname : settings.SingleName name)
    (hvalue : Text.trim value ≠ []) (record : ρ) :
    selects (ofFilter schema settings name value) record =
      selects (compile schema settings (Expression.ofClauses settings name value)) record := by
  rw [ofFilter_eq hname hvalue]
  cases compile schema settings (Expression.ofClauses settings name value) with
  | none => rfl
  | some c => simp [selects, holds, holdsAll]

end OfFilter

end Condition

end RecordSearch
