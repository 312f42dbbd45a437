import RecordSearch.Proofs.Condition.Compile
import RecordSearch.Settings.Validation

/-!
# The width of OR groups

An OR group over the alternatives of a value never has more members than the limit for alternatives.
The names of a key are not counted: asked for on several names, each AND part of a value is a group
with one member for each name.
-/

namespace RecordSearch.Expression

variable {settings : Settings} {key name value : Text} {p q : List Expression → Prop}
  {e : Expression}

/-- Whether an expression stands anywhere in another one, which may be itself. -/
inductive IsPart (part : Expression) : Expression → Prop
  | self : IsPart part part
  | child {connective : Connective} {negated : Bool} {children : List Expression}
      {child : Expression} (hchild : child ∈ children) (hpart : IsPart part child) :
      IsPart part (.group connective negated children)

/-- What the members of each OR group of an expression satisfy. -/
def EveryOr (p : List Expression → Prop) (e : Expression) : Prop :=
  ∀ negated children, IsPart (.group .or negated children) e → p children

theorem EveryOr.mono (h : EveryOr p e) (hpq : ∀ children, p children → q children) :
    EveryOr q e :=
  fun negated children hpart ↦ hpq children (h negated children hpart)

theorem everyOr_leaf (kind : LeafKind) : EveryOr p (.leaf name value kind) := by
  rintro negated children ⟨⟩

theorem everyOr_all {children : List Expression} (h : ∀ child ∈ children, EveryOr p child)
    (negated : Bool) : EveryOr p (.group .and negated children) := by
  intro _ others hpart
  cases hpart with
  | child hchild hpart => exact h _ hchild _ others hpart

theorem everyOr_any {children : List Expression} (hself : p children)
    (h : ∀ child ∈ children, EveryOr p child) : EveryOr p (any children) := by
  intro negated others hpart
  cases hpart with
  | self => exact hself
  | child hchild hpart => exact h _ hchild negated others hpart

theorem everyOr_ofLiteral (settings : Settings) (name value : Text) :
    EveryOr p (ofLiteral settings name value) := by
  unfold ofLiteral
  split
  · exact everyOr_all (List.forall_mem_singleton.mpr (everyOr_leaf .comparison)) true
  · exact everyOr_leaf .comparison

/-- The alternatives that stay a group are no more than the limit. -/
theorem everyOr_ofAlternatives (settings : Settings) (name value : Text) :
    EveryOr (fun children ↦ children.length ≤ settings.orLimit)
      (ofAlternatives settings name value) := by
  unfold ofAlternatives
  dsimp only
  split
  · split
    · exact everyOr_leaf .membership
    · rename_i hlimit
      refine everyOr_any ?_ (List.forall_mem_map.mpr fun part _ ↦ everyOr_ofLiteral _ _ part)
      rw [List.length_map]
      exact Nat.le_of_not_lt hlimit
  · exact everyOr_ofLiteral settings name value

theorem everyOr_ofClauses (settings : Settings) (name value : Text) :
    EveryOr (fun children ↦ children.length ≤ settings.orLimit)
      (ofClauses settings name value) := by
  unfold ofClauses
  dsimp only
  split
  · exact everyOr_all (List.forall_mem_map.mpr fun part _ ↦ everyOr_ofAlternatives _ _ part) false
  · exact everyOr_ofAlternatives settings name value

/-- The members are the expressions that one of the texts has on each name of a key. -/
def AreNamed (settings : Settings) (key : Text) (texts : List Text) (children : List Expression) :
    Prop :=
  Text.contains settings.operators.or.symbol key ∧ ∃ text ∈ texts,
    children = (settings.operators.or.split key).map fun name ↦ ofClauses settings name text

theorem everyOr_ofPart (settings : Settings) (key part : Text) :
    EveryOr (fun children ↦ children.length ≤ settings.orLimit ∨
      AreNamed settings key [part] children) (ofPart settings key part) := by
  unfold ofPart
  split
  · rename_i hkey
    refine everyOr_any (.inr ⟨hkey, part, List.mem_singleton_self part, rfl⟩) ?_
    refine List.forall_mem_map.mpr fun name _ ↦ ?_
    exact (everyOr_ofClauses settings name part).mono fun _ ↦ .inl
  · exact (everyOr_ofAlternatives settings (Text.trim key) part).mono fun _ ↦ .inl

/-- Each OR group of a filter is within the limit for alternatives, but for those over the names of
its key, which ask for the value or one of its AND parts on each of them. -/
theorem everyOr_parse? (h : parse? settings key value = some e) :
    EveryOr (fun children ↦ children.length ≤ settings.orLimit ∨
      AreNamed settings key (value :: settings.operators.and.split value) children) e := by
  have hvalue : Text.trim value ≠ [] := by
    intro hblank
    rw [parse?, if_pos (by simp [hblank])] at h
    cases h
  have hpart {part : Text} (hmem : part ∈ value :: settings.operators.and.split value) :
      EveryOr (fun children ↦ children.length ≤ settings.orLimit ∨
        AreNamed settings key (value :: settings.operators.and.split value) children)
        (ofPart settings key part) := by
    refine (everyOr_ofPart settings key part).mono fun children hchildren ↦ ?_
    rcases hchildren with hwidth | ⟨hkey, text, htext, hchildren⟩
    · exact .inl hwidth
    · obtain rfl := List.mem_singleton.mp htext
      exact .inr ⟨hkey, text, hmem, hchildren⟩
  rw [parse?_eq settings key hvalue] at h
  obtain rfl := Option.some.inj h
  split
  · exact everyOr_all (List.forall_mem_map.mpr fun part hmem ↦
      hpart (List.mem_cons_of_mem value hmem)) false
  · exact hpart List.mem_cons_self

/-- A wide group over three names, of which each has a group of two alternatives. -/
theorem everyOr_parse?_names :
    let settings := { Settings.default with orLimit := 2 }
    let key := "a|b|c".toList
    let value := "x|y & z".toList
    let leaf (name value : String) := comparison name.toList value.toList
    let alternatives (name : String) := any [leaf name "x", leaf name "y"]
    let named := [leaf "a" "z", leaf "b" "z", leaf "c" "z"]
    let e := all [any [alternatives "a", alternatives "b", alternatives "c"], any named]
    parse? settings key value = some e ∧ IsPart (any named) e ∧
      (named.length ≤ settings.orLimit ∨
        AreNamed settings key (value :: settings.operators.and.split value) named) := by
  intro settings key value leaf alternatives named e
  have hparse : parse? settings key value = some e := rfl
  have hpart : IsPart (any named) e := .child (by simp) .self
  exact ⟨hparse, hpart, everyOr_parse? hparse false named hpart⟩

/-- A group over more names than the limit for alternatives. -/
theorem exists_wide_group :
    let settings := { Settings.default with orLimit := 1 }
    let key := "a|b".toList
    let named := [comparison "a".toList "x".toList, comparison "b".toList "x".toList]
    1 ≤ settings.orLimit ∧ settings.IsValid ∧ parse? settings key "x".toList = some (any named) ∧
      IsPart (.group .or false named) (any named) ∧ ¬ named.length ≤ settings.orLimit := by
  intro settings key named
  exact ⟨le_rfl, by decide, rfl, .self, by decide⟩

end RecordSearch.Expression
