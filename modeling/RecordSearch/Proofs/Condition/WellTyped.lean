import RecordSearch.Literal.Engine
import RecordSearch.Proofs.Condition.Compile
import RecordSearch.Proofs.Literal.Typed

/-!
# Well-typed conditions

Compiling keeps what a schema knows and drops the rest, so no group of a condition is empty, and
each of its leaves compares an attribute of the schema with a literal of the type by which its
filters are read.
-/

namespace RecordSearch.Condition

/-- Whether every group has a child and every leaf compares an attribute with a literal of its
type. -/
inductive WellTyped (schema : Schema) : Condition → Prop
  | leaf {name : Text} {a : Attribute} {literal : Literal} (hname : schema.get? name = some a)
      (hliteral : literal.HasType a.effectiveType) : WellTyped schema (.leaf name literal)
  | group (connective : Connective) (negated : Bool) {children : List Condition}
      (hne : children ≠ []) (hchildren : ∀ child ∈ children, WellTyped schema child) :
      WellTyped schema (.group connective negated children)

mutual

/-- The literals of the leaves of a condition. -/
def literals : Condition → List Literal
  | .leaf _ literal => [literal]
  | .group _ _ children => literalsAll children

def literalsAll : List Condition → List Literal
  | [] => []
  | child :: children => literals child ++ literalsAll children

end

variable {schema : Schema} {settings : Settings} {c : Condition}

theorem mem_literalsAll {literal : Literal} {children : List Condition} :
    literal ∈ literalsAll children ↔ ∃ child ∈ children, literal ∈ child.literals := by
  induction children with
  | nil => simp [literalsAll]
  | cons child children ih => simp [literalsAll, ih]

theorem WellTyped.isRecognizedThroughout (h : c.WellTyped schema) :
    ∀ literal ∈ c.literals, literal.IsRecognizedThroughout := by
  induction h with
  | leaf hname hliteral =>
    intro literal hmem
    obtain rfl := List.mem_singleton.mp hmem
    exact hliteral.isRecognizedThroughout
  | group connective negated hne hchildren ih =>
    intro literal hmem
    obtain ⟨child, hchild, hmem⟩ := mem_literalsAll.mp hmem
    exact ih child hchild literal hmem

theorem isReadingOf_literalOf [Pattern.Engine] (settings : Settings) (a : Attribute) (value : Text)
    (kind : LeafKind) : (literalOf settings a value kind).IsReadingOf a.effectiveType := by
  cases kind with
  | comparison => exact Literal.isReadingOf_classifyAs settings a.effectiveType value
  | membership => exact Literal.isReadingOf_classifyMembership settings a value

theorem wellTyped_of_compileLeaf [Pattern.Engine] {name value : Text} {kind : LeafKind}
    (h : compileLeaf schema settings name value kind = some c) : c.WellTyped schema := by
  unfold compileLeaf at h
  dsimp only at h
  split at h
  · cases h
  rename_i a ha
  split at h
  · cases h
  split at h
  · rename_i hrecognized
    obtain rfl := Option.some.inj h
    exact .leaf ha (isReadingOf_literalOf settings a value kind hrecognized)
  · cases h

theorem WellTyped.ofMembers {connective : Connective} {negated : Bool} {cs : List Condition}
    (hcs : ∀ child ∈ cs, child.WellTyped schema) (h : ofMembers connective negated cs = some c) :
    c.WellTyped schema := by
  cases cs with
  | nil => cases h
  | cons child cs =>
    obtain rfl := Option.some.inj h
    exact .group connective negated (List.cons_ne_nil child cs) hcs

/-- Each expression compiles to a well-typed condition or to none. -/
theorem wellTyped_of_mem_compile [Pattern.Engine] (e : Expression) :
    ∀ c ∈ compile schema settings e, c.WellTyped schema := by
  induction e using Expression.inductionOn with
  | leaf name value kind =>
    intro c h
    exact wellTyped_of_compileLeaf h
  | group connective negated children ih =>
    intro c h
    rw [compile_group] at h
    apply WellTyped.ofMembers _ h
    intro child hchild
    obtain ⟨e, he, hchild⟩ := List.mem_filterMap.mp hchild
    exact ih e he child hchild

/-- What an expression compiles to is well typed by the schema, and nothing in it is
unrecognized. -/
theorem wellTyped_of_compile [Pattern.Engine] {e : Expression}
    (h : compile schema settings e = some c) :
    c.WellTyped schema ∧ ∀ literal ∈ c.literals, literal.IsRecognizedThroughout := by
  have hc : c.WellTyped schema := wellTyped_of_mem_compile e c h
  exact ⟨hc, hc.isRecognizedThroughout⟩

/-- The membership keeps the alternatives that fit, and the group the members that constrain. -/
theorem wellTyped_of_compile_mixed :
    let schema : Schema :=
      (Dictionary.empty.insert "n".toList (Attribute.ofType (.numeric .short))).insert "s".toList
        (Attribute.ofType (.enumeration ["OPEN".toList, "CLOSED".toList]))
    let e : Expression := .group .or true [.membership "n".toList "1|x|40000|-3".toList,
      .comparison " s".toList "open".toList, .comparison "z".toList "1".toList,
      .negate (.comparison "n".toList "many".toList)]
    let c : Condition := .group .or true
      [.leaf "n".toList (.membership [.number (.short 1), .number (.short (-3))]),
        .leaf "s".toList (.constants ["OPEN".toList])]
    compile schema .default e = some c ∧ c.WellTyped schema ∧
      ∀ literal ∈ c.literals, literal.IsRecognizedThroughout := by
  intro schema e c
  have hc : compile schema .default e = some c := by rfl
  exact ⟨hc, wellTyped_of_compile hc⟩

end RecordSearch.Condition
