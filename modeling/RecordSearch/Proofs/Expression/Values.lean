import RecordSearch.Proofs.Expression.Margin
import RecordSearch.Proofs.Expression.Width
import RecordSearch.Proofs.Settings.Foreign
import RecordSearch.Proofs.Settings.Joined

/-!
# The values of leaves

Reading a filter uses up its AND and OR. Cutting at one operator leaves none of it in the operands, and
writing OR as its symbol brings no AND. So no leaf has either of them in its value, except that the
alternatives of a membership are joined by the symbol of OR.
-/

namespace RecordSearch

namespace Operator

variable {op other : Operator} {mark otherMark : Char} {s part : Text}

/-- What does not stand in a text stands in no piece of it. -/
theorem not_occursIn_of_infix (hpart : part <:+: s) (h : op.occursIn s = false) :
    op.occursIn part = false := by
  rw [← Bool.not_eq_true, occursIn_iff_infix] at h ⊢
  rintro (hsymbol | ⟨word, hword, hwithin⟩)
  · exact h (.inl (hsymbol.trans hpart))
  · exact h (.inr ⟨word, hword, hwithin.trans hpart⟩)

section MarkedBy

variable (h : op.MarkedBy mark)

include h

theorem MarkedBy.not_middleWord_infix_normalize (s : Text) :
    ¬ op.middleWord <:+: op.normalize s := by
  rw [h.normalize_eq]
  exact Text.not_infix_replace op.middleWord_ne_nil h.not_mem_middleWord s

/-- An operand stands between two symbols of the normalized text. -/
theorem MarkedBy.infix_of_mem_split (hpart : part ∈ op.split s) :
    mark ∉ part ∧ part <:+: op.normalize s := by
  rw [split, h.symbol_eq] at hpart
  obtain ⟨raw, hraw, rfl⟩ := List.mem_map.mp (List.mem_of_mem_filter hpart)
  have htrim := Text.trim_infix raw
  exact ⟨mt htrim.mem (Text.not_mem_of_mem_splitOn hraw),
    htrim.trans (Text.infix_of_mem_splitOn hraw)⟩

/-- An operator does not stand in its operands. -/
theorem MarkedBy.not_occursIn_of_mem_split (hpart : part ∈ op.split s) :
    op.occursIn part = false := by
  obtain ⟨hmark, hwithin⟩ := h.infix_of_mem_split hpart
  rw [← Bool.not_eq_true, h.occursIn_iff]
  rintro (hmem | hword)
  · exact hmark hmem
  · exact h.not_middleWord_infix_normalize s (hword.trans hwithin)

/-- Writing one operator as its symbol brings no other one that is apart from it. -/
theorem MarkedBy.not_occursIn_normalize (hother : other.MarkedBy otherMark)
    (hapart : other.Apart op) (hs : other.occursIn s = false) :
    other.occursIn (op.normalize s) = false := by
  have hmark : mark ≠ otherMark := by
    rintro rfl
    exact hapart.symbol_apart mark (by simp [hother.symbol_eq]) (by simp [h.symbol_eq])
  have hword : mark ∉ other.middleWord := hapart.otherMark_not_mem h
  rw [← Bool.not_eq_true, hother.occursIn_iff, not_or] at hs ⊢
  rw [← List.singleton_infix_iff] at hs ⊢
  rw [h.normalize_eq]
  exact ⟨mt (Text.infix_of_infix_replace op.middleWord_ne_nil (by simpa using hmark)) hs.1,
    mt (Text.infix_of_infix_replace op.middleWord_ne_nil hword) hs.2⟩

end MarkedBy

end Operator

namespace Expression

variable {settings : Settings} {key name value : Text} {e : Expression}

/-- What the kind and the value of each leaf of an expression satisfy. -/
def EveryLeaf (p : LeafKind → Text → Prop) (e : Expression) : Prop :=
  ∀ name value kind, IsPart (.leaf name value kind) e → p kind value

section EveryLeaf

variable {p q : LeafKind → Text → Prop}

theorem EveryLeaf.mono (h : EveryLeaf p e) (hpq : ∀ kind value, p kind value → q kind value) :
    EveryLeaf q e :=
  fun name value kind hpart ↦ hpq kind value (h name value kind hpart)

theorem everyLeaf_leaf {kind : LeafKind} (h : p kind value) :
    EveryLeaf p (.leaf name value kind) := by
  rintro _ _ _ ⟨⟩
  exact h

theorem everyLeaf_group {children : List Expression} (h : ∀ child ∈ children, EveryLeaf p child)
    (connective : Connective) (negated : Bool) :
    EveryLeaf p (.group connective negated children) := by
  intro name value kind hpart
  cases hpart with
  | child hchild hpart => exact h _ hchild name value kind hpart

end EveryLeaf

/-- A value to compare with is trimmed and without AND and OR. The alternatives of a membership are
without AND, and without OR as a word. -/
def IsCut (ops : Operators) : LeafKind → Text → Prop
  | .comparison, value =>
    Text.trim value = value ∧ ops.and.occursIn value = false ∧ ops.or.occursIn value = false
  | .membership, value => ops.and.occursIn value = false ∧ ¬ ops.or.middleWord <:+: value

theorem isCut_ofLiteral (hand : settings.operators.and.occursIn value = false)
    (hor : settings.operators.or.occursIn value = false) :
    EveryLeaf (IsCut settings.operators) (ofLiteral settings name value) := by
  have hcut {text : Text} (htrim : Text.trim text = text) (hwithin : text <:+: value) :
      IsCut settings.operators .comparison text :=
    ⟨htrim, Operator.not_occursIn_of_infix hwithin hand, Operator.not_occursIn_of_infix hwithin hor⟩
  unfold ofLiteral
  split
  · rename_i rest hrest
    obtain ⟨front, behind, rfl, rfl⟩ := Operator.exists_of_operand? hrest
    have hwithin : Text.trim behind <:+: front ++ behind :=
      (Text.trim_infix behind).trans (List.suffix_append front behind).isInfix
    refine everyLeaf_group (List.forall_mem_singleton.mpr ?_) _ _
    exact everyLeaf_leaf (hcut (Text.trim_trim behind) hwithin)
  · exact everyLeaf_leaf (hcut (Text.trim_trim value) (Text.trim_infix value))

section Operators

variable {andMark orMark : Char} (hand : settings.operators.and.MarkedBy andMark)
  (hor : settings.operators.or.MarkedBy orMark)
  (hapart : settings.operators.and.Apart settings.operators.or)

include hand hor hapart

/-- Cutting at OR leaves none of it, and no AND where there was none. -/
theorem isCut_ofAlternatives (hvalue : settings.operators.and.occursIn value = false) :
    EveryLeaf (IsCut settings.operators) (ofAlternatives settings name value) := by
  have hnormal := hor.not_occursIn_normalize hand hapart hvalue
  unfold ofAlternatives
  dsimp only
  split
  · split
    · exact everyLeaf_leaf ⟨hnormal, hor.not_middleWord_infix_normalize value⟩
    · refine everyLeaf_group (List.forall_mem_map.mpr fun part hpart ↦ ?_) _ _
      exact isCut_ofLiteral
        (Operator.not_occursIn_of_infix (hor.infix_of_mem_split hpart).2 hnormal)
        (hor.not_occursIn_of_mem_split hpart)
  · rename_i hoccurs
    exact isCut_ofLiteral hvalue (by simpa using hoccurs)

/-- An AND part is cut on each name of its key. -/
theorem isCut_ofPart (hvalue : settings.operators.and.occursIn value = false) :
    EveryLeaf (IsCut settings.operators) (ofPart settings key value) := by
  unfold ofPart
  split
  · refine everyLeaf_group (List.forall_mem_map.mpr fun name _ ↦ ?_) _ _
    simp only [ofClauses, hvalue]
    exact isCut_ofAlternatives hand hor hapart hvalue
  · exact isCut_ofAlternatives hand hor hapart hvalue

theorem isCut_parse? (h : parse? settings key value = some e) :
    EveryLeaf (IsCut settings.operators) e := by
  have hvalue : Text.trim value ≠ [] := by
    intro hblank
    rw [parse?, if_pos (by simp [hblank])] at h
    cases h
  rw [parse?_eq settings key hvalue] at h
  obtain rfl := Option.some.inj h
  split
  · refine everyLeaf_group (List.forall_mem_map.mpr fun part hpart ↦ ?_) _ _
    exact isCut_ofPart hand hor hapart (hand.not_occursIn_of_mem_split hpart)
  · rename_i hoccurs
    exact isCut_ofPart hand hor hapart (by simpa using hoccurs)

end Operators

/-- With the default operators and any limit for alternatives, no leaf of a filter has `&`, ` AND ` or
` OR ` in its value, and one that is compared also no `|` and no blanks around it. -/
theorem everyLeaf_parse? (hoperators : settings.operators = .default)
    (h : parse? settings key value = some e) :
    EveryLeaf (fun kind text ↦ ('&' ∉ text ∧ ¬ " AND ".toList <:+: text ∧ ¬ " OR ".toList <:+: text) ∧
      (kind = .comparison → Text.trim text = text ∧ '|' ∉ text)) e := by
  have hand : settings.operators.and.MarkedBy '&' := hoperators ▸ Operators.marked_default.and
  have hor : settings.operators.or.MarkedBy '|' := hoperators ▸ Operators.marked_default.or
  have hapart : settings.operators.and.Apart settings.operators.or :=
    hoperators ▸ Operator.and_apart_or
  have handWord : settings.operators.and.middleWord = " AND ".toList := by
    rw [hoperators]
    rfl
  have horWord : settings.operators.or.middleWord = " OR ".toList := by
    rw [hoperators]
    rfl
  refine (isCut_parse? hand hor hapart h).mono fun kind text hcut ↦ ?_
  rw [← handWord, ← horWord]
  cases kind with
  | comparison =>
    obtain ⟨htrim, hnoAnd, hnoOr⟩ := hcut
    rw [← Bool.not_eq_true, hand.occursIn_iff, not_or] at hnoAnd
    rw [← Bool.not_eq_true, hor.occursIn_iff, not_or] at hnoOr
    exact ⟨⟨hnoAnd.1, hnoAnd.2, hnoOr.2⟩, fun _ ↦ ⟨htrim, hnoOr.1⟩⟩
  | membership =>
    obtain ⟨hnoAnd, hnoWord⟩ := hcut
    rw [← Bool.not_eq_true, hand.occursIn_iff, not_or] at hnoAnd
    exact ⟨⟨hnoAnd.1, hnoAnd.2, hnoWord⟩, fun hkind ↦ by cases hkind⟩

/-- Words that share a blank: only the first of two is an operator, the other one stays in the value
without the blank that it needs. -/
theorem everyLeaf_parse?_chained :
    let settings := { Settings.default with orLimit := 2 }
    let key := "a|b".toList
    let value := "!x AND AND y OR OR z|w".toList
    let parts (name : String) := membership name.toList "AND y|OR z|w".toList
    let negated (name : String) := negate (comparison name.toList "x".toList)
    let e := all [any [negated "a", negated "b"], any [parts "a", parts "b"]]
    let text := "AND y|OR z|w".toList
    settings.operators = .default ∧ parse? settings key value = some e ∧
      IsPart (parts "b") e ∧ ('&' ∉ text ∧ ¬ " AND ".toList <:+: text ∧ ¬ " OR ".toList <:+: text) ∧
      IsPart (comparison "a".toList "x".toList) e ∧ '|' ∉ "x".toList := by
  intro settings key value parts negated e text
  have hparse : parse? settings key value = some e := rfl
  have hmembers : IsPart (parts "b") e := by
    have hwithin : IsPart (parts "b") (any [parts "a", parts "b"]) := .child (by simp) .self
    exact .child (by simp) hwithin
  have hnegated : IsPart (comparison "a".toList "x".toList) e := by
    have hwithin : IsPart (comparison "a".toList "x".toList) (negated "a") := .child (by simp) .self
    have hgroup : IsPart (comparison "a".toList "x".toList) (any [negated "a", negated "b"]) :=
      .child (by simp) hwithin
    exact .child (by simp) hgroup
  have hleaves := everyLeaf_parse? rfl hparse
  exact ⟨rfl, hparse, hmembers, (hleaves _ _ _ hmembers).1, hnegated,
    ((hleaves _ _ _ hnegated).2 rfl).2⟩

end Expression

end RecordSearch
