import RecordSearch.Proofs.Condition.Compile
import RecordSearch.Proofs.Settings.Joined

/-!
# Filters as they are written

A filter is written as clauses joined by AND, a clause as literals joined by OR, and a literal as an
atom, behind NOT or not; each operator is spelled as its symbol or as its word. Reading a written
filter gives its structure back, and its structure on any of several names if the key lists them.
-/

namespace RecordSearch

/-- One or more items, each but the first with the spelling of the joint in front of it. -/
structure Chain (α : Type) where
  first : α
  rest : List (Bool × α)

namespace Chain

variable {α : Type}

def items (chain : Chain α) : List α :=
  chain.first :: chain.rest.map Prod.snd

/-- The items joined by an operator. -/
def render (op : Operator) (renderItem : α → Text) (chain : Chain α) : Text :=
  op.joined (renderItem chain.first) (chain.rest.map fun item ↦ (item.1, renderItem item.2))

end Chain

/-- An atom, behind NOT in one of its spellings or not. -/
structure WrittenLiteral where
  atom : Text
  negation : Option Bool

abbrev WrittenClause := Chain WrittenLiteral

abbrev WrittenFilter := Chain WrittenClause

/-- A text in which no operator between literals and no NOT stands. -/
structure Operators.IsAtom (ops : Operators) (s : Text) : Prop where
  and_free : ops.and.IsOperand s
  or_free : ops.or.IsOperand s
  not_free : ops.not.IsOperand s

instance (ops : Operators) (s : Text) : Decidable (ops.IsAtom s) :=
  decidable_of_iff (ops.and.IsOperand s ∧ ops.or.IsOperand s ∧ ops.not.IsOperand s)
    ⟨fun ⟨hand, hor, hnot⟩ ↦ ⟨hand, hor, hnot⟩, fun h ↦ ⟨h.and_free, h.or_free, h.not_free⟩⟩

/-- A group of several expressions, and a single one by itself. -/
def Expression.grouped (connective : Connective) : List Expression → Expression
  | [e] => e
  | es => .group connective false es

namespace WrittenLiteral

def render (ops : Operators) (literal : WrittenLiteral) : Text :=
  match literal.negation with
  | some byWord => ops.not.before byWord literal.atom
  | none => literal.atom

def toExpression (name : Text) (literal : WrittenLiteral) : Expression :=
  match literal.negation with
  | some _ => .negate (.comparison name literal.atom)
  | none => .comparison name literal.atom

end WrittenLiteral

namespace WrittenClause

def render (ops : Operators) (clause : WrittenClause) : Text :=
  Chain.render ops.or (WrittenLiteral.render ops) clause

def toExpression (name : Text) (clause : WrittenClause) : Expression :=
  .grouped .or (clause.items.map (WrittenLiteral.toExpression name))

/-- A clause of atoms that is short enough to stay an OR group. -/
structure Fits (settings : Settings) (clause : WrittenClause) : Prop where
  length_le : clause.items.length ≤ settings.orLimit
  isAtom : ∀ literal ∈ clause.items, settings.operators.IsAtom literal.atom

instance (settings : Settings) (clause : WrittenClause) : Decidable (clause.Fits settings) :=
  decidable_of_iff (clause.items.length ≤ settings.orLimit ∧
      ∀ literal ∈ clause.items, settings.operators.IsAtom literal.atom)
    ⟨fun ⟨hlength, hatom⟩ ↦ ⟨hlength, hatom⟩, fun h ↦ ⟨h.length_le, h.isAtom⟩⟩

end WrittenClause

namespace WrittenFilter

def render (ops : Operators) (filter : WrittenFilter) : Text :=
  Chain.render ops.and (WrittenClause.render ops) filter

/-- The structure of a filter on one name. -/
def toExpression (name : Text) (filter : WrittenFilter) : Expression :=
  .grouped .and (filter.items.map (WrittenClause.toExpression name))

/-- The structure of a filter each clause of which may hold on any of several names. -/
def toExpressionOnAny (names : List Text) (filter : WrittenFilter) : Expression :=
  .grouped .and (filter.items.map fun clause ↦
    .any (names.map fun name ↦ clause.toExpression name))

end WrittenFilter

namespace Chain

variable {α : Type} {op : Operator} {mark : Char} {renderItem : α → Text} {chain : Chain α}

theorem parts_eq (chain : Chain α) (renderItem : α → Text) :
    renderItem chain.first ::
      (chain.rest.map fun item ↦ (item.1, renderItem item.2)).map Prod.snd =
        chain.items.map renderItem := by
  simp [items]

theorem trim_render
    (hitems : ∀ item ∈ chain.items,
      Text.trim (renderItem item) = renderItem item ∧ renderItem item ≠ []) :
    Text.trim (chain.render op renderItem) = chain.render op renderItem ∧
      chain.render op renderItem ≠ [] := by
  apply Operator.trim_joined
  rw [parts_eq]
  exact List.forall_mem_map.mpr hitems

theorem isOperand_render {other : Operator} {otherMark : Char} (h : op.MarkedBy mark)
    (hother : other.MarkedBy otherMark) (hapart : op.Apart other)
    (hitems : ∀ item ∈ chain.items, op.IsOperand (renderItem item)) :
    op.IsOperand (chain.render other renderItem) := by
  apply Operator.IsOperand.joined h hother hapart
  rw [parts_eq]
  exact List.forall_mem_map.mpr hitems

variable (h : op.MarkedBy mark) (hblank : ' ' ∉ op.word)
  (hitems : ∀ item ∈ chain.items, op.IsOperand (renderItem item))

include h hblank hitems

theorem split_render : op.split (chain.render op renderItem) = chain.items.map renderItem := by
  have hparts : ∀ part ∈ chain.items.map renderItem, op.IsOperand part :=
    List.forall_mem_map.mpr hitems
  rw [← parts_eq] at hparts ⊢
  exact h.split_joined hblank hparts

/-- Reading the operands of a rendered chain reads each of its items. -/
theorem read_render (connective : Connective) (read : Text → Expression) :
    (if op.occursIn (chain.render op renderItem) then
        .group connective false ((op.split (chain.render op renderItem)).map read)
      else read (chain.render op renderItem)) =
      Expression.grouped connective (chain.items.map fun item ↦ read (renderItem item)) := by
  rw [split_render h hblank hitems, List.map_map]
  obtain ⟨first, rest⟩ := chain
  cases rest with
  | nil =>
    have habsent : op.occursIn (renderItem first) = false :=
      h.not_occursIn_of_isOperand (hitems first List.mem_cons_self)
    change (if op.occursIn (renderItem first) then _ else read (renderItem first)) = _
    rw [habsent]
    rfl
  | cons next rest =>
    have hoccurs : op.occursIn (render op renderItem ⟨first, next :: rest⟩) :=
      h.occursIn_joined (List.cons_ne_nil _ _)
    rw [if_pos hoccurs]
    rfl

end Chain

/-! ### Reading -/

section Reading

variable {settings : Settings} {name : Text} {literal : WrittenLiteral} {clause : WrittenClause}
  {filter : WrittenFilter}

/-- An operand stays one if NOT is put in front of it. -/
theorem WrittenLiteral.isOperand_render {ops : Operators} {op : Operator} {mark notMark : Char}
    (h : op.MarkedBy mark) (hnot : ops.not.MarkedBy notMark) (hapart : op.Apart ops.not)
    (hatom : op.IsOperand literal.atom) : op.IsOperand (literal.render ops) := by
  unfold render
  cases literal.negation with
  | none => exact hatom
  | some byWord => exact hatom.before h hnot hapart byWord

variable (hoperators : settings.operators = .default)

include hoperators

theorem Expression.ofLiteral_render (hatom : settings.operators.IsAtom literal.atom) :
    ofLiteral settings name (literal.render settings.operators) = literal.toExpression name := by
  have hnot : settings.operators.not.MarkedBy '!' := hoperators ▸ Operators.marked_default.not
  have htrim := hatom.not_free.trimmed
  unfold ofLiteral WrittenLiteral.render WrittenLiteral.toExpression
  cases literal.negation with
  | none => simp only [hnot.operand?_of_isOperand hatom.not_free, htrim]
  | some byWord => simp only [hnot.operand?_before byWord, htrim]

/-- A clause within the limit is read literal by literal. -/
theorem Expression.ofAlternatives_render (hclause : clause.Fits settings) :
    ofAlternatives settings name (clause.render settings.operators) =
      clause.toExpression name := by
  have hor : settings.operators.or.MarkedBy '|' := hoperators ▸ Operators.marked_default.or
  have hnot : settings.operators.not.MarkedBy '!' := hoperators ▸ Operators.marked_default.not
  have hapart : settings.operators.or.Apart settings.operators.not :=
    hoperators ▸ Operator.or_apart_not
  have hitems : ∀ literal ∈ clause.items,
      settings.operators.or.IsOperand (literal.render settings.operators) :=
    fun literal hliteral ↦
      WrittenLiteral.isOperand_render hor hnot hapart (hclause.isAtom literal hliteral).or_free
  have hlimit : ¬ settings.orLimit <
      (settings.operators.or.split (clause.render settings.operators)).length := by
    rw [WrittenClause.render, Chain.split_render hor hapart.blank_not_mem hitems, List.length_map]
    exact Nat.not_lt.mpr hclause.length_le
  calc
    _ = if settings.operators.or.occursIn (clause.render settings.operators) then
          any ((settings.operators.or.split (clause.render settings.operators)).map
            (ofLiteral settings name))
        else ofLiteral settings name (clause.render settings.operators) := by
      simp only [ofAlternatives, if_neg hlimit]
    _ = grouped .or (clause.items.map fun literal ↦
          ofLiteral settings name (literal.render settings.operators)) :=
      Chain.read_render hor hapart.blank_not_mem hitems .or _
    _ = clause.toExpression name :=
      congrArg (grouped .or) <| List.map_congr_left fun literal hliteral ↦
        ofLiteral_render hoperators (hclause.isAtom literal hliteral)

theorem WrittenClause.isOperand_render (hclause : clause.Fits settings) :
    settings.operators.and.IsOperand (clause.render settings.operators) := by
  have hand : settings.operators.and.MarkedBy '&' := hoperators ▸ Operators.marked_default.and
  have hor : settings.operators.or.MarkedBy '|' := hoperators ▸ Operators.marked_default.or
  have hnot : settings.operators.not.MarkedBy '!' := hoperators ▸ Operators.marked_default.not
  apply Chain.isOperand_render hand hor (hoperators ▸ Operator.and_apart_or)
  intro literal hliteral
  exact WrittenLiteral.isOperand_render hand hnot (hoperators ▸ Operator.and_apart_not)
    (hclause.isAtom literal hliteral).and_free

/-- On a key of one name, a clause is read by itself. -/
theorem Expression.ofPart_render_single {key : Text}
    (hkey : Text.contains settings.operators.or.symbol key = false)
    (hclause : clause.Fits settings) :
    ofPart settings key (clause.render settings.operators) =
      clause.toExpression (Text.trim key) := by
  rw [ofPart, hkey]
  exact ofAlternatives_render hoperators hclause

/-- On a key of several names, a clause is asked for on any of them. -/
theorem Expression.ofPart_render_several {key : Text} {names : List Text}
    (hkey : Text.contains settings.operators.or.symbol key)
    (hnames : settings.operators.or.split key = names) (hclause : clause.Fits settings) :
    ofPart settings key (clause.render settings.operators) =
      .any (names.map fun name ↦ clause.toExpression name) := by
  have hand : settings.operators.and.MarkedBy '&' := hoperators ▸ Operators.marked_default.and
  have habsent := hand.not_occursIn_of_isOperand
    (WrittenClause.isOperand_render hoperators hclause)
  rw [ofPart, if_pos hkey, hnames, ofNames]
  apply congrArg any
  apply List.map_congr_left
  intro name _
  rw [ofClauses, habsent]
  exact ofAlternatives_render hoperators hclause

variable (hclauses : ∀ clause ∈ filter.items, clause.Fits settings)

include hclauses

theorem WrittenFilter.render_not_blank :
    Text.trim (filter.render settings.operators) ≠ [] := by
  have hitems : ∀ clause ∈ filter.items,
      Text.trim (clause.render settings.operators) = clause.render settings.operators ∧
        clause.render settings.operators ≠ [] := fun clause hclause ↦
    have hoperand := WrittenClause.isOperand_render hoperators (hclauses clause hclause)
    ⟨hoperand.trimmed, hoperand.ne_nil⟩
  obtain ⟨htrim, hne⟩ := Chain.trim_render hitems
  rw [render, htrim]
  exact hne

/-- A written filter is read clause by clause. -/
theorem Expression.parse?_render_clauses (key : Text) :
    parse? settings key (filter.render settings.operators) =
      some (grouped .and (filter.items.map fun clause ↦
        ofPart settings key (clause.render settings.operators))) := by
  have hand : settings.operators.and.MarkedBy '&' := hoperators ▸ Operators.marked_default.and
  have hapart : settings.operators.and.Apart settings.operators.or :=
    hoperators ▸ Operator.and_apart_or
  rw [parse?_eq settings key (WrittenFilter.render_not_blank hoperators hclauses)]
  apply congrArg some
  apply Chain.read_render hand hapart.blank_not_mem
  intro clause hclause
  exact WrittenClause.isOperand_render hoperators (hclauses clause hclause)

end Reading

namespace Expression

/-- Reading a written filter gives its structure back, on the one name of a key or on any of the
names that the key joins. -/
theorem parse?_render {settings : Settings} {filter : WrittenFilter}
    (hoperators : settings.operators = .default)
    (hclauses : ∀ clause ∈ filter.items, clause.Fits settings) :
    (∀ key, Text.contains settings.operators.or.symbol key = false →
      parse? settings key (filter.render settings.operators) =
        some (filter.toExpression (Text.trim key))) ∧
    (∀ names : List Text, 2 ≤ names.length →
      (∀ name ∈ names, settings.operators.or.IsOperand name) →
      parse? settings (Text.join settings.operators.or.symbol names)
          (filter.render settings.operators) =
        some (filter.toExpressionOnAny names)) := by
  have hor : settings.operators.or.MarkedBy '|' := hoperators ▸ Operators.marked_default.or
  constructor
  · intro key hkey
    rw [parse?_render_clauses hoperators hclauses]
    apply congrArg (some <| grouped .and ·)
    apply List.map_congr_left
    exact fun clause hclause ↦ ofPart_render_single hoperators hkey (hclauses clause hclause)
  · intro names hseveral hnames
    have hne : names ≠ [] := by
      rintro rfl
      exact absurd hseveral (by decide)
    have hsplit : settings.operators.or.split (Text.join settings.operators.or.symbol names) =
        names := by
      rw [hor.symbol_eq]
      exact hor.split_join (fun name hname ↦ hor.not_occursIn_of_isOperand (hnames name hname))
        (fun name hname ↦ (hnames name hname).trimmed)
        (fun name hname ↦ (hnames name hname).ne_nil) hne
    have hkey : Text.contains settings.operators.or.symbol
        (Text.join settings.operators.or.symbol names) := by
      match names with
      | first :: second :: rest =>
        rw [Text.contains_iff, Text.join, List.intercalate_cons_cons]
        exact ⟨first, _, rfl⟩
    rw [parse?_render_clauses hoperators hclauses]
    apply congrArg (some <| grouped .and ·)
    apply List.map_congr_left
    exact fun clause hclause ↦
      ofPart_render_several hoperators hkey hsplit (hclauses clause hclause)

theorem parse?_render_mixed :
    let filter : WrittenFilter :=
      ⟨⟨⟨"ORCA".toList, none⟩, [(true, ⟨"a band".toList, some true⟩), (false, ⟨"c".toList, none⟩)]⟩,
        [(true, ⟨⟨"d".toList, some false⟩, []⟩)]⟩
    let text := "ORCA OR NOT a band|c AND !d".toList
    let clause (name : Text) : Expression :=
      .any [.comparison name "ORCA".toList, .negate (.comparison name "a band".toList),
        .comparison name "c".toList]
    let negated (name : Text) : Expression := .negate (.comparison name "d".toList)
    filter.render .default = text ∧ (∀ clause ∈ filter.items, clause.Fits Settings.default) ∧
      parse? .default "k".toList text = some (.all [clause "k".toList, negated "k".toList]) ∧
      parse? .default "k|n".toList text =
        some (.all [.any [clause "k".toList, clause "n".toList],
          .any [negated "k".toList, negated "n".toList]]) := by
  intro filter text clause negated
  have hclauses : ∀ clause ∈ filter.items, clause.Fits Settings.default := by decide
  obtain ⟨hsingle, hseveral⟩ := parse?_render rfl hclauses
  refine ⟨rfl, hclauses, hsingle "k".toList (by decide), ?_⟩
  exact hseveral ["k".toList, "n".toList] (by decide) (by decide)

end Expression

end RecordSearch
