import RecordSearch.Text.Blank

/-!
# Operators

An operator is written as a symbol, or as a word set off by blanks. An operator without a word has
only its symbol.
-/

namespace RecordSearch

structure Operator where
  symbol : Text
  word : Text
  deriving DecidableEq, Repr

namespace Operator

/-- The word as it stands before an operand. -/
def leadingWord? (op : Operator) : Option Text :=
  if op.word.isEmpty then none else some (op.word ++ [' '])

/-- The word as it stands between two operands. -/
def middleWord? (op : Operator) : Option Text :=
  if op.word.isEmpty then none else some (' ' :: op.word ++ [' '])

/-- The operand after the operator at the start of a text; the symbol is looked for first. -/
def operand? (op : Operator) (s : Text) : Option Text :=
  match Text.dropFront? op.symbol s with
  | some rest => some (Text.trim rest)
  | none => op.leadingWord?.bind fun word ↦ (Text.dropFront? word s).map Text.trim

/-- Whether the operator stands in a text as its symbol or as its word between blanks. -/
def occursIn (op : Operator) (s : Text) : Bool :=
  Text.contains op.symbol s ||
    match op.middleWord? with
    | some word => Text.contains word s
    | none => false

/-- The text with each word between blanks replaced by the symbol. -/
def normalize (op : Operator) (s : Text) : Text :=
  match op.middleWord? with
  | some word => Text.replace word op.symbol s
  | none => s

/-- The operands that an operator joins, trimmed; blank ones do not count. -/
def split (op : Operator) (s : Text) : List Text :=
  ((Text.splitOn op.symbol (op.normalize s)).map Text.trim).filter fun part ↦ !part.isEmpty

end Operator

end RecordSearch
