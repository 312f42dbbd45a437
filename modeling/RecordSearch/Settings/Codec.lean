import RecordSearch.Settings.Basic
import RecordSearch.Document.Fields

/-!
# Settings as documents

The written form of settings. A missing key takes its default, but an operator that is given is
given as a whole: its symbol is required and its word is empty unless it is there too.
-/

namespace RecordSearch

def Operator.ofDocument? (d : Document) : Option Operator := do
  let fields ← d.fields? ["symbol", "word"]
  let symbol ← (Document.field? fields "symbol").bind Document.text?
  let word ← Document.orDefault? Document.text? [] (Document.field? fields "word")
  return ⟨symbol, word⟩

def Operator.toDocument (op : Operator) : Document :=
  .record [("symbol", .text op.symbol), ("word", .text op.word)]

def Operators.ofDocument? (d : Document) : Option Operators := do
  let fields ← d.fields? ["not", "or", "and", "like", "lt", "gt", "to", "null"]
  let operator (name : String) (default : Operator) : Option Operator :=
    Document.orDefault? Operator.ofDocument? default (Document.field? fields name)
  let base := Operators.default
  let not ← operator "not" base.not
  let or ← operator "or" base.or
  let and ← operator "and" base.and
  let like ← operator "like" base.like
  let less ← operator "lt" base.less
  let greater ← operator "gt" base.greater
  let range ← operator "to" base.range
  let null ← Document.orDefault? Document.text? base.null (Document.field? fields "null")
  return ⟨not, or, and, like, less, greater, range, null⟩

def Operators.toDocument (ops : Operators) : Document :=
  .record [("not", ops.not.toDocument), ("or", ops.or.toDocument), ("and", ops.and.toDocument),
    ("like", ops.like.toDocument), ("lt", ops.less.toDocument), ("gt", ops.greater.toDocument),
    ("to", ops.range.toDocument), ("null", .text ops.null)]

/-- A pair of texts under two names, each with a default. -/
def textPair? (first second : String) (base : Text × Text) (d : Document) :
    Option (Text × Text) := do
  let fields ← d.fields? [first, second]
  let a ← Document.orDefault? Document.text? base.1 (Document.field? fields first)
  let b ← Document.orDefault? Document.text? base.2 (Document.field? fields second)
  return (a, b)

def Wildcards.ofDocument? (d : Document) : Option Wildcards :=
  (textPair? "many" "one" (Wildcards.default.many, Wildcards.default.one) d).map
    fun (many, one) ↦ ⟨many, one⟩

def SortMarks.ofDocument? (d : Document) : Option SortMarks :=
  (textPair? "asc" "desc" (SortMarks.default.ascending, SortMarks.default.descending) d).map
    fun (ascending, descending) ↦ ⟨ascending, descending⟩

def TruthWords.ofDocument? (d : Document) : Option TruthWords :=
  (textPair? "true" "false" (TruthWords.default.yes, TruthWords.default.no) d).map
    fun (yes, no) ↦ ⟨yes, no⟩

namespace Settings

def fieldNames : List String :=
  ["default_index", "default_page", "default_limit", "disjunction_key", "or_limit",
    "decimal_separators", "null_case_sensitive", "operators", "wildcards", "sort", "boolean"]

def ofDocument? (d : Document) : Option Settings := do
  let fields ← d.fields? fieldNames
  let field := Document.field? fields
  let base := Settings.default
  let index ← Document.orDefault? Document.natural? base.defaultIndex (field "default_index")
  let page ← Document.orDefault? Document.natural? base.defaultPage (field "default_page")
  let limit ← Document.orDefault? Document.natural? base.defaultLimit (field "default_limit")
  let key ← Document.orDefault? Document.text? base.disjunctionKey (field "disjunction_key")
  let orLimit ← Document.orDefault? Document.natural? base.orLimit (field "or_limit")
  let separators ← Document.orDefault? (Document.items? Document.text?) base.decimalSeparators
    (field "decimal_separators")
  let sensitive ← Document.orDefault? Document.boolean? base.nullCaseSensitive
    (field "null_case_sensitive")
  let operators ← Document.orDefault? Operators.ofDocument? base.operators (field "operators")
  let wildcards ← Document.orDefault? Wildcards.ofDocument? base.wildcards (field "wildcards")
  let marks ← Document.orDefault? SortMarks.ofDocument? base.sortMarks (field "sort")
  let words ← Document.orDefault? TruthWords.ofDocument? base.truthWords (field "boolean")
  return ⟨index, page, limit, key, orLimit, separators, sensitive, operators, wildcards, marks,
    words⟩

def toDocument (settings : Settings) : Document :=
  .record [
    ("default_index", .natural settings.defaultIndex),
    ("default_page", .natural settings.defaultPage),
    ("default_limit", .natural settings.defaultLimit),
    ("disjunction_key", .text settings.disjunctionKey),
    ("or_limit", .natural settings.orLimit),
    ("decimal_separators", .sequence (settings.decimalSeparators.map Document.text)),
    ("null_case_sensitive", .boolean settings.nullCaseSensitive),
    ("operators", settings.operators.toDocument),
    ("wildcards", .record [("many", .text settings.wildcards.many),
      ("one", .text settings.wildcards.one)]),
    ("sort", .record [("asc", .text settings.sortMarks.ascending),
      ("desc", .text settings.sortMarks.descending)]),
    ("boolean", .record [("true", .text settings.truthWords.yes),
      ("false", .text settings.truthWords.no)])]

end Settings

end RecordSearch
