import RecordSearch.Document.Basic
import RecordSearch.Search.Results
import RecordSearch.Search.Statistics
import RecordSearch.Search.Terms

/-!
# Reports as documents

Searches, results, statistics and terms in the form that other programs read. A date/time has a `T`
between its date and its time.
-/

namespace RecordSearch

def DateTime.toDocument (t : DateTime) : Document :=
  .text (t.renderWith 'T')

def Number.toDocument : Number → Document
  | .short n => .record [("short", .integer n)]
  | .integer n => .record [("integer", .integer n)]
  | .long n => .record [("long", .integer n)]
  | .float x => .record [("float", .single x)]
  | .double x => .record [("double", .float x)]

def Bound.toDocument : Bound → Document
  | .number n => .record [("number", n.toDocument)]
  | .dateTime t => .record [("date_time", t.toDocument)]

def Value.toDocument : Value → Document
  | .null => .null
  | .text s => .text s
  | .integer n => .integer n
  | .float x => .float x
  | .boolean b => .boolean b
  | .date d => .text d.render
  | .dateTime t => t.toDocument

namespace Literal

/-- A kind that has no value. -/
def bare (kind : String) : Document :=
  .record [("kind", .word kind)]

def tagged (kind : String) (value : Document) : Document :=
  .record [("kind", .word kind), ("value", value)]

mutual

def toDocument : Literal → Document
  | .null => bare "null"
  | .exact s => tagged "exact_string" (.text s)
  | .like pattern => tagged "like_string" (.text pattern.text)
  | .number n => tagged "number" n.toDocument
  | .numberRange low high => tagged "number_range" (.sequence [low.toDocument, high.toDocument])
  | .period p => tagged "date_time_range" (.sequence [p.start.toDocument, p.stop.toDocument])
  | .lessThan bound => tagged "less_than" bound.toDocument
  | .greaterThan bound => tagged "greater_than" bound.toDocument
  | .boolean b => tagged "boolean" (.boolean b)
  | .constant s => tagged "enum_exact" (.text s)
  | .constants values => tagged "enum_fuzzy_set" (.sequence (values.map Document.text))
  | .membership items => tagged "membership" (.sequence (toDocuments items))
  | .unrecognized => bare "unrecognized"

def toDocuments : List Literal → List Document
  | [] => []
  | item :: items => toDocument item :: toDocuments items

end

end Literal

def Connective.toDocument : Connective → Document
  | .and => .word "and"
  | .or => .word "or"

namespace Condition

mutual

def toDocument : Condition → Document
  | .leaf name literal =>
    .record [("node", .word "leaf"), ("attribute", .text name), ("literal", literal.toDocument)]
  | .group connective negated children =>
    .record [("node", .word "group"), ("mode", connective.toDocument),
      ("negated", .boolean negated), ("children", .sequence (toDocuments children))]

def toDocuments : List Condition → List Document
  | [] => []
  | child :: children => toDocument child :: toDocuments children

end

end Condition

def SortKey.toDocument (key : SortKey) : Document :=
  .record [("attribute", .text key.name), ("descending", .boolean key.descending)]

def SortKey.toDocuments (keys : List SortKey) : Document :=
  .sequence (keys.map toDocument)

def Page.toDocument (page : Page) : Document :=
  .record [("offset", .natural page.offset), ("limit", .natural page.limit),
    ("page", .natural page.number)]

def Search.toDocument (search : Search) : Document :=
  .record [
    ("rendered", .ofOption (search.condition.map fun c ↦ .text c.render)),
    ("leaves", .natural ((search.condition.map Condition.leafCount).getD 0)),
    ("condition", .ofOption (search.condition.map Condition.toDocument)),
    ("sort", SortKey.toDocuments search.sort),
    ("page", search.page.toDocument)]

/-- The rendered condition is left out if there is none. -/
def Metadata.toDocument (m : Metadata) : Document :=
  .record ([
    ("count", .natural m.count),
    ("current_page", .natural m.page),
    ("number_of_pages", .natural m.pageCount),
    ("start_index", .natural m.start),
    ("end_index", .natural m.stop),
    ("limit", .natural m.limit),
    ("sort", SortKey.toDocuments m.sort)] ++
    (match m.filter with
      | some filter => [("filter", .text filter)]
      | none => []))

def Results.toDocument (results : Results Document) : Document :=
  .record [("metadata", results.metadata.toDocument),
    ("results", .sequence (results.records.map Document.sorted))]

namespace Statistics

/-- A statistic that has a value. -/
def field (name : String) (value : Option Document) : List (String × Document) :=
  (value.map fun d ↦ (name, d)).toList

def toDocument (name : Text) (asked : Statistic) (s : Statistics) : Document :=
  .record [("attribute", .text name), ("operation", .text asked.name),
    ("stats", .record (field "count" (s.count.map Document.natural) ++
      field "min" (s.minimum.map Document.float) ++ field "max" (s.maximum.map Document.float) ++
      field "avg" (s.average.map Document.float) ++ field "sum" (s.sum.map Document.float)))]

end Statistics

def Term.toDocument (term : Term) : Document :=
  .record [("value", term.value.toDocument), ("count", .natural term.count)]

def Term.toDocuments (name : Text) (terms : List Term) : Document :=
  .record [("attribute", .text name), ("terms", .sequence (terms.map toDocument))]

end RecordSearch
