import RecordSearch.Schema.Basic
import RecordSearch.Document.Fields

/-!
# Schemas as documents

An attribute is written as one table: its type under `type`, the values of an enumeration, and the
hints that are set. A type may also be given by its position in the list of all types.
-/

namespace RecordSearch

namespace SemanticType

/-- The types without the values of enumerations, in their order. -/
def names : List String :=
  ["string", "short", "integer", "long", "float", "double", "boolean", "enum", "date", "date_time"]

def name : SemanticType → String
  | .text => "string"
  | .numeric .short => "short"
  | .numeric .integer => "integer"
  | .numeric .long => "long"
  | .numeric .float => "float"
  | .numeric .double => "double"
  | .boolean => "boolean"
  | .enumeration _ => "enum"
  | .date => "date"
  | .dateTime => "date_time"

def ofName? (name : String) (values : Option (List Text)) : Option SemanticType :=
  match name with
  | "string" => some .text
  | "short" => some (.numeric .short)
  | "integer" => some (.numeric .integer)
  | "long" => some (.numeric .long)
  | "float" => some (.numeric .float)
  | "double" => some (.numeric .double)
  | "boolean" => some .boolean
  | "enum" => values.map .enumeration
  | "date" => some .date
  | "date_time" => some .dateTime
  | _ => none

end SemanticType

/-- The choice among names that a document makes, by name or by position. -/
def Document.choice? (names : List String) : Document → Option String
  | .text s => names.find? fun name ↦ name.toList == s
  | .integer n => if 0 ≤ n then names[n.toNat]? else none
  | _ => none

def SemanticType.ofDocument? (d : Document) : Option SemanticType :=
  match d with
  | .table _ => do
    let fields ← d.fields? ["type", "values"]
    let name ← (Document.field? fields "type").bind (Document.choice? SemanticType.names)
    let values := (Document.field? fields "values").bind (Document.items? Document.text?)
    SemanticType.ofName? name values
  | _ => none

def SemanticType.fieldsOf (type : SemanticType) : List (String × Document) :=
  ("type", .word type.name) :: match type with
    | .enumeration values => [("values", .sequence (values.map Document.text))]
    | _ => []

namespace Attribute

def ofDocument? (d : Document) : Option Attribute :=
  match d with
  | .table _ => do
    let type ← SemanticType.ofDocument? d
    let hints ← d.fields? ["exclude_from_global_search", "force_string"]
    let excluded ← Document.orDefault? Document.boolean? false
      (Document.field? hints "exclude_from_global_search")
    let forced ← Document.orDefault? Document.boolean? false (Document.field? hints "force_string")
    return ⟨type, excluded, forced⟩
  | _ => none

/-- A hint that is not set is left out. -/
def toDocument (a : Attribute) : Document :=
  .record (a.type.fieldsOf ++
    (if a.excludedFromSearch then [("exclude_from_global_search", .boolean true)] else []) ++
    (if a.forcedText then [("force_string", .boolean true)] else []))

end Attribute

namespace Schema

def ofDocument? (d : Document) : Option Schema := do
  let fields ← d.fields? ["attributes"]
  Document.orDefault? (Document.dictionary? Attribute.ofDocument?) .empty
    (Document.field? fields "attributes")

def toDocument (schema : Schema) : Document :=
  .record [("attributes",
    .table (schema.entries.map fun entry ↦ (entry.1, entry.2.toDocument)))]

end Schema

namespace Registry

def ofDocument? (d : Document) : Option Registry :=
  d.dictionary? Schema.ofDocument?

def toDocument (registry : Registry) : Document :=
  .table (registry.entries.map fun entry ↦ (entry.1, Schema.toDocument entry.2))

end Registry

end RecordSearch
