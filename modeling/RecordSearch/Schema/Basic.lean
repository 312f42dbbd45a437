import RecordSearch.Dictionary

/-!
# Schemas

A schema names the attributes of a kind of record and gives each a type. A filter on an attribute is
read by that type, or as plain text if the attribute asks for it.
-/

namespace RecordSearch

inductive NumericType where
  | short | integer | long | float | double
  deriving DecidableEq, Repr

inductive SemanticType where
  | text
  | numeric (type : NumericType)
  | boolean
  | enumeration (values : List Text)
  | date
  | dateTime
  deriving DecidableEq, Repr

namespace SemanticType

def isNumeric : SemanticType → Bool
  | .numeric _ => true
  | _ => false

def isTemporal : SemanticType → Bool
  | .date | .dateTime => true
  | _ => false

end SemanticType

structure Attribute where
  type : SemanticType
  excludedFromSearch : Bool
  /-- Filters on the attribute are read as text whatever its type is. -/
  forcedText : Bool
  deriving DecidableEq, Repr

namespace Attribute

def ofType (type : SemanticType) : Attribute := ⟨type, false, false⟩

/-- The type by which filters are read. -/
def effectiveType (a : Attribute) : SemanticType :=
  if a.forcedText then .text else a.type

end Attribute

abbrev Schema := Dictionary Attribute

/-- The names of the attributes that a global search looks at. -/
def Schema.searchable (schema : Schema) : List Text :=
  (schema.entries.filter fun entry ↦ !entry.2.excludedFromSearch).map Prod.fst

/-- Schemas by the name of the entity that they describe. -/
abbrev Registry := Dictionary Schema

end RecordSearch
