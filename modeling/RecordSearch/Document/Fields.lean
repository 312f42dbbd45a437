import RecordSearch.Document.Basic
import RecordSearch.Number.Integer

/-!
# Taking documents apart

A value with named fields is written as a table, in which unknown keys do not count and a known key
stands once, or as a sequence of its fields in their order, in which the last ones may be missing.
-/

namespace RecordSearch.Document

/-- The fields that are there, by name. -/
def fields? (names : List String) : Document → Option (List (Text × Document))
  | .table entries =>
    let known := entries.filter fun entry ↦ names.any fun name ↦ name.toList == entry.1
    let keys := known.map Prod.fst
    if keys.eraseDups.length = keys.length then some known else none
  | .sequence items =>
    if items.length ≤ names.length then some ((names.map String.toList).zip items) else none
  | _ => none

/-- A field by its name. -/
def field? (fields : List (Text × Document)) (name : String) : Option Document :=
  fields.lookup name.toList

def text? : Document → Option Text
  | .text s => some s
  | _ => none

def boolean? : Document → Option Bool
  | .boolean b => some b
  | _ => none

/-- An unsigned integer of 64 bits. -/
def natural? : Document → Option Nat
  | .integer n => if 0 ≤ n && n < wordLimit 64 then some n.toNat else none
  | _ => none

/-- A signed integer of 64 bits. -/
def signed? : Document → Option Int
  | .integer n => if fitsSigned 64 n then some n else none
  | _ => none

def items? {α : Type} (decode : Document → Option α) : Document → Option (List α)
  | .sequence items => items.mapM decode
  | _ => none

/-- A table with keys of any name; of entries with one key the last counts. -/
def dictionary? {α : Type} (decode : Document → Option α) : Document → Option (Dictionary α)
  | .table entries =>
    (entries.mapM fun entry ↦ (decode entry.2).map fun value ↦ (entry.1, value)).map
      Dictionary.ofList
  | _ => none

/-- A field that may be missing or `null`. -/
def optional? {α : Type} (decode : Document → Option α) :
    Option Document → Option (Option α)
  | none | some .null => some none
  | some d => (decode d).map some

/-- A field with a default for when it is missing. -/
def orDefault? {α : Type} (decode : Document → Option α) (default : α) :
    Option Document → Option α
  | none => some default
  | some d => decode d

mutual

/-- The count of levels of a document. -/
def height : Document → Nat
  | .sequence items => itemsHeight items + 1
  | .table entries => entriesHeight entries + 1
  | .null | .boolean _ | .integer _ | .float _ | .single _ | .text _ => 1

def itemsHeight : List Document → Nat
  | [] => 0
  | item :: items => max (height item) (itemsHeight items)

def entriesHeight : List (Text × Document) → Nat
  | [] => 0
  | (_, value) :: entries => max (height value) (entriesHeight entries)

end

end RecordSearch.Document
