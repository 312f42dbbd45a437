import RecordSearch.Report.Table
import RecordSearch.Schema.Basic
import RecordSearch.Search.Results

/-!
# Reports of results

The results on a page as a table with a column for each attribute of the schema, and a footer that
says which part of all results it is.
-/

namespace RecordSearch

namespace Metadata

/-- The positions shown, counted from one. -/
def renderRange (m : Metadata) : Text :=
  if m.start < m.stop then
    "Showing ".toList ++ Text.ofNat (m.start + 1) ++ '-' :: Text.ofNat m.stop ++ " of ".toList ++
      Text.ofNat m.count
  else "Showing 0 of ".toList ++ Text.ofNat m.count

def renderSort (m : Metadata) : Text :=
  if m.sort.isEmpty then [] else "\nSort: ".toList ++ SortKey.renderAll m.sort

def renderFilter (m : Metadata) : Text :=
  match m.filter with
  | some filter => "\nFilter: ".toList ++ filter
  | none => []

def renderFooter (m : Metadata) : Text :=
  m.renderRange ++ " (page ".toList ++ Text.ofNat m.page ++ " of ".toList ++
    Text.ofNat m.pageCount ++ [')'] ++ m.renderSort ++ m.renderFilter ++ ['\n']

end Metadata

namespace Results

variable {ρ : Type} [Record ρ]

/-- The cells of one result. -/
def row (schema : Schema) (record : ρ) : List Text :=
  schema.keys.map fun name ↦ Table.cell (Record.value record name)

def render (schema : Schema) (colored : Bool) (results : Results ρ) : Text :=
  let footer := results.metadata.renderFooter
  if results.records.isEmpty then "No records found.\n".toList ++ footer
  else
    Table.render colored schema.keys (results.records.map (row schema)) ++
      '\n' :: Ansi.onlyIf colored Ansi.dim footer

end Results

end RecordSearch
