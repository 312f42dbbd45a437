import RecordSearch.Record.Value
import RecordSearch.Document.Json.Writer

/-!
# Documents as records

A table is a record of its entries. Arrays and tables within it count as their JSON text, keys in
ascending order.
-/

namespace RecordSearch

def Value.ofDocument : Document → Value
  | .null => .null
  | .boolean b => .boolean b
  | .integer n => if fitsSigned 64 n then .integer n else .float (.ofInt n)
  | .float x => .float x
  | .single x => .float x.convert
  | .text s => .text s
  | .sequence items => .text (Json.write (Document.sorted (.sequence items)))
  | .table entries => .text (Json.write (Document.sorted (.table entries)))

instance : Record Document where
  value d name := ((d.entry? name).map Value.ofDocument).getD .null

end RecordSearch
