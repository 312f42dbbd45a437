import RecordSearch.Document.Json.Reader
import RecordSearch.Proofs.Calendar.Rendering
import RecordSearch.Search.Terms

/-!
# Keys of values

The key of a value begins with its form, which no content can imitate, and the contents of one form
are written in different ways. So the key shows what a value is, up to the date/time that it has
`asWritten`. Floats are left out.
-/

namespace RecordSearch

namespace Text

variable {s t : Text}

section Escapes

end Escapes

end Text

namespace Value

variable {a b : Value}

/-- The value that the key of a value shows. -/
def asWritten : Value → Value
  | .dateTime t => .dateTime t.asWritten
  | v => v

/-- The second 20:19:23 with a billion nanoseconds more has the key of 20:19:24. -/
example : key (.dateTime ⟨⟨2016, 12, 31, by decide⟩, 73163, 1000000000, by decide, by decide⟩) =
    key (.dateTime ⟨⟨2016, 12, 31, by decide⟩, 73164, 0, by decide, by decide⟩) := by
  decide +kernel

end Value

end RecordSearch
