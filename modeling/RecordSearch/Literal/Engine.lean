import RecordSearch.Literal.Pattern

/-!
# The engine of the program

An engine refuses a pattern by the size that it compiles to, which only the engine knows. The
program runs with one that goes by the length of the text, a rough substitute. General statements
are about every engine and do not rest on this one.
-/

namespace RecordSearch.Pattern

/-- A bound chosen here; no engine is known by it. -/
def maxLength : Nat := 65536

instance : Engine := ⟨fun s ↦ s.length ≤ maxLength⟩

end RecordSearch.Pattern
