import RecordSearch.Text.Quoted
import RecordSearch.Text.Similarity

/-!
# Faults of requests

Filters never fail. What can be wrong with a request is a sort by an attribute that the records do not
have, a parameter that is no integer, or the name of a statistic.
-/

namespace RecordSearch

inductive RequestFault where
  | unknownSortAttribute (name : Text) (suggestion : Option Text)
  | invalidParameter (name value : Text)
  | unknownStatistic (name : Text)
  deriving DecidableEq, Repr

namespace RequestFault

/-- An unknown name with the one among the known names that was probably meant. -/
def sortAttribute (name : Text) (known : List Text) : RequestFault :=
  .unknownSortAttribute name (Text.findSimilar? name known)

/-- The question after an unknown name. -/
def suggest : Option Text → Text
  | some name => " Did you mean ".toList ++ Text.inSingleQuotes name ++ ['?']
  | none => []

def message : RequestFault → Text
  | .unknownSortAttribute name suggestion =>
    "cannot sort by unknown attribute ".toList ++ Text.inSingleQuotes name ++ '.' :: suggest suggestion
  | .invalidParameter name value =>
    "invalid value ".toList ++ Text.inSingleQuotes value ++ " for parameter ".toList ++
      Text.inSingleQuotes name
  | .unknownStatistic name =>
    "unknown stats operation ".toList ++ Text.inSingleQuotes name ++
      " (expected count, min, max, avg, sum or all)".toList

end RequestFault

end RecordSearch
