import RecordSearch.Settings.Operator
import RecordSearch.Text.Case

/-!
# Settings

Everything about the filter language and the paging that a caller may choose: operators, wildcards,
sort marks, the words for truth values, and the defaults of a request.
-/

namespace RecordSearch

structure Operators where
  not : Operator
  or : Operator
  and : Operator
  like : Operator
  less : Operator
  greater : Operator
  range : Operator
  /-- The literal that stands for a missing value. -/
  null : Text
  deriving DecidableEq, Repr

/-- The tokens for any text and for any one character. -/
structure Wildcards where
  many : Text
  one : Text
  deriving DecidableEq, Repr

structure SortMarks where
  ascending : Text
  descending : Text
  deriving DecidableEq, Repr

structure TruthWords where
  yes : Text
  no : Text
  deriving DecidableEq, Repr

structure Settings where
  /-- The position of the first result where a request gives none. -/
  defaultIndex : Nat
  defaultPage : Nat
  defaultLimit : Nat
  /-- The key that joins the attribute filters of a request by OR. -/
  disjunctionKey : Text
  /-- The most alternatives that stay an OR group; more become a membership. -/
  orLimit : Nat
  decimalSeparators : List Text
  nullCaseSensitive : Bool
  operators : Operators
  wildcards : Wildcards
  sortMarks : SortMarks
  truthWords : TruthWords
  deriving DecidableEq, Repr

def Operators.default : Operators where
  not := ⟨"!".toList, "NOT".toList⟩
  or := ⟨"|".toList, "OR".toList⟩
  and := ⟨"&".toList, "AND".toList⟩
  like := ⟨"~".toList, "LIKE".toList⟩
  less := ⟨"<".toList, "LT".toList⟩
  greater := ⟨">".toList, "GT".toList⟩
  range := ⟨"-".toList, "TO".toList⟩
  null := "NULL".toList

def Wildcards.default : Wildcards := ⟨"*".toList, "?".toList⟩

def SortMarks.default : SortMarks := ⟨"+".toList, "-".toList⟩

def TruthWords.default : TruthWords := ⟨"true".toList, "false".toList⟩

def Settings.default : Settings where
  defaultIndex := 0
  defaultPage := 1
  defaultLimit := 10
  disjunctionKey := "Filter-Type-Disjunction".toList
  orLimit := 10
  decimalSeparators := [".".toList, ",".toList]
  nullCaseSensitive := true
  operators := .default
  wildcards := .default
  sortMarks := .default
  truthWords := .default

/-- Whether a text is the literal for a missing value. -/
def Settings.isNullToken (settings : Settings) (s : Text) : Bool :=
  if settings.nullCaseSensitive then s == settings.operators.null
  else Text.equalsIgnoringAsciiCase s settings.operators.null

end RecordSearch
