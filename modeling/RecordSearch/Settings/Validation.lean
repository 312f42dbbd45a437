import RecordSearch.Settings.Basic

/-!
# Valid settings

Every token must be visible, and tokens between which a filter has to choose must differ. The first
rule that is broken, in the order of the checks, is the one reported.
-/

namespace RecordSearch

inductive SettingsFault where
  /-- A token is empty or blank. -/
  | blank (key : Text)
  | sameConnective
  | sameSortMark
  | sameTruthWord
  | emptySeparator
  deriving DecidableEq, Repr

def SettingsFault.message : SettingsFault → Text
  | .blank key => "'".toList ++ key ++ "' must not be empty".toList
  | .sameConnective =>
    "'operators.and.symbol' and 'operators.or.symbol' must differ".toList
  | .sameSortMark => "'sort.asc' and 'sort.desc' must differ".toList
  | .sameTruthWord => "'boolean.true' and 'boolean.false' must differ".toList
  | .emptySeparator => "'decimal_separators' must not contain empty entries".toList

namespace Settings

/-- The tokens that must not be blank, under the keys they are written with. -/
def tokens (settings : Settings) : List (Text × Text) :=
  let ops := settings.operators
  [("operators.not.symbol".toList, ops.not.symbol),
    ("operators.or.symbol".toList, ops.or.symbol),
    ("operators.and.symbol".toList, ops.and.symbol),
    ("operators.like.symbol".toList, ops.like.symbol),
    ("operators.lt.symbol".toList, ops.less.symbol),
    ("operators.gt.symbol".toList, ops.greater.symbol),
    ("operators.to.symbol".toList, ops.range.symbol),
    ("operators.null".toList, ops.null),
    ("wildcards.many".toList, settings.wildcards.many),
    ("wildcards.one".toList, settings.wildcards.one),
    ("sort.asc".toList, settings.sortMarks.ascending),
    ("sort.desc".toList, settings.sortMarks.descending),
    ("boolean.true".toList, settings.truthWords.yes),
    ("boolean.false".toList, settings.truthWords.no),
    ("disjunction_key".toList, settings.disjunctionKey)]

def fault? (settings : Settings) : Option SettingsFault :=
  match settings.tokens.find? fun token ↦ (Text.trim token.2).isEmpty with
  | some token => some (.blank token.1)
  | none =>
    if settings.operators.and.symbol = settings.operators.or.symbol then some .sameConnective
    else if settings.sortMarks.ascending = settings.sortMarks.descending then some .sameSortMark
    else if Text.equalsIgnoringAsciiCase settings.truthWords.yes settings.truthWords.no then
      some .sameTruthWord
    else if settings.decimalSeparators.any List.isEmpty then some .emptySeparator
    else none

/-- The settings pass every check. -/
def IsValid (settings : Settings) : Prop :=
  settings.fault? = none

instance (settings : Settings) : Decidable settings.IsValid :=
  inferInstanceAs (Decidable (settings.fault? = none))

end Settings

end RecordSearch
