import RecordSearch.Search.Basic

/-!
# Statistics of numeric attributes

Aggregates over the numeric values of one attribute of all results; missing values and those that are
no number do not count.
-/

namespace RecordSearch

inductive Statistic where
  | count | minimum | maximum | average | sum
  /-- Each of the others. -/
  | all
  deriving DecidableEq, Repr

namespace Statistic

def name : Statistic → Text
  | .count => "count".toList
  | .minimum => "min".toList
  | .maximum => "max".toList
  | .average => "avg".toList
  | .sum => "sum".toList
  | .all => "all".toList

def each : List Statistic := [.count, .minimum, .maximum, .average, .sum, .all]

/-- The statistic of a name, whose case and the blanks around it do not count. -/
def parse (s : Text) : Except RequestFault Statistic :=
  let key := (Text.trim s).map Char.toLower
  match each.find? fun statistic ↦ statistic.name == key with
  | some statistic => .ok statistic
  | none => .error (.unknownStatistic s)

/-- Whether asking for the first asks for the second. -/
def includes (asked statistic : Statistic) : Bool :=
  asked == statistic || asked == .all

end Statistic

structure Statistics where
  count : Option Nat
  minimum : Option Double
  maximum : Option Double
  average : Option Double
  sum : Option Double
  deriving DecidableEq

namespace Statistics

/-- The sum from the first to the last. A sum of no numbers is negative zero, which changes no
other number that it is added to. -/
def total (values : List Double) : Double :=
  values.foldl Binary.add (.zero true)

/-- The values combined from the first to the last. -/
def reduce (combine : Double → Double → Double) : List Double → Option Double
  | [] => none
  | x :: xs => some (xs.foldl combine x)

/-- An aggregate of at least one value. -/
def ofValues (values : List Double) (aggregate : List Double → Double) : Option Double :=
  if values.isEmpty then none else some (aggregate values)

def mean (values : List Double) : Double :=
  (total values).divide (.ofInt values.length)

def compute (asked : Statistic) (values : List Double) : Statistics :=
  let want {α : Type} (statistic : Statistic) (value : Option α) : Option α :=
    if asked.includes statistic then value else none
  { count := want .count (some values.length)
    minimum := want .minimum (reduce Binary.minimum values)
    maximum := want .maximum (reduce Binary.maximum values)
    average := want .average (ofValues values mean)
    sum := want .sum (ofValues values total) }

end Statistics

/-- The numbers that all results have for an attribute. -/
def Search.numbers {ρ : Type} [Record ρ] (search : Search) (name : Text) (records : List ρ) :
    List Double :=
  (search.matching records).filterMap fun record ↦ (Record.value record name).toDouble?

def Search.statistics {ρ : Type} [Record ρ] (search : Search) (name : Text) (asked : Statistic)
    (records : List ρ) : Statistics :=
  .compute asked (search.numbers name records)

end RecordSearch
