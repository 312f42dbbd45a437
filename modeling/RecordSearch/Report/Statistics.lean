import RecordSearch.Report.Table
import RecordSearch.Search.Statistics
import RecordSearch.Search.Terms
import RecordSearch.Text.Quoted

/-!
# Reports of statistics and terms

Statistics are listed one a line, those that were not asked for or have no value left out. Terms are
a table of values and counts.
-/

namespace RecordSearch

/-- A number with at most four places after the point. -/
def renderNumber (x : Double) : Text :=
  let trimmed := Text.dropEnd (· = '.') (Text.dropEnd (· = '0') (x.renderFixed 4))
  if trimmed = "-0".toList then ['0'] else trimmed

namespace Statistics

/-- One line for a statistic that has a value. -/
def renderLine (name : String) : Option Text → Text
  | some value => "  ".toList ++ name.toList ++ ": ".toList ++ value ++ ['\n']
  | none => []

/-- Nothing was asked for or nothing has a value. -/
def isEmpty (s : Statistics) : Bool :=
  s.count.isNone && s.minimum.isNone && s.maximum.isNone && s.average.isNone && s.sum.isNone

def render (name : Text) (colored : Bool) (s : Statistics) : Text :=
  Table.headerLine colored ("Stats for ".toList ++ Text.inSingleQuotes name) ++
    renderLine "count" (s.count.map Text.ofNat) ++
    renderLine "min" (s.minimum.map renderNumber) ++
    renderLine "max" (s.maximum.map renderNumber) ++
    renderLine "avg" (s.average.map renderNumber) ++
    renderLine "sum" (s.sum.map renderNumber) ++
    (if s.isEmpty then "  (no values)\n".toList else [])

end Statistics

namespace Term

/-- The width of the column of values. -/
def width (name : Text) (terms : List Term) : Nat :=
  terms.foldl (fun width term ↦ max width (Table.cell term.value).length) name.length

/-- A line with its first column filled up. -/
def renderLine (width : Nat) (left right : Text) : Text :=
  Text.pad width left ++ "  ".toList ++ right

def renderAll (name : Text) (colored : Bool) (terms : List Term) : Text :=
  if terms.isEmpty then "No values of ".toList ++ Text.inSingleQuotes name ++ " found.\n".toList
  else
    let width := width name terms
    Table.headerLine colored (renderLine width name "Count".toList) ++
      terms.flatMap fun term ↦
        renderLine width (Table.cell term.value) (Text.ofNat term.count) ++ ['\n']

end Term

end RecordSearch
