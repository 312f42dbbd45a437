import RecordSearch.Record.Value
import RecordSearch.Report.Ansi
import RecordSearch.Text.Blank

/-!
# Tables

A table has a header and rows of as many cells. Every column is as wide as its longest text and two
blanks stand between columns; nothing blank stands at the end of a line.
-/

namespace RecordSearch

/-- A text cut to a number of characters, the last three of them points. -/
def Text.truncate (most : Nat) (s : Text) : Text :=
  if most < s.length then s.take (most - 3) ++ "...".toList else s

/-- A text filled up with blanks on the right. -/
def Text.pad (width : Nat) (s : Text) : Text :=
  s ++ List.replicate (width - s.length) ' '

namespace Table

/-- The most characters of a cell. -/
def cellWidth : Nat := 24

/-- A value in a cell; a missing one is a minus sign. -/
def cell (v : Value) : Text :=
  Text.truncate cellWidth ((v.toText?).getD ['-'])

/-- The width of each column. -/
def widths (header : List Text) (rows : List (List Text)) : List Nat :=
  rows.foldl (fun widths row ↦ List.zipWith max widths (row.map List.length))
    (header.map List.length)

/-- The cells of a line, each in the width of its column. -/
def line (widths : List Nat) (cells : List Text) : Text :=
  Text.trimEnd (Text.join "  ".toList (List.zipWith Text.pad widths cells))

/-- A header line. -/
def headerLine (colored : Bool) (s : Text) : Text :=
  Ansi.onlyIf colored Ansi.dim s ++ ['\n']

/-- A table with its header and its rows, each on a line of its own. -/
def render (colored : Bool) (header : List Text) (rows : List (List Text)) : Text :=
  let widths := widths header rows
  headerLine colored (line widths header) ++
    rows.flatMap fun row ↦ line widths row ++ ['\n']

end Table

end RecordSearch
