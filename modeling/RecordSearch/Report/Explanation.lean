import RecordSearch.Report.Ansi
import RecordSearch.Search.Basic

/-!
# Explaining searches

What a request was understood to mean: its condition as an indented tree, its sort and its page.
-/

namespace RecordSearch

namespace Condition

/-- What a group is called: a negated group of one child is the negation of that child. -/
def keyword (connective : Connective) (negated : Bool) (children : Nat) : Text :=
  match negated, children with
  | true, 1 => "NOT".toList
  | true, _ => "NOT ".toList ++ connective.render
  | false, _ => connective.render

def renderKeyword (colored negated : Bool) (word : Text) : Text :=
  Ansi.onlyIf colored
    (fun s ↦ Ansi.bold (if negated then Ansi.red s else Ansi.cyan s)) word

def indent (depth : Nat) : Text :=
  List.replicate (2 * depth) ' '

mutual

/-- The lines of a condition, its children deeper by one level. -/
def renderTree (colored : Bool) (depth : Nat) : Condition → Text
  | .leaf name literal => indent depth ++ name ++ ' ' :: literal.render ++ ['\n']
  | .group connective negated children =>
    indent depth ++ renderKeyword colored negated (keyword connective negated children.length) ++
      '\n' :: renderTrees colored (depth + 1) children

def renderTrees (colored : Bool) (depth : Nat) : List Condition → Text
  | [] => []
  | child :: children => renderTree colored depth child ++ renderTrees colored depth children

end

end Condition

namespace Page

def renderLimit (page : Page) : Text :=
  if page.isUnbounded then "unbounded".toList else Text.ofNat page.limit

def render (page : Page) : Text :=
  "offset ".toList ++ Text.ofNat page.offset ++ ", limit ".toList ++ page.renderLimit ++
    ", page ".toList ++ Text.ofNat page.number

end Page

namespace Search

def heading (colored : Bool) (s : String) : Text :=
  Ansi.onlyIf colored Ansi.bold s.toList ++ ['\n']

def nothing : Text := "  (none)\n".toList

def explain (colored : Bool) (search : Search) : Text :=
  heading colored "Condition:" ++
    (match search.condition with
      | some c => c.renderTree colored 1
      | none => nothing) ++
    heading colored "Sort:" ++
    (if search.sort.isEmpty then nothing
      else "  ".toList ++ SortKey.renderAll search.sort ++ ['\n']) ++
    heading colored "Page:" ++ "  ".toList ++ search.page.render ++ ['\n']

end Search

end RecordSearch
