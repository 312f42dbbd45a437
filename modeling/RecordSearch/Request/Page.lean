import RecordSearch.Number.Integer
import RecordSearch.Settings.Basic

/-!
# Pages

The window of results that a request asks for, by the position of the first result or by the number
of a page. The page number is only reported: it need not agree with the offset.
-/

namespace RecordSearch

structure Page where
  /-- The position of the first result. -/
  offset : Nat
  /-- The most results, or zero for all of them. -/
  limit : Nat
  number : Nat
  deriving DecidableEq, Repr

namespace Page

/-- The greatest position, that of a word of 64 bits. -/
def greatestPosition : Nat := wordLimit 64 - 1

/-- The least count of pages of a size on which a number of results fits. -/
def pagesFor (count size : Nat) : Nat :=
  (count + (size - 1)) / size

/-- An integer that is at least a bound. -/
def atLeast? (bound : Nat) (n : Option Int) : Option Nat :=
  match n with
  | some n => if (bound : Int) ≤ n then some n.toNat else none
  | none => none

def resolveOffset (settings : Settings) (index page : Option Nat) (limit : Nat) : Nat :=
  match index, page with
  | some index, _ => index
  | none, some page => min ((page - 1) * limit) greatestPosition
  | none, none => settings.defaultIndex

/-- A page number is taken from an index only if the limit was given as well. -/
def resolveNumber (settings : Settings) (index page limit : Option Nat) : Nat :=
  match page, index, limit with
  | some page, _, _ => page
  | none, some index, some limit =>
    if index = 0 || limit = 0 then settings.defaultPage else pagesFor index limit
  | none, _, _ => settings.defaultPage

/-- The window for a requested index, page number and limit. A negative limit counts as zero, a
negative index and a page number below one as missing. -/
def resolve (settings : Settings) (index page limit : Option Int) : Page :=
  let given := limit.map Int.toNat
  let size := given.getD settings.defaultLimit
  let index := atLeast? 0 index
  let page := atLeast? 1 page
  ⟨resolveOffset settings index page size, size, resolveNumber settings index page given⟩

/-- Whether all results are on one page. -/
def isUnbounded (page : Page) : Bool :=
  page.limit == 0

/-- The part of a list in the window. -/
def window {α : Type} (page : Page) (xs : List α) : List α :=
  let rest := xs.drop page.offset
  if page.isUnbounded then rest else rest.take page.limit

/-- How many pages a number of results fills. -/
def count (page : Page) (results : Nat) : Nat :=
  if page.isUnbounded then min results 1 else pagesFor results page.limit

end Page

end RecordSearch
