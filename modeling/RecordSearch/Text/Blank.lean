import RecordSearch.Text.Basic

/-!
# Blank characters

Blank is what Unicode lists under `White_Space`. Filters, names and tokens are read without the
blanks around them.
-/

namespace RecordSearch.Text

def isBlank (c : Char) : Bool :=
  let n := c.toNat
  (9 ≤ n && n ≤ 13) || n == 0x20 || n == 0x85 || n == 0xA0 || n == 0x1680 ||
    (0x2000 ≤ n && n ≤ 0x200A) || n == 0x2028 || n == 0x2029 || n == 0x202F || n == 0x205F ||
    n == 0x3000

def trimStart (s : Text) : Text :=
  s.dropWhile isBlank

def trimEnd (s : Text) : Text :=
  dropEnd isBlank s

def trim (s : Text) : Text :=
  trimEnd (trimStart s)

/-- The trimmed text, unless nothing is left of it. -/
def nonBlank? (s : Text) : Option Text :=
  let trimmed := trim s
  if trimmed.isEmpty then none else some trimmed

end RecordSearch.Text
