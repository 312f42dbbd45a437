import RecordSearch.Text.Basic
import RecordSearch.Text.Hidden

/-!
# Quoted texts

A text is quoted if the same quote, double or single, stands at both of its ends. A text that is
shown stands between double quotes, with escapes for what would not be seen.
-/

namespace RecordSearch.Text

def singleQuote : Char := Char.ofNat 39

def isQuotedBy (quote : Char) (s : Text) : Bool :=
  2 ≤ s.length && s.head? == some quote && s.getLast? == some quote

def isQuoted (s : Text) : Bool :=
  isQuotedBy '"' s || isQuotedBy singleQuote s

/-- The text between the quotes, or the text itself if it has none. -/
def unquote (s : Text) : Text :=
  if isQuoted s then (s.drop 1).dropLast else s

/-- A text between single quotes, as messages name it. -/
def inSingleQuotes (s : Text) : Text :=
  singleQuote :: s ++ [singleQuote]

/-- The letter that stands behind a backslash for a character. -/
def escapeLetter? : Char → Option Char
  | '\x00' => some '0'
  | '\t' => some 't'
  | '\n' => some 'n'
  | '\r' => some 'r'
  | '"' => some '"'
  | '\\' => some '\\'
  | _ => none

/-- A character between double quotes: a letter behind a backslash, or its code if it would not be
seen, or the character as it is. -/
def escaped (c : Char) : Text :=
  match escapeLetter? c with
  | some letter => ['\\', letter]
  | none =>
    if isHidden c then "\\u\x7b".toList ++ Nat.toDigits 16 c.toNat ++ ['\x7d'] else [c]

def inDoubleQuotes (s : Text) : Text :=
  '"' :: s.flatMap escaped ++ ['"']

end RecordSearch.Text
