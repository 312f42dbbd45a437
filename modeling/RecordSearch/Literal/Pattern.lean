import RecordSearch.Settings.Basic
import RecordSearch.Text.Case

/-!
# Wildcard patterns

A pattern is written in the `LIKE` notation of databases: `%` takes any text, `_` any one character,
a backslash makes the next character stand for itself, and every other character takes a character
that folds alike. A filter is turned into a pattern by its own wildcards; one that uses none is
looked for anywhere in a text.
-/

namespace RecordSearch

/-- What one piece of a pattern takes. -/
inductive Piece where
  | many
  | one
  | char (c : Char)
  deriving DecidableEq, Repr

structure Pattern where
  text : Text
  deriving DecidableEq, Repr

namespace Pattern

def escapeMark : Char := '\\'

/-- The pieces of a pattern text. A backslash at its end stands for nothing. -/
def pieces : Text → List Piece
  | [] => []
  | [c] => if c = '%' then [.many] else if c = '_' then [.one] else
    if c = escapeMark then [] else [.char c]
  | c :: d :: s =>
    if c = escapeMark then .char d :: pieces s
    else if c = '%' then .many :: pieces (d :: s)
    else if c = '_' then .one :: pieces (d :: s)
    else .char c :: pieces (d :: s)

/-- Characters that a pattern does not tell apart. -/
def alike (a b : Char) : Bool :=
  Text.fold a == Text.fold b

/-- From what the later pieces take of each rest of a text to what they take behind any text. -/
def extendMany : List Bool → List Bool
  | [] => []
  | b :: row =>
    let rest := extendMany row
    (b || rest.headD false) :: rest

/-- The same behind one character that is accepted. -/
def extendOne (accepts : Char → Bool) : Text → List Bool → List Bool
  | c :: s, _ :: row => (accepts c && row.headD false) :: extendOne accepts s row
  | _, _ => [false]

def extend (s : Text) : Piece → List Bool → List Bool
  | .many, row => extendMany row
  | .one, row => extendOne (fun _ ↦ true) s row
  | .char c, row => extendOne (alike c) s row

/-- Whether the pieces take each rest of a text, the longest rest first: the whole of it. -/
def matchRow (s : Text) (pieces : List Piece) : List Bool :=
  pieces.foldr (extend s) (List.replicate s.length false ++ [true])

def matchesPieces (pieces : List Piece) (s : Text) : Bool :=
  (matchRow s pieces).headD false

/-- Whether the pattern takes the whole of a text. -/
def accepts (pattern : Pattern) (s : Text) : Bool :=
  matchesPieces (pieces pattern.text) s

/-- The engine that runs the patterns, as far as it decides what is one: it refuses a text that
becomes too large for it. -/
class Engine where
  compiles : Text → Bool

/-- The pattern of a text, if the engine compiles it. -/
def ofText? [Engine] (s : Text) : Option Pattern :=
  if Engine.compiles s then some ⟨s⟩ else none

end Pattern

/-- A part of a filter: one of its wildcards or a character. -/
inductive FilterToken where
  | many
  | one
  | char (c : Char)
  deriving DecidableEq, Repr

namespace FilterToken

def isWildcard : FilterToken → Bool
  | .char _ => false
  | _ => true

/-- Whether a wildcard token stands at the start of a text; an empty token stands nowhere. -/
def leads (token s : Text) : Bool :=
  !token.isEmpty && Text.startsWith token s

/-- Reads a filter from left to right, the token for any text first; `skip` characters of a token
are still to be passed over. -/
def scanFrom (wildcards : Wildcards) : (skip : Nat) → Text → List FilterToken
  | _, [] => []
  | skip + 1, _ :: s => scanFrom wildcards skip s
  | 0, c :: s =>
    if leads wildcards.many (c :: s) then
      .many :: scanFrom wildcards (wildcards.many.length - 1) s
    else if leads wildcards.one (c :: s) then
      .one :: scanFrom wildcards (wildcards.one.length - 1) s
    else .char c :: scanFrom wildcards 0 s

def scan (wildcards : Wildcards) (filter : Text) : List FilterToken :=
  scanFrom wildcards 0 filter

/-- A character as it stands in a pattern. -/
def escape (c : Char) : Text :=
  if c = '%' || c = '_' || c = Pattern.escapeMark then [Pattern.escapeMark, c] else [c]

/-- A token as it stands in a pattern; characters are lower-cased. -/
def toPattern : FilterToken → Text
  | .many => ['%']
  | .one => ['_']
  | .char c => (Text.lowerChar c).flatMap escape

end FilterToken

namespace Pattern

def ofFilter? [Engine] (wildcards : Wildcards) (filter : Text) : Option Pattern :=
  let tokens := FilterToken.scan wildcards filter
  let body := tokens.flatMap FilterToken.toPattern
  ofText? (if tokens.any FilterToken.isWildcard then body else '%' :: body ++ ['%'])

end Pattern

/-- Whether a text uses a wildcard. -/
def Wildcards.occurIn (wildcards : Wildcards) (s : Text) : Bool :=
  (!wildcards.many.isEmpty && Text.contains wildcards.many s) ||
    (!wildcards.one.isEmpty && Text.contains wildcards.one s)

end RecordSearch
