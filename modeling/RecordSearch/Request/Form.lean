import RecordSearch.Request.Basic
import RecordSearch.Text.Utf8

/-!
# Requests as forms

A form is pairs of a name and a value between ampersands. A plus sign is a space, and a percent sign
with two hexadecimal digits is a byte of UTF-8; without them it is itself.
-/

namespace RecordSearch

namespace Form

def hexDigit? (c : Char) : Option Nat :=
  if '0' ≤ c && c ≤ '9' then some (c.toNat - '0'.toNat)
  else if 'a' ≤ c && c ≤ 'f' then some (c.toNat - 'a'.toNat + 10)
  else if 'A' ≤ c && c ≤ 'F' then some (c.toNat - 'A'.toNat + 10)
  else none

/-- The byte that a percent sign in front of a text stands for. -/
def escapedByte? : Text → Option UInt8
  | c :: d :: _ => do
    let high ← hexDigit? c
    let low ← hexDigit? d
    return UInt8.ofNat (16 * high + low)
  | _ => none

/-- The bytes of an escaped text; `skip` characters are part of an escape before them. -/
def unescape : (skip : Nat) → Text → List UInt8
  | _, [] => []
  | skip + 1, _ :: s => unescape skip s
  | 0, c :: s =>
    if c = '+' then 0x20 :: unescape 0 s
    else if c = '%' then
      match escapedByte? s with
      | some byte => byte :: unescape 2 s
      | none => 0x25 :: unescape 0 s
    else String.utf8EncodeChar c ++ unescape 0 s

def decode (s : Text) : Text :=
  Text.ofUtf8 (unescape 0 s)

/-- A piece without an equals sign is a name with an empty value. -/
def pair (piece : Text) : Text × Text :=
  let (name, value) := (Text.splitOnce '=' piece).getD (piece, [])
  (decode name, decode value)

/-- The pairs of a form. Empty pieces do not count. -/
def pairs (form : Text) : List (Text × Text) :=
  ((Text.splitOn ['&'] form).filter fun piece ↦ !piece.isEmpty).map pair

end Form

/-- The request of a query string, which may begin with a question mark. -/
def Request.ofQuery (query : Text) : Except RequestFault Request :=
  Request.ofPairs (Form.pairs ((Text.dropFront? ['?'] query).getD query))

end RecordSearch
