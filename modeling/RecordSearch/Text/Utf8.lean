import RecordSearch.Text.Basic

/-!
# Texts from bytes

The text of any bytes read as UTF-8: each longest piece that could begin a character but does not
complete it stands for one replacement character.
-/

namespace RecordSearch.Text

def replacement : Char := Char.ofNat 0xFFFD

/-- A character of which some bytes are still to come. -/
structure PartialCharacter where
  value : Nat
  /-- The count of bytes to come. -/
  missing : Nat
  /-- The range of the next byte. -/
  low : Nat
  high : Nat

/-- What the first byte of a character says of the others, if it is not a character of its own. -/
def beginCharacter? (byte : Nat) : Option PartialCharacter :=
  if 0xC2 ≤ byte && byte ≤ 0xDF then some ⟨byte - 0xC0, 1, 0x80, 0xBF⟩
  else if 0xE0 ≤ byte && byte ≤ 0xEF then
    some ⟨byte - 0xE0, 2, if byte = 0xE0 then 0xA0 else 0x80, if byte = 0xED then 0x9F else 0xBF⟩
  else if 0xF0 ≤ byte && byte ≤ 0xF4 then
    some ⟨byte - 0xF0, 3, if byte = 0xF0 then 0x90 else 0x80, if byte = 0xF4 then 0x8F else 0xBF⟩
  else none

/-- The characters that a byte between characters completes, and the character that it begins. -/
def firstByte (byte : Nat) : Text × Option PartialCharacter :=
  if byte < 0x80 then ([Char.ofNat byte], none)
  else match beginCharacter? byte with
    | some begun => ([], some begun)
    | none => ([replacement], none)

def nextByte (begun : PartialCharacter) (byte : Nat) : Text × Option PartialCharacter :=
  if begun.low ≤ byte && byte ≤ begun.high then
    let value := begun.value * 64 + (byte - 0x80)
    if begun.missing = 1 then ([Char.ofNat value], none)
    else ([], some ⟨value, begun.missing - 1, 0x80, 0xBF⟩)
  else
    let (completed, state) := firstByte byte
    (replacement :: completed, state)

/-- Reads bytes on from within a character or between two. -/
def readUtf8 : Option PartialCharacter → List UInt8 → Text
  | none, [] => []
  | some _, [] => [replacement]
  | state, byte :: bytes =>
    let (completed, state) := match state with
      | none => firstByte byte.toNat
      | some begun => nextByte begun byte.toNat
    completed ++ readUtf8 state bytes

def ofUtf8 (bytes : List UInt8) : Text :=
  readUtf8 none bytes

end RecordSearch.Text
