import RecordSearch.Number.Shortest
import RecordSearch.Schema.Basic

/-!
# Numbers in filters

A numeric attribute accepts the numbers of its own type: integers of a size, or decimals with any of
the configured separators rounded to a float. Words such as `inf` are no numbers here.
-/

namespace RecordSearch

inductive Number where
  | short (n : Int)
  | integer (n : Int)
  | long (n : Int)
  | float (x : Single)
  | double (x : Double)
  deriving DecidableEq, Repr

namespace Number

def type : Number → NumericType
  | .short _ => .short
  | .integer _ => .integer
  | .long _ => .long
  | .float _ => .float
  | .double _ => .double

def toInt? : Number → Option Int
  | .short n | .integer n | .long n => some n
  | .float _ | .double _ => none

def toDouble : Number → Double
  | .short n | .integer n | .long n => .ofInt n
  | .float x => x.convert
  | .double x => x

def render : Number → Text
  | .short n | .integer n | .long n => Text.ofInt n
  | .float x => x.render .plain
  | .double x => x.render .plain

/-- Numeric equality of numbers of one type: zeros of both signs are equal. -/
def equals : Number → Number → Bool
  | .float x, .float y => x.equals y
  | .double x, .double y => x.equals y
  | a, b => a == b

def isDecimalChar (c : Char) : Bool :=
  c.isDigit || c = '+' || c = '-' || c = '.' || c = 'e' || c = 'E'

/-- A decimal with points for its separators, if it is written in digits, signs, separators and the
mark of an exponent. -/
def normalizeDecimal? (separators : List Text) (s : Text) : Option Text :=
  if Text.contains ['.'] s && !separators.contains ['.'] then none
  else
    let normalized := (separators.filter (· != ['.'])).foldl
      (fun s separator ↦ Text.replace separator ['.'] s) s
    if normalized.all isDecimalChar && normalized.any Char.isDigit then some normalized else none

/-- A finite float of a format. -/
def readFloat? (format : Format) (separators : List Text) (s : Text) : Option (Binary format) :=
  ((normalizeDecimal? separators s).bind Binary.read?).filter Binary.isFinite

def read? (separators : List Text) (type : NumericType) (s : Text) : Option Number :=
  match type with
  | .short => (Text.toSigned? 16 s).map .short
  | .integer => (Text.toSigned? 32 s).map .integer
  | .long => (Text.toSigned? 64 s).map .long
  | .float => (readFloat? .single separators s).map .float
  | .double => (readFloat? .double separators s).map .double

end Number

end RecordSearch
