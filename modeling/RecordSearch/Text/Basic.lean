/-!
# Texts and their pieces

A text is a list of code points. This module finds, removes, cuts at and replaces literal
pieces of a text. An empty piece occurs at every position: before each character and at the end.
-/

namespace RecordSearch

abbrev Text := List Char

namespace Text

/-- What is left of a text after a literal front part, if it starts with that part. -/
def dropFront? : Text → Text → Option Text
  | [], s => some s
  | _ :: _, [] => none
  | p :: front, c :: s => if p = c then dropFront? front s else none

theorem dropFront?_eq_some_iff {s rest : Text} :
    {front : Text} → (dropFront? front s = some rest ↔ s = front ++ rest)
  | [] => by simp [dropFront?]
  | p :: front => by
    cases s with
    | nil => simp [dropFront?]
    | cons c s =>
      by_cases h : p = c
      · simp [dropFront?, h, dropFront?_eq_some_iff]
      · simp [dropFront?, h, Ne.symm h]

def startsWith (front s : Text) : Bool :=
  (dropFront? front s).isSome

theorem startsWith_iff {front s : Text} : startsWith front s ↔ front <+: s := by
  simp only [startsWith, Option.isSome_iff_exists, dropFront?_eq_some_iff]
  exact ⟨fun ⟨rest, h⟩ ↦ ⟨rest, h.symm⟩, fun ⟨rest, h⟩ ↦ ⟨rest, h.symm⟩⟩

def contains (piece : Text) : Text → Bool
  | [] => piece.isEmpty
  | c :: s => startsWith piece (c :: s) || contains piece s

theorem contains_iff {piece : Text} : {s : Text} → (contains piece s ↔ piece <:+: s)
  | [] => by simp [contains]
  | c :: s => by
    simp [contains, startsWith_iff, contains_iff, List.infix_cons_iff]

/-- Puts a character in front of the first part of a cut text. -/
def pushFirst (c : Char) : List Text → List Text
  | [] => [[c]]
  | part :: parts => (c :: part) :: parts

/-- The parts between the occurrences of a non-empty separator, read left to right without
overlap; `skip` characters of an occurrence are still to be passed over. -/
def cutFrom (separator : Text) : (skip : Nat) → Text → List Text
  | _, [] => [[]]
  | skip + 1, _ :: s => cutFrom separator skip s
  | 0, c :: s =>
    if startsWith separator (c :: s) then [] :: cutFrom separator (separator.length - 1) s
    else pushFirst c (cutFrom separator 0 s)

/-- The parts of a text between the occurrences of a separator. An empty separator also stands
before the first and after the last character. -/
def splitOn (separator s : Text) : List Text :=
  if separator.isEmpty then [] :: s.map (fun c ↦ [c]) ++ [[]] else cutFrom separator 0 s

def replace (piece substitute s : Text) : Text :=
  List.intercalate substitute (splitOn piece s)

/-- The parts before and after the first occurrence of a character. -/
def splitOnce (mark : Char) : Text → Option (Text × Text)
  | [] => none
  | c :: s =>
    if c = mark then some ([], s)
    else (splitOnce mark s).map fun parts ↦ (c :: parts.1, parts.2)

def join (separator : Text) (parts : List Text) : Text :=
  List.intercalate separator parts

/-- Drops the characters at the end that satisfy a test. -/
def dropEnd (test : Char → Bool) (s : Text) : Text :=
  (s.reverse.dropWhile test).reverse

/-- The length of a text in UTF-8. -/
def byteLength (s : Text) : Nat :=
  s.foldl (fun n c ↦ n + c.utf8Size) 0

/-- The decimal digits of a natural number. -/
def ofNat (n : Nat) : Text :=
  Nat.toDigits 10 n

def ofInt : Int → Text
  | .ofNat n => ofNat n
  | .negSucc n => '-' :: ofNat (n + 1)

/-- A natural number in at least `width` digits. -/
def ofNatPadded (width n : Nat) : Text :=
  let digits := ofNat n
  List.replicate (width - digits.length) '0' ++ digits

end Text

end RecordSearch
