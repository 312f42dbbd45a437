import RecordSearch.Text.Basic

/-!
# Text attributes of terminals

Control sequences around a text give it a weight or a colour on a terminal.
-/

namespace RecordSearch.Ansi

/-- The control sequence of a display attribute. -/
def select (attr : Nat) : Text :=
  Char.ofNat 27 :: '[' :: Text.ofNat attr ++ ['m']

def surround (opening closing : Nat) (s : Text) : Text :=
  select opening ++ s ++ select closing

def bold (s : Text) : Text := surround 1 0 s

def dim (s : Text) : Text := surround 2 0 s

def red (s : Text) : Text := surround 31 39 s

def green (s : Text) : Text := surround 32 39 s

def cyan (s : Text) : Text := surround 36 39 s

/-- Applies an attribute if the output is colored. -/
def onlyIf (colored : Bool) (attr : Text → Text) (s : Text) : Text :=
  if colored then attr s else s

end RecordSearch.Ansi
