import RecordSearch.Text.Basic

/-!
# Options

How the arguments of a command are read: switches, options with a value, operands, and the name of a
subcommand, which takes the arguments after it. A letter for an option may follow another, and a
value its option with or without an equals sign; two hyphens alone end the options.
-/

namespace RecordSearch

/-- The arguments with a hyphen at their front that an option takes for its value. -/
inductive Hyphens where
  | never
  | numbers
  | always
  deriving DecidableEq, Repr

structure ValueRule where
  hyphens : Hyphens
  repeatable : Bool
  accepts : Text → Bool

structure OptionRule where
  name : String
  letter : Option Char
  /-- How its value is read, or none for a switch. -/
  value : Option ValueRule

/-- What is wrong with the arguments. -/
inductive UsageFault where
  | unknown (argument : Text)
  | unexpected (argument : Text)
  | missingValue (name : String)
  | unneededValue (name : String)
  | invalidValue (name : String) (value : Text)
  | repeated (name : String)
  | missing (name : String)
  | conflict (first second : String)
  deriving DecidableEq, Repr

/-- Why arguments are not run as a command. -/
inductive Halt where
  | usage (fault : UsageFault)
  | help
  /-- The version is asked for, of the command with this name. -/
  | version (command : Text)
  deriving DecidableEq, Repr

/-- What a command takes. -/
structure CommandRules where
  /-- The name of the command with those of the commands it belongs to. -/
  name : Text
  options : List OptionRule
  /-- The operands that it accepts, in their order. -/
  operands : List ValueRule
  subcommands : List Text

/-- Arguments of one command, up to those of its subcommand. -/
structure Level where
  /-- The options with their values, the last one first. -/
  given : List (String × Text)
  /-- The operands, the last one first. -/
  operands : List Text
  subcommand : Option (Text × List Text)

namespace Level

def has (level : Level) (name : String) : Bool :=
  level.given.any fun entry ↦ entry.1 == name

def value? (level : Level) (name : String) : Option Text :=
  level.given.lookup name

/-- The values of an option that may be repeated. -/
def values (level : Level) (name : String) : List Text :=
  ((level.given.filter fun entry ↦ entry.1 == name).map Prod.snd).reverse

end Level

namespace CommandRules

/-- Digits, with a point and an exponent if there is one. -/
def isNumber (s : Text) : Bool :=
  let mantissa := s.takeWhile fun (c : Char) ↦ c != 'e' && c != 'E'
  let exponent := s.drop mantissa.length
  let whole := mantissa.takeWhile fun (c : Char) ↦ c.isDigit
  let fraction := mantissa.drop whole.length
  (fraction.isEmpty || (!whole.isEmpty && fraction.head? == some '.' &&
      fraction.tail.all fun (c : Char) ↦ c.isDigit)) &&
    (exponent.isEmpty || (!mantissa.isEmpty && !exponent.tail.isEmpty &&
      exponent.tail.all fun (c : Char) ↦ c.isDigit))

/-- Whether an argument has the form of an option. -/
def looksLikeOption : Text → Bool
  | '-' :: _ :: _ => true
  | _ => false

/-- Whether an argument is the value of the option before it. -/
def isValueOf (rule : ValueRule) (arg : Text) : Bool :=
  match rule.hyphens with
  | .always => true
  | .numbers => !looksLikeOption arg || isNumber arg.tail
  | .never => !looksLikeOption arg

/-- Takes in a value of an option. -/
def supply (name : String) (rule : ValueRule) (value : Text) (level : Level) :
    Except Halt Level :=
  if !rule.accepts value then .error (.usage (.invalidValue name value))
  else if level.has name && !rule.repeatable then .error (.usage (.repeated name))
  else .ok { level with given := (name, value) :: level.given }

/-- Takes in a switch. -/
def switch (rules : CommandRules) (name : String) (level : Level) : Except Halt Level :=
  if name = "help" then .error .help
  else if name = "version" then .error (.version rules.name)
  else if level.has name then .error (.usage (.repeated name))
  else .ok { level with given := (name, []) :: level.given }

/-- The options read so far, and the option whose value is the next argument. -/
abbrev Reading := Level × Option (String × ValueRule)

/-- Takes in an option with the value that is part of the same argument, if there is one. -/
def option (rules : CommandRules) (rule : OptionRule) (attached : Option Text) (level : Level) :
    Except Halt Reading :=
  match rule.value, attached with
  | none, none => (rules.switch rule.name level).map fun level ↦ (level, none)
  | none, some _ => .error (.usage (.unneededValue rule.name))
  | some value, some s => (supply rule.name value s level).map fun level ↦ (level, none)
  | some value, none => .ok (level, some (rule.name, value))

/-- An option by its name, which an equals sign and its value may follow. -/
def longOption (rules : CommandRules) (body : Text) (level : Level) : Except Halt Reading :=
  let (name, attached) := match Text.splitOnce '=' body with
    | some (name, value) => (name, some value)
    | none => (body, none)
  match rules.options.find? fun rule ↦ rule.name.toList == name with
  | some rule => rules.option rule attached level
  | none => .error (.usage (.unknown body))

/-- The value after the letter of an option. -/
def attachedValue? : Text → Option Text
  | [] => none
  | '=' :: value => some value
  | value => some value

/-- Options by their letters; the value of the last one may follow its letter. -/
def letters (rules : CommandRules) : Text → Level → Except Halt Reading
  | [], level => .ok (level, none)
  | c :: rest, level =>
    match rules.options.find? fun rule ↦ rule.letter == some c with
    | none => .error (.usage (.unknown [c]))
    | some rule =>
      match rule.value with
      | none => (rules.switch rule.name level).bind (letters rules rest)
      | some _ => rules.option rule (attachedValue? rest) level

def operand (rules : CommandRules) (arg : Text) (level : Level) : Except Halt Level :=
  match rules.operands[level.operands.length]? with
  | none => .error (.usage (.unexpected arg))
  | some rule =>
    if rule.accepts arg then .ok { level with operands := arg :: level.operands }
    else .error (.usage (.unexpected arg))

/-- Reads the arguments from the first that is not read yet; `pending` is the option that waits for
its value, and `ended` says that no more options follow. -/
def scan (rules : CommandRules) (ended : Bool) (pending : Option (String × ValueRule))
    (level : Level) : List Text → Except Halt Level
  | [] =>
    match pending with
    | some (name, _) => .error (.usage (.missingValue name))
    | none => .ok level
  | arg :: args =>
    match pending with
    | some (name, rule) =>
      if isValueOf rule arg then
        (supply name rule arg level).bind fun level ↦ scan rules ended none level args
      else .error (.usage (.missingValue name))
    | none =>
      if ended then (rules.operand arg level).bind fun level ↦ scan rules true none level args
      else if rules.subcommands.contains arg then
        .ok { level with subcommand := some (arg, args) }
      else match arg with
        | ['-', '-'] => scan rules true none level args
        | '-' :: '-' :: body => (rules.longOption body level).bind fun (level, pending) ↦
            scan rules false pending level args
        | '-' :: c :: rest => (rules.letters (c :: rest) level).bind fun (level, pending) ↦
            scan rules false pending level args
        | _ => (rules.operand arg level).bind fun level ↦ scan rules false none level args

def read (rules : CommandRules) (args : List Text) : Except Halt Level :=
  rules.scan false none ⟨[], [], none⟩ args

end CommandRules

end RecordSearch
