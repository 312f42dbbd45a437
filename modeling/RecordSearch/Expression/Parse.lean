import RecordSearch.Expression.Basic
import RecordSearch.Settings.Basic

/-!
# Reading filter expressions

A filter is a key and a value. AND splits the value before OR does, and NOT belongs to one literal. A
key of several names asks for each AND part on any of them. Too many alternatives for one name become
a membership.
-/

namespace RecordSearch.Expression

/-- One literal, behind NOT or not. -/
def ofLiteral (settings : Settings) (name value : Text) : Expression :=
  match settings.operators.not.operand? value with
  | some rest => negate (comparison name rest)
  | none => comparison name (Text.trim value)

/-- Alternatives joined by OR. -/
def ofAlternatives (settings : Settings) (name value : Text) : Expression :=
  let or := settings.operators.or
  if or.occursIn value then
    let parts := or.split value
    if settings.orLimit < parts.length then membership name (or.normalize value)
    else any (parts.map (ofLiteral settings name))
  else ofLiteral settings name value

/-- Parts joined by AND. -/
def ofClauses (settings : Settings) (name value : Text) : Expression :=
  let and := settings.operators.and
  if and.occursIn value then all ((and.split value).map (ofAlternatives settings name))
  else ofAlternatives settings name value

/-- A value asked for on any of several attributes. -/
def ofNames (settings : Settings) (names : List Text) (value : Text) : Expression :=
  any (names.map fun name ↦ ofClauses settings name value)

/-- The expression of a filter; a blank value is no filter. -/
def parse? (settings : Settings) (key value : Text) : Option Expression :=
  let ops := settings.operators
  if (Text.trim value).isEmpty then none
  else if Text.contains ops.or.symbol key then
    let names := ops.or.split key
    if ops.and.occursIn value then
      some (all ((ops.and.split value).map (ofNames settings names)))
    else some (ofNames settings names value)
  else some (ofClauses settings (Text.trim key) value)

end RecordSearch.Expression
