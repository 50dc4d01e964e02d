import FieldGateway.Json.Fields

/-!
# Functional constraints

The values of a data object are grouped by what they are for. The group is named by two letters.
-/

namespace FieldGateway

/-- What the values of a node are for. -/
inductive Constraint where
  | status
  | measurand
  | configuration
  | control
  | setPoint
  | substitution
  | description
  | bufferedReport
  | unbufferedReport
deriving DecidableEq, Repr, Inhabited

namespace Constraint

def all : List Constraint :=
  [.status, .measurand, .configuration, .control, .setPoint, .substitution, .description,
    .bufferedReport, .unbufferedReport]

/-- The two letters of a constraint. -/
def code : Constraint → String
  | .status => "ST"
  | .measurand => "MX"
  | .configuration => "CF"
  | .control => "CO"
  | .setPoint => "SP"
  | .substitution => "SV"
  | .description => "DC"
  | .bufferedReport => "BR"
  | .unbufferedReport => "RP"

def toJson (c : Constraint) : Json := .string c.code

def ofJson? : Json → Option Constraint := Json.choice? .text (all.map fun c => (c.code, c))

theorem ofJson?_toJson (c : Constraint) : ofJson? c.toJson = some c := by
  cases c <;> decide +kernel

end Constraint

end FieldGateway
