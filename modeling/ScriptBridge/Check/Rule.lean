import ScriptBridge.Check.Error
import ScriptBridge.Value.Basic

/-!
# Coercion rules

A `Rule` is a named function that answers the normal form of a value, declines it, or reports a type
error of its own. `Rule.apply` turns a declined value into a type error that names the rule. Two
rules are built in: `Rule.integer` folds every integer width into the canonical one, `Rule.float`
widens single to double precision.
-/

namespace ScriptBridge

/-- Why a rule gives no normal form. -/
inductive RuleError
  /-- The rule does not handle such values. -/
  | declined
  | type (error : TypeError)
deriving DecidableEq

/-- The text of the error; a declined value is never reported as such. -/
def RuleError.message : RuleError → String
  | declined => "hidden: should only be used within a coercion rule"
  | type error => error.message

/-- A named coercion rule. `ident` identifies the function, which cannot be compared itself. -/
structure Rule where
  name : String
  ident : Nat
  normalize : Value → Except RuleError Value

namespace Rule

/-- Whether two rules have the same name and the same function. -/
def same (r s : Rule) : Bool := decide (r.name = s.name ∧ r.ident = s.ident)

/-- Applies the rule. -/
def apply (r : Rule) (v : Value) : Except TypeError Value :=
  match r.normalize v with
  | .ok w => .ok w
  | .error .declined => .error (.wrongType "" v.typeName r.name)
  | .error (.type e) => .error e

/-- The rule as it appears in diagnostics. -/
def inspect (r : Rule) : String := "Typer \x7b name: " ++ Text.quoted r.name ++ ", .. \x7d"

/-- Folds integers of every width into the canonical width. -/
def integer : Rule where
  name := "integer"
  ident := 0
  normalize
    | .int n => .ok (.int n)
    | .int64 n => .ok (.int n)
    | .int32 n => .ok (.int n.toInt64)
    | .int16 n => .ok (.int n.toInt64)
    | _ => .error .declined

/-- Widens floating point numbers to double precision. -/
def float : Rule where
  name := "float"
  ident := 1
  normalize
    | .float64 x => .ok (.float64 x)
    | .float32 x => .ok (.float64 x.widen)
    | _ => .error .declined

end Rule

end ScriptBridge
