import ScriptBridge.Types.Signature

/-!
# Contracts of host functions

Not every declaration can be bound. `Signature.ofForms` collects a signature from the forms of the
parameters, of which only the last may take the remaining arguments; `Signature.validate` accepts
the returns that one script value or one error can stand for. A `ContractBreach` is a mistake of the
host, not a condition that a script can cause.
-/

namespace ScriptBridge

/-- Why a host function cannot be declared or bound. -/
inductive ContractBreach
  | notAFunction (name got : String)
  | tooManyReturns (name : String) (count : Nat)
  | secondNotError (name got : String)
  | restNotLast (position count : Nat)
deriving DecidableEq

/-- The text of a breach. -/
def ContractBreach.message : ContractBreach → String
  | notAFunction name got => name ++ ": value of type " ++ got ++ " is not a function"
  | tooManyReturns name count =>
    name ++ ": a function can return at most two values, found " ++ toString count
  | secondNotError name got =>
    name ++ ": second return value can only be an error, found " ++ got
  | restNotLast position count =>
    "variadic parameter must be the last parameter, found at position " ++ toString position
      ++ " of " ++ toString count

/-- How a parameter consumes arguments: exactly one, or every remaining one. -/
inductive ParamForm
  | single (type : ValueType)
  | rest (element : ValueType)
deriving DecidableEq

namespace Signature

/-- Collects forms from a position on; `count` is the length of the whole list. -/
def collect (count : Nat) (returns : List ReturnKind) :
    Nat → List ParamForm → Except ContractBreach Signature
  | _, [] => .ok ⟨[], none, returns⟩
  | _, [.rest element] => .ok ⟨[], some element, returns⟩
  | position, .rest _ :: _ :: _ => .error (.restNotLast position count)
  | position, .single type :: forms =>
    match collect count returns (position + 1) forms with
    | .ok s => .ok { s with params := type :: s.params }
    | .error breach => .error breach

/-- The signature that a list of parameter forms spells out. -/
def ofForms (forms : List ParamForm) (returns : List ReturnKind) :
    Except ContractBreach Signature :=
  collect forms.length returns 0 forms

/-- Whether the returns can be bound: at most two, the second of them an error. -/
def validate (name : String) (s : Signature) : Except ContractBreach Unit :=
  match s.returns with
  | [] | [_] | [_, .error] => .ok ()
  | [_, .value second] => .error (.secondNotError name second.name)
  | returns => .error (.tooManyReturns name returns.length)

end Signature

end ScriptBridge
