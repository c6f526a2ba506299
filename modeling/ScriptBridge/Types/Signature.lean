import ScriptBridge.Types.Interface
import ScriptBridge.Types.TypeId

/-!
# Signatures of host functions

A `Signature` declares how a host function is called: its leading parameters, the element type of a
trailing repeated parameter, and what it returns. `Signature.render` writes the canonical one-line
form:

```text
printf :: string -> ...int => int
now :: time.Time
exit :: ()
```
-/

namespace ScriptBridge

/-! ## Parameters and returns -/

/-- The declared type of a parameter or of a returned value. Calls never coerce, so a value either
has the exact type or offers the methods. -/
inductive ValueType
  | exact (type : TypeId)
  | offering (interface : Interface)
deriving DecidableEq

namespace ValueType

/-- The display name. -/
def name : ValueType → String
  | exact type => type.name
  | offering interface => interface.name

/-- The type as it appears in diagnostics. -/
def inspect : ValueType → String
  | exact type => "Exact(" ++ type.inspect ++ ")"
  | offering interface => "Implements(" ++ interface.inspect ++ ")"

end ValueType

/-- What one return declares: a value, or the distinguished error. -/
inductive ReturnKind
  | value (type : ValueType)
  | error
deriving DecidableEq

namespace ReturnKind

/-- Whether the return is the error. -/
def isError : ReturnKind → Bool
  | error => true
  | value _ => false

/-- The display name. -/
def name : ReturnKind → String
  | value type => type.name
  | error => "error"

/-- The return as it appears in diagnostics. -/
def inspect : ReturnKind → String
  | value type => "Value(" ++ type.inspect ++ ")"
  | error => "Error"

end ReturnKind

/-- How a host function is called. -/
structure Signature where
  /-- The leading parameters, one argument each. -/
  params : List ValueType
  /-- The element type of the repeated parameter behind them. -/
  variadic : Option ValueType
  returns : List ReturnKind
deriving DecidableEq

namespace Signature

/-- The number of required arguments. -/
def arity (s : Signature) : Nat := s.params.length

/-- Whether further arguments may follow the required ones. -/
def isVariadic (s : Signature) : Bool := s.variadic.isSome

/-- Whether this number of arguments may be passed. -/
def admits (s : Signature) (count : Nat) : Bool :=
  if s.isVariadic then decide (s.arity ≤ count) else decide (count = s.arity)

/-- The type that the argument at a position is held to. -/
def expected? (s : Signature) (position : Nat) : Option ValueType :=
  match s.params[position]? with
  | some type => some type
  | none => s.variadic

/-! ## Canonical text -/

/-- The displayed parameters: the names in order, the repeated one behind three dots. -/
def paramNames (s : Signature) : List String :=
  s.params.map ValueType.name ++ (s.variadic.map fun element => "..." ++ element.name).toList

/-- The displayed returns: `()` when no value is returned, the type of the value when it is
returned alone or in front of an error, and everything there is for any other declaration. -/
def returnNames : List ReturnKind → List String
  | [] => ["()"]
  | [.error] => ["()"]
  | [.value type] => [type.name]
  | [.value type, .error] => [type.name]
  | returns => returns.map ReturnKind.name

/-- Names separated by arrows. -/
def arrows (names : List String) : String := String.intercalate " -> " names

/-- The canonical line of a function: two colons, the parameters if there are any, the returns. -/
def render (name : String) (s : Signature) : String :=
  let params := if s.paramNames.isEmpty then "" else arrows s.paramNames ++ " => "
  name ++ " :: " ++ params ++ arrows (returnNames s.returns)

/-- The signature as it appears in diagnostics. -/
def inspect (s : Signature) : String :=
  let variadic := match s.variadic with
    | some element => "Some(" ++ element.inspect ++ ")"
    | none => "None"
  "Signature \x7b params: " ++ Text.bracketed (s.params.map ValueType.inspect)
    ++ ", variadic: " ++ variadic
    ++ ", returns: " ++ Text.bracketed (s.returns.map ReturnKind.inspect) ++ " \x7d"

end Signature

end ScriptBridge
