import ScriptBridge.Ieee.Shortest
import ScriptBridge.Value.Basic

/-!
# Values in diagnostics

`Value.inspect` writes a value with the name of its kind, nested lists included. `Value.describe`
writes a named value as one line: the name, a colon and the type, or the signature of a function
behind two colons.
-/

namespace ScriptBridge

/-- A function as it appears in diagnostics: its signature; what it calls stays hidden. -/
def HostFn.inspect (f : HostFn) : String :=
  "NativeFn \x7b signature: " ++ f.signature.inspect ++ ", .. \x7d"

mutual

/-- A value as it appears in diagnostics. -/
def Value.inspect : Value → String
  | .nil => "Void"
  | .bool b => "Bool(" ++ (if b then "true" else "false") ++ ")"
  | .int n => "Int(" ++ toString n.toInt ++ ")"
  | .int16 n => "Int16(" ++ toString n.toInt ++ ")"
  | .int32 n => "Int32(" ++ toString n.toInt ++ ")"
  | .int64 n => "Int64(" ++ toString n.toInt ++ ")"
  | .float32 x => "Float32(" ++ x.render ++ ")"
  | .float64 x => "Float64(" ++ x.render ++ ")"
  | .string s => "String(" ++ Text.quoted s ++ ")"
  | .bytes b => "Bytes(" ++ Text.bracketed (b.map fun byte => toString byte.toNat) ++ ")"
  | .list items => "List(" ++ Text.bracketed (Value.inspectItems items) ++ ")"
  | .object o => "Native(" ++ o.text ++ ")"
  | .func f => f.inspect

/-- The items of a list, one by one. -/
def Value.inspectItems : List Value → List String
  | [] => []
  | item :: rest => Value.inspect item :: Value.inspectItems rest

end

/-- A named value as one line. -/
def Value.describe (name : String) (v : Value) : String :=
  match v.function? with
  | some f => f.signature.render name
  | none => name ++ " : " ++ v.typeName

end ScriptBridge
