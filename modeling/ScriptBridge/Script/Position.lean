import ScriptBridge.Text.Decimal

/-!
# Positions and errors of scripts

A `Position` is a line and a column of a named source. A `ScriptError` is reported at a position, or
as a message that may hold one in its text, usually as `name:line:column: message`.
-/

namespace ScriptBridge

/-- A place in a source. -/
structure Position where
  source : String
  line : UInt64
  column : UInt64
deriving DecidableEq

/-- A position with colons between its parts. -/
def Position.render (p : Position) : String :=
  p.source ++ ":" ++ String.ofList (Text.numeral p.line) ++ ":"
    ++ String.ofList (Text.numeral p.column)

/-- An error of an evaluator or of a preprocessor. -/
inductive ScriptError
  /-- The error names its place. -/
  | located (position : Position) (text : String)
  /-- The place of the error, if it is known, is part of the text. -/
  | plain (text : String)
deriving DecidableEq

namespace ScriptError

/-- The text of the error, behind its place. -/
def message : ScriptError → String
  | located position text => position.render ++ ": " ++ text
  | plain text => text

/-- The position the error is reported at. -/
def position? : ScriptError → Option Position
  | located position _ => some position
  | plain _ => none

end ScriptError

end ScriptBridge
