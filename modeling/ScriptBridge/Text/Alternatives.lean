/-!
# Enumerating alternatives

`alternatives` writes a list of names as a reader would say it: `A`, `A or B`, `A, B, or C`.
-/

namespace ScriptBridge.Text

/-- Three or more names: a comma after each but the last, which `or` introduces. -/
def commaSeparated : List String → String
  | [] => ""
  | [last] => "or " ++ last
  | item :: rest => item ++ ", " ++ commaSeparated rest

/-- Names as alternatives; nothing for no name. -/
def alternatives : List String → String
  | [] => ""
  | [only] => only
  | [first, second] => first ++ " or " ++ second
  | items => commaSeparated items

end ScriptBridge.Text
