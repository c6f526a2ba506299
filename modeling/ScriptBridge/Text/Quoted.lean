import ScriptBridge.Text.Hex
import ScriptBridge.Text.Unprintable

/-!
# Quoted text

`quoted` writes a string between double quotes so that it stays on one line and every character
can be told apart. `escape` gives the written form of one character.
-/

namespace ScriptBridge.Text

/-- How one character is written between quotes: the quote and the backslash behind a backslash,
the four common controls by their letters, any other unprintable character by its code point. -/
def escape (c : Char) : List Char :=
  if c = '"' then ['\\', '"']
  else if c = '\\' then ['\\', '\\']
  else if c = '\n' then ['\\', 'n']
  else if c = '\r' then ['\\', 'r']
  else if c = '\t' then ['\\', 't']
  else if c.toNat = 0 then ['\\', '0']
  else if unprintable c then ['\\', 'u', '\x7b'] ++ Hex.plain c.toNat ++ ['\x7d']
  else [c]

/-- A string between double quotes, every character in its written form. -/
def quoted (s : String) : String :=
  String.ofList ('"' :: (s.toList.flatMap escape ++ ['"']))

/-- Items between `[` and `]`, separated by commas. -/
def bracketed (items : List String) : String :=
  "[" ++ String.intercalate ", " items ++ "]"

end ScriptBridge.Text
