/-!
# Decimal numerals

`numeral` writes a machine word in decimal and `word?` reads one: an optional plus sign and one or
more ASCII digits whose value fits into 64 bits. Leading zeros are allowed; blanks, a minus sign and
digits of other scripts are not.
-/

namespace ScriptBridge.Text

/-- The decimal digits of a machine word, without leading zeros. -/
def numeral (n : UInt64) : List Char := Nat.toDigits 10 n.toNat

/-- The value of a list of ASCII digits, most significant first. -/
def digitsValue (digits : List Char) : Nat :=
  digits.foldl (fun value c => 10 * value + (c.toNat - '0'.toNat)) 0

/-- A numeral without its plus sign, if it has one. -/
def unsigned : List Char → List Char
  | '+' :: digits => digits
  | digits => digits

/-- Reads a machine word. -/
def word? (text : List Char) : Option UInt64 :=
  let digits := unsigned text
  if digits ≠ [] ∧ digits.all Char.isDigit ∧ digitsValue digits < UInt64.size then
    some (UInt64.ofNat (digitsValue digits))
  else none

end ScriptBridge.Text
