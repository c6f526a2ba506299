/-!
# Hexadecimal text

Lower-case hexadecimal digits of natural numbers, at a fixed width (`fixed`) or with no leading
zero (`plain`).
-/

namespace ScriptBridge.Hex

/-- The `width` lowest hexadecimal digits of a number, most significant first. -/
def fixed : Nat → Nat → List Char
  | 0, _ => []
  | width + 1, n => fixed width (n / 16) ++ [Nat.digitChar (n % 16)]

@[simp] theorem length_fixed (width n : Nat) : (fixed width n).length = width := by
  induction width generalizing n with
  | zero => rfl
  | succ width ih => simp [fixed, ih]

/-- The hexadecimal digits of a number, without leading zeros. -/
def plain (n : Nat) : List Char := Nat.toDigits 16 n

end ScriptBridge.Hex
