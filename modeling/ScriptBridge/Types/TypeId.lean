import ScriptBridge.Hash.Xxh64
import ScriptBridge.Text.Hex

/-!
# Type identities

A `TypeId` is the exact runtime type of a value: a display name and a `Fingerprint`. The fingerprint
is computed from the name unless a host type brings its own, so types need no registration. Two
identities are the same type when both parts agree.
-/

namespace ScriptBridge

/-! ## Fingerprints -/

/-- A 64-bit digest that tells types apart. -/
structure Fingerprint where
  bits : UInt64
deriving DecidableEq

namespace Fingerprint

/-- Mixed into every digest of a type name, to keep it apart from digests of other things. -/
def domain : UInt64 := 0x2fac10b63a6cc57c

/-- The fingerprint of a type name: the digest of its UTF-8 bytes, marked with the domain. -/
def ofName (name : String) : Fingerprint := ⟨domain ^^^ Xxh64.hash 0 name.toUTF8.data.toList⟩

/-- Whether this is the fingerprint that stands for no type. -/
def isEmpty (f : Fingerprint) : Bool := decide (f.bits = 0)

/-- Sixteen hexadecimal digits after `0x`. -/
def render (f : Fingerprint) : String := String.ofList ('0' :: 'x' :: Hex.fixed 16 f.bits.toNat)

/-- The fingerprint as it appears in diagnostics. -/
def inspect (f : Fingerprint) : String := "TypeHash(" ++ f.render ++ ")"

end Fingerprint

/-! ## Identities -/

/-- The exact runtime type of a value. -/
structure TypeId where
  name : String
  fingerprint : Fingerprint
deriving DecidableEq

namespace TypeId

/-- The type whose fingerprint is that of its name. -/
def ofName (name : String) : TypeId := ⟨name, .ofName name⟩

/-- The type as it appears in diagnostics. -/
def inspect (t : TypeId) : String := "TypeTag(" ++ t.name ++ ")"

/-- The type of the absent value; no value can be required to have it. -/
def nil : TypeId := ofName "nil"
def bool : TypeId := ofName "bool"
/-- The type of canonical integers. -/
def int : TypeId := ofName "int"
def int16 : TypeId := ofName "int16"
def int32 : TypeId := ofName "int32"
def int64 : TypeId := ofName "int64"
def float32 : TypeId := ofName "float32"
def float64 : TypeId := ofName "float64"
def string : TypeId := ofName "string"
def bytes : TypeId := ofName "[]byte"
/-- The type of lists of arbitrary values. -/
def list : TypeId := ofName "[]\x7b\x7d"
/-- The type of host functions. -/
def func : TypeId := ofName "func"

end TypeId

end ScriptBridge
