/-!
# Type errors

A `TypeError` says that a value does not conform to a type descriptor. It may arise before the name
of the offending field is known; `TypeError.nameOnce` attaches the name later, and a name once
attached stays.

* `field?_nameOnce`: which field an error names after a name is offered.
-/

namespace ScriptBridge

/-- A value did not conform to a type descriptor. The empty field is no field. -/
inductive TypeError
  /-- The type is not the exact type, or not one that the coercion rule takes. -/
  | wrongType (field got wants : String)
  /-- The value lacks a method of the interface. -/
  | lacksMethods (field got wants : String)
  /-- The descriptor itself is malformed. -/
  | badDescriptor
deriving DecidableEq

namespace TypeError

/-- The text of the error. -/
def message : TypeError → String
  | wrongType field got wants => field ++ ": value (type " ++ got ++ ") is not of type " ++ wants
  | lacksMethods field got wants =>
    field ++ ": value (type " ++ got ++ ") does not implement " ++ wants
  | badDescriptor => "type checker is invalid"

/-- The field the error is about, once it is known. -/
def field? : TypeError → Option String
  | wrongType field _ _ => if field = "" then none else some field
  | lacksMethods field _ _ => if field = "" then none else some field
  | badDescriptor => none

/-- Attaches a field to an error that names none. -/
def nameOnce (name : String) : TypeError → TypeError
  | wrongType field got wants => wrongType (if field = "" then name else field) got wants
  | lacksMethods field got wants => lacksMethods (if field = "" then name else field) got wants
  | badDescriptor => badDescriptor

theorem field?_nameOnce (name : String) (e : TypeError) :
    (e.nameOnce name).field? =
      if e = badDescriptor then none
      else e.field?.or (if name = "" then none else some name) := by
  cases e with
  | badDescriptor => simp [nameOnce, field?]
  | _ field got wants => by_cases h : field = "" <;> simp [nameOnce, field?, h]

end TypeError

end ScriptBridge
