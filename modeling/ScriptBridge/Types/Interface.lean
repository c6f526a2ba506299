import ScriptBridge.Text.Quoted

/-!
# Interfaces

An `Interface` is a named set of methods. It is met by whatever offers all of them, under any type.
-/

namespace ScriptBridge

/-- A named set of methods. -/
structure Interface where
  name : String
  methods : List String
deriving DecidableEq

namespace Interface

/-- The interface without methods, which every value meets, nil included. -/
def anything : Interface := ⟨"\x7b\x7d", []⟩

/-- Whether a list of offered methods covers the interface. -/
def metBy (i : Interface) (offered : List String) : Bool :=
  i.methods.all fun m => offered.contains m

theorem metBy_iff (i : Interface) (offered : List String) :
    i.metBy offered = true ↔ ∀ m ∈ i.methods, m ∈ offered := by
  simp [metBy]

@[simp] theorem metBy_anything (offered : List String) : anything.metBy offered = true := rfl

/-- The interface as it appears in diagnostics. -/
def inspect (i : Interface) : String :=
  "Interface \x7b name: " ++ Text.quoted i.name
    ++ ", methods: " ++ Text.bracketed (i.methods.map Text.quoted) ++ " \x7d"

end Interface

end ScriptBridge
