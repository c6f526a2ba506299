/-!
# Access

An `Access` is a set of three flags that says how a setting and a scope are synchronized. Bits
without a meaning are kept.
-/

namespace ScriptBridge

/-- The access flags of a setting. -/
structure Access where
  bits : UInt8
deriving DecidableEq

namespace Access

/-- The setting takes its value from the scope. -/
def read : Access := ⟨1⟩

/-- The setting puts its value into the scope. -/
def write : Access := ⟨2⟩

/-- A setting that reads needs a value in the scope. -/
def required : Access := ⟨4⟩

/-- No access at all. -/
def reserved : Access := ⟨0⟩

/-- The flags of both. -/
def union (a b : Access) : Access := ⟨a.bits ||| b.bits⟩

/-- Whether every one of some flags is set. -/
def includes (a flags : Access) : Bool := decide (a.bits &&& flags.bits = flags.bits)

/-- Whether no bit is set. -/
def isReserved (a : Access) : Bool := decide (a.bits = 0)

def canRead (a : Access) : Bool := a.includes read

def canWrite (a : Access) : Bool := a.includes write

def isRequired (a : Access) : Bool := a.includes required

/-- What includes a flag is not reserved. -/
theorem isReserved_of_includes {a flags : Access} (some_flag : flags.bits ≠ 0)
    (included : a.includes flags = true) : a.isReserved = false := by
  simp only [includes, decide_eq_true_eq] at included
  simp only [isReserved, decide_eq_false_iff_not]
  intro none
  rw [none, UInt8.zero_and] at included
  exact some_flag included.symm

end Access

end ScriptBridge
