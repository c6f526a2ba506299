import ScriptBridge.Script.Position
import ScriptBridge.Text.Quoted

/-!
# Source maps

A preprocessor gives the evaluator another text than the one in the file. Its `SourceMap` leads from
a line and column of the processed text back to the file. A `LineMap` is a source map by whole
lines.

* `origin?_push`: what a line map answers after one more line.
-/

namespace ScriptBridge

/-- Where a line and column of the processed text come from, if they come from anywhere. -/
abbrev SourceMap := UInt64 → UInt64 → Option Position

/-- The source and line that each line of the processed text comes from, beginning with line one. -/
structure LineMap where
  origins : List (String × UInt64)
deriving DecidableEq

namespace LineMap

def empty : LineMap := ⟨[]⟩

/-- Notes where the next processed line comes from. -/
def push (m : LineMap) (source : String) (line : UInt64) : LineMap :=
  ⟨m.origins ++ [(source, line)]⟩

def size (m : LineMap) : Nat := m.origins.length

def isEmpty (m : LineMap) : Bool := m.origins.isEmpty

/-- Looks up a line, counted from one. Columns stay as they are. -/
def origin? (m : LineMap) : SourceMap := fun line column =>
  if line = 0 then none
  else (m.origins[line.toNat - 1]?).map fun (source, line) => ⟨source, line, column⟩

theorem origin?_push (m : LineMap) (source : String) (origin line column : UInt64) :
    (m.push source origin).origin? line column =
      if line.toNat = m.size + 1 then some ⟨source, origin, column⟩ else m.origin? line column := by
  by_cases h : line = 0
  · simp [origin?, h]
  · have hl : line.toNat ≠ 0 := fun e => h (UInt64.toNat_inj.mp e)
    by_cases he : line.toNat = m.size + 1
    · simp [origin?, push, h, he, size]
    · simp only [origin?, push, if_neg h, if_neg he, List.getElem?_append]
      split
      · rfl
      · next hlt =>
        have hi : line.toNat - 1 - m.origins.length ≠ 0 := by simp only [size] at he; omega
        simp [hi, List.getElem?_eq_none (Nat.le_of_not_lt hlt)]

end LineMap

/-- What a preprocessor makes of a source. -/
structure Preprocessed where
  code : String
  map : SourceMap

/-- The processed text as it appears in diagnostics. -/
def Preprocessed.inspect (p : Preprocessed) : String :=
  "Processed \x7b code: " ++ Text.quoted p.code ++ ", .. \x7d"

end ScriptBridge
