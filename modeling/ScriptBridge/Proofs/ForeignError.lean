import ScriptBridge.Proofs.Relocation

/-!
# Errors of other scripts

A script may run further scripts, and an error of one of these may come out of the run of the first
one. It is an error of another source then: its place was led back already, by the map of the run
that it belongs to. A text that does not begin with the name of the script is left alone. A position
is not: it is looked up by its line and column, whatever source it is in.

Results:
1. `ofText?_eq_none_of_foreign`: a text of another script is not read as a place of this one.
2. `relocate_foreign_eq_self_iff`: exactly which errors of other scripts are left alone.
-/

namespace ScriptBridge

namespace ScriptError

/-- The error is about another place than one of the script `name`: its position is in another
source, or its text does not begin with the name and a colon. -/
def Foreign (name : String) : ScriptError → Prop
  | located position _ => position.source ≠ name
  | plain text => ¬ (name.toList ++ [':']) <+: text.toList

/-! ## 1. Texts -/

theorem ofText?_eq_none_of_foreign {name text : String} (foreign : (plain text).Foreign name) :
    LocatedMessage.ofText? name text.toList = none := by
  cases read : LocatedMessage.ofText? name text.toList with
  | none => rfl
  | some m =>
    obtain ⟨line, column, written, _, _⟩ := LocatedMessage.ofText?_eq_some_iff.mp read
    refine absurd ⟨line ++ ':' :: (column ++ ':' :: m.tail), ?_⟩ foreign
    rw [written, List.append_assoc]
    rfl

theorem relocate_plain_of_foreign {name text : String} (map : SourceMap)
    (foreign : (plain text).Foreign name) : (plain text).relocate name map = plain text := by
  rw [relocate, ofText?_eq_none_of_foreign foreign]

/-! ## 2. Positions -/

/-- A position stays where it is if the map has no answer for its line and column, or gives that
very position for them. -/
theorem origin_eq_self_iff {map : SourceMap} {p : Position} :
    map.origin p = p ↔ map p.line p.column = none ∨ map p.line p.column = some p := by
  unfold SourceMap.origin
  cases map p.line p.column <;> simp

/-- An error of another script is left as it is if it is a text. If it has a position, it is left as
it is exactly when the map has no answer for its line and column or leads them to that very
position. -/
theorem relocate_foreign_eq_self_iff {name : String} {map : SourceMap} {e : ScriptError}
    (foreign : e.Foreign name) :
    e.relocate name map = e ↔
      ∀ p, e.position? = some p → map p.line p.column = none ∨ map p.line p.column = some p := by
  cases e with
  | plain text =>
    have kept := relocate_plain_of_foreign map foreign
    simp [kept, position?]
  | located place text =>
    have moved : (located place text).relocate name map = located (map.origin place) text := rfl
    rw [moved, located.injEq, origin_eq_self_iff]
    simp [position?]

/-- An error of an included script, in a text and behind the last line that the map knows. -/
theorem included_error_left_alone :
    let map := (LineMap.empty.push "main" 2).origin?
    (plain "inner:1:1: unexpected").Foreign "main" ∧
      (plain "inner:1:1: unexpected").relocate "main" map = plain "inner:1:1: unexpected" ∧
      (located ⟨"inner", 7, 1⟩ "unexpected").Foreign "main" ∧
      (located ⟨"inner", 7, 1⟩ "unexpected").relocate "main" map =
        located ⟨"inner", 7, 1⟩ "unexpected" := by
  intro map
  have text : (plain "inner:1:1: unexpected").Foreign "main" := by
    simp only [Foreign]
    decide
  have position : (located ⟨"inner", 7, 1⟩ "unexpected").Foreign "main" := by
    simp only [Foreign]
    decide
  refine ⟨text, (relocate_foreign_eq_self_iff text).mpr ?_, position,
    (relocate_foreign_eq_self_iff position).mpr ?_⟩
  · intro p none
    cases none
  · intro p placed
    cases placed
    exact .inl rfl

/-- A position of another script that the map has an answer for is moved: an error in the first line
of an included script is told at a line of the script that includes it. -/
theorem included_error_moved :
    let map := (LineMap.empty.push "main.tw" 2).origin?
    let e := located ⟨"lib.tw", 1, 3⟩ "unexpected"
    e.Foreign "main.tw" ∧ e.relocate "main.tw" map = located ⟨"main.tw", 2, 3⟩ "unexpected" ∧
      e.relocate "main.tw" map ≠ e := by
  intro map e
  have moved : e.relocate "main.tw" map = located ⟨"main.tw", 2, 3⟩ "unexpected" := rfl
  have foreign : e.Foreign "main.tw" := by
    simp only [e, Foreign]
    decide
  refine ⟨foreign, moved, ?_⟩
  rw [moved]
  decide

end ScriptError

end ScriptBridge
