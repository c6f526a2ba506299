import ScriptBridge.Script.SourceMap

/-!
# Errors in terms of the source

An error raised on processed text is led back through the source map. A located error is looked up
by its line and column. A plain text is read as the script's name, a line and a column, each
followed by a colon, and any text after the third colon (`LocatedMessage.ofText?`); a text of
another form stays as it is.

* `dropLeading_eq_some_iff`, `cutAtColon_eq_some_iff`: what the two steps of reading accept.
-/

namespace ScriptBridge

/-! ## Reading a message -/

/-- The text before the first colon and the text after it. -/
def cutAtColon : List Char → Option (List Char × List Char)
  | [] => none
  | c :: rest =>
    if c = ':' then some ([], rest)
    else (cutAtColon rest).map fun (before, after) => (c :: before, after)

/-- What follows a leading text. -/
def dropLeading : List Char → List Char → Option (List Char)
  | [], text => some text
  | _ :: _, [] => none
  | c :: leading, d :: text => if c = d then dropLeading leading text else none

theorem cutAtColon_eq_some_iff {text before after : List Char} :
    cutAtColon text = some (before, after) ↔ text = before ++ ':' :: after ∧ ':' ∉ before := by
  induction text generalizing before with
  | nil => simp [cutAtColon]
  | cons c rest ih =>
    by_cases h : c = ':'
    · cases before with
      | nil => simp [cutAtColon, h]
      | cons b before =>
        simp only [cutAtColon, if_pos h, Option.some.injEq, Prod.mk.injEq]
        grind
    · cases before with
      | nil => simp [cutAtColon, h]
      | cons b before =>
        simp only [cutAtColon, if_neg h, Option.map_eq_some_iff, Prod.mk.injEq, Prod.exists]
        grind

theorem dropLeading_eq_some_iff {leading text rest : List Char} :
    dropLeading leading text = some rest ↔ text = leading ++ rest := by
  induction leading generalizing text with
  | nil => simp [dropLeading]
  | cons c leading ih =>
    cases text with
    | nil => simp [dropLeading]
    | cons d text =>
      by_cases h : c = d
      · simp [dropLeading, h, ih]
      · simp [dropLeading, h, Ne.symm h]

/-- A message that begins with a place in the script: the line, the column and the text behind the
third colon. -/
structure LocatedMessage where
  line : UInt64
  column : UInt64
  tail : List Char
deriving DecidableEq

namespace LocatedMessage

/-- Reads a message that begins with the name of a script, a line and a column. -/
def ofText? (name : String) (text : List Char) : Option LocatedMessage := do
  let rest ← dropLeading (name.toList ++ [':']) text
  let (line, rest) ← cutAtColon rest
  let (column, tail) ← cutAtColon rest
  return ⟨← Text.word? line, ← Text.word? column, tail⟩

/-- The message with another place in front. -/
def render (m : LocatedMessage) (p : Position) : String := p.render ++ ":" ++ String.ofList m.tail

end LocatedMessage

/-! ## Going back to the source -/

/-- Where a place of a script comes from: what the map gives for it, or that place itself. -/
def SourceMap.origin (map : SourceMap) (p : Position) : Position :=
  (map p.line p.column).getD p

/-- Leads an error that was raised on the processed text of the script `name` back to the source. -/
def ScriptError.relocate (name : String) (map : SourceMap) : ScriptError → ScriptError
  | located position text => located (map.origin position) text
  | plain text =>
    match LocatedMessage.ofText? name text.toList with
    | some m => plain (m.render (map.origin ⟨name, m.line, m.column⟩))
    | none => plain text

end ScriptBridge
