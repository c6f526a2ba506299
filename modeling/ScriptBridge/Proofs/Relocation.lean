import ScriptBridge.Script.Relocate

/-!
# Going back to the source

An error that names a place of a processed text is reported at the place the text came from. The
place may be a field of the error or the beginning of its text, where it is read back from what
somebody has written; names, messages and tails may hold colons and digits of their own.

Results:
1. `word?_numeral`, `colon_notMem_of_word?`: numerals are read back, and hold no colon.
2. `ofText?_eq_some_iff`: which messages are read, and as what.
3. `relocate_of_places`: an error that names a place is told at the origin of that place.
4. `relocate_message`: the two forms of an error are relocated alike.
-/

namespace ScriptBridge

/-! ## 1. Numerals -/

namespace Text

theorem isDigit_of_mem_numeral {n : UInt64} {c : Char} (member : c ∈ numeral n) :
    c.isDigit = true :=
  Nat.isDigit_of_mem_toDigits (by decide) (by decide) member

theorem unsigned_of_digits {digits : List Char} (all : ∀ c ∈ digits, c.isDigit = true) :
    unsigned digits = digits := by
  unfold unsigned
  split
  · exact absurd (all '+' List.mem_cons_self) (by decide)
  · rfl

theorem word?_numeral (n : UInt64) : word? (numeral n) = some n := by
  have signless : unsigned (numeral n) = numeral n :=
    unsigned_of_digits fun _ => isDigit_of_mem_numeral
  have value : digitsValue (numeral n) = n.toNat := Nat.ofDigitChars_ten_toDigits
  have digits : (numeral n).all Char.isDigit = true :=
    List.all_eq_true.mpr fun _ member => isDigit_of_mem_numeral member
  have some_digit : numeral n ≠ [] := Nat.toDigits_ne_nil
  have fits : n.toNat < UInt64.size := n.toNat_lt
  simp [word?, signless, value, digits, some_digit, fits]

/-- Only signs and digits are read as a number. -/
theorem colon_notMem_of_word? {text : List Char} {n : UInt64} (read : word? text = some n) :
    ':' ∉ text := by
  intro member
  simp only [word?] at read
  split at read
  · next digits =>
    have behind : ':' ∈ unsigned text := by
      unfold unsigned
      split
      · exact (List.mem_cons.mp member).resolve_left (by decide)
      · exact member
    exact absurd (List.all_eq_true.mp digits.2.1 ':' behind) (by decide)
  · cases read

end Text

/-! ## 2. Messages that name a place -/

/-- A message is read as a place and a tail if it is the name, a line and a column, each followed by
a colon, and the tail. -/
theorem LocatedMessage.ofText?_eq_some_iff {name : String} {text : List Char} {m : LocatedMessage} :
    LocatedMessage.ofText? name text = some m ↔
      ∃ line column, text = name.toList ++ ':' :: (line ++ ':' :: (column ++ ':' :: m.tail)) ∧
        Text.word? line = some m.line ∧ Text.word? column = some m.column := by
  obtain ⟨l, c, tail⟩ := m
  simp only [LocatedMessage.ofText?, Option.bind_eq_bind, Option.bind_eq_some_iff, Prod.exists,
    dropLeading_eq_some_iff, cutAtColon_eq_some_iff, Option.pure_def, Option.some.injEq,
    LocatedMessage.mk.injEq]
  constructor
  · rintro ⟨_, rfl, line, _, ⟨rfl, _⟩, column, _, ⟨rfl, _⟩, _, readLine, _, readColumn, rfl, rfl, rfl⟩
    exact ⟨line, column, by simp, readLine, readColumn⟩
  · rintro ⟨line, column, rfl, readLine, readColumn⟩
    exact ⟨_, by simp, line, _, ⟨rfl, Text.colon_notMem_of_word? readLine⟩, column, tail,
      ⟨rfl, Text.colon_notMem_of_word? readColumn⟩, l, readLine, c, readColumn, rfl, rfl, rfl⟩

namespace ScriptError

/-- `Places place tell e`: the error `e` names `place`, as a field or in front of its text, and
`tell p` is the same error with `p` for that place. -/
inductive Places (place : Position) : (Position → ScriptError) → ScriptError → Prop
  | located (text : String) : Places place (fun p => located p text) (located place text)
  | plain {line column : List Char} (tail : String) :
      Text.word? line = some place.line → Text.word? column = some place.column →
      Places place (fun p => plain (p.render ++ ":" ++ tail))
        (plain (place.source ++ ":" ++ String.ofList line ++ ":" ++ String.ofList column ++ ":"
          ++ tail))

/-- A text with the rendered place in front names that place. -/
theorem places_render (place : Position) (tail : String) :
    Places place (fun p => plain (p.render ++ ":" ++ tail))
      (plain (place.render ++ ":" ++ tail)) :=
  .plain tail (Text.word?_numeral place.line) (Text.word?_numeral place.column)

/-! ## 3. Relocated errors -/

/-- An error that names a place of the script is told at the origin of the place; the kind of the
error and the text behind the place stay. -/
theorem relocate_of_places {map : SourceMap} {place : Position} {tell : Position → ScriptError}
    {e : ScriptError} (places : Places place tell e) :
    e.relocate place.source map = tell (map.origin place) := by
  cases places with
  | located text => rfl
  | @plain line column tail readLine readColumn =>
    have read : LocatedMessage.ofText? place.source
        (place.source ++ ":" ++ String.ofList line ++ ":" ++ String.ofList column ++ ":"
          ++ tail).toList = some ⟨place.line, place.column, tail.toList⟩ :=
      LocatedMessage.ofText?_eq_some_iff.mpr ⟨line, column, by simp, readLine, readColumn⟩
    rw [relocate, read]
    simp only [LocatedMessage.render, String.ofList_toList]

/-! ## 4. The two forms of an error -/

/-- An error with a position reads as a text that names the position. -/
theorem message_located (place : Position) (text : String) :
    (located place text).message = place.render ++ ":" ++ (" " ++ text) := by
  have separator : ": " = ":" ++ " " := rfl
  rw [message, separator, ← String.append_assoc, ← String.append_assoc]

/-- A located error that is printed and then relocated as a plain text is the text of the error that
is relocated first and then printed, whatever the name of the script, the source map, the line, the
column and the text of the error. -/
theorem relocate_message (name : String) (map : SourceMap) (line column : UInt64) (text : String) :
    (plain (located ⟨name, line, column⟩ text).message).relocate name map =
      plain ((located ⟨name, line, column⟩ text).relocate name map).message := by
  let place : Position := ⟨name, line, column⟩
  calc
    (plain (located place text).message).relocate name map
      = (plain (place.render ++ ":" ++ (" " ++ text))).relocate name map := by
        rw [message_located]
    _ = plain ((map.origin place).render ++ ":" ++ (" " ++ text)) :=
        relocate_of_places (places_render place (" " ++ text))
    _ = plain (located (map.origin place) text).message := by rw [message_located]

end ScriptError

end ScriptBridge
