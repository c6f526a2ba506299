import Mathlib.Data.List.Basic
import Mathlib.Data.List.Induction
import ScriptBridge.Proofs.Relocation

/-!
# The grammar of messages that name a place

A message names a place of the script if it begins with the name of the script, a line and a column.
`LocatedMessage.Spelled` says so without any reading: it takes the text apart. The line and the
column are numerals (`Text.Numeral`), which may have a plus sign and leading zeros.

Results:
1. `word?_eq_some_iff`: what is read as a machine word, and as which.
2. `plain_iff_eq_numeral`: the one numeral of a word without a sign and without leading zeros.
3. `ofText?_eq_some_iff_spelled`, `Spelled.unique`: what is read as a message that names a place; a
   text can be taken apart in one way at most.
4. `relocate_by_grammar`: what becomes of a text, for every script, source map and text.
-/

namespace ScriptBridge

namespace Text

/-! ## 1. Numerals -/

/-- `Denotes digits n`: the decimal digits, one or more, stand for the number `n`. -/
inductive Denotes : List Char → Nat → Prop
  | digit {d : Nat} : d < 10 → Denotes [d.digitChar] d
  | next {digits : List Char} {n d : Nat} :
      Denotes digits n → d < 10 → Denotes (digits ++ [d.digitChar]) (10 * n + d)

theorem Denotes.ne_nil {digits : List Char} {n : Nat} (denotes : Denotes digits n) :
    digits ≠ [] := by
  cases denotes <;> simp

theorem isDigit_iff {c : Char} : c.isDigit = true ↔ ∃ d < 10, c = Nat.digitChar d := by
  constructor
  · intro digit
    have range : 48 ≤ c.toNat ∧ c.toNat ≤ 57 := by
      simpa [Char.isDigit, UInt32.le_iff_toNat_le] using digit
    refine ⟨c.toNat - 48, by omega, Char.toNat_inj.mp ?_⟩
    rw [Nat.toNat_digitChar_of_lt_ten (by omega)]
    omega
  · rintro ⟨d, small, rfl⟩
    simpa [Nat.isDigit_digitChar] using small

theorem digitsValue_concat (digits : List Char) {d : Nat} (small : d < 10) :
    digitsValue (digits ++ [d.digitChar]) = 10 * digitsValue digits + d := by
  simp [digitsValue, List.foldl_append, Nat.toNat_digitChar_sub_48_of_lt_ten small]

theorem digitsValue_singleton {d : Nat} (small : d < 10) : digitsValue [d.digitChar] = d := by
  have empty : digitsValue [] = 0 := rfl
  simpa [empty] using digitsValue_concat [] small

theorem Denotes.isDigit {digits : List Char} {n : Nat} (denotes : Denotes digits n) :
    ∀ c ∈ digits, c.isDigit = true := by
  induction denotes with
  | digit small => simpa [Nat.isDigit_digitChar] using small
  | next _ small ih =>
    intro c member
    rcases List.mem_append.mp member with front | last
    · exact ih c front
    · exact isDigit_iff.mpr ⟨_, small, List.mem_singleton.mp last⟩

theorem Denotes.digitsValue_eq {digits : List Char} {n : Nat} (denotes : Denotes digits n) :
    digitsValue digits = n := by
  induction denotes with
  | digit small => exact digitsValue_singleton small
  | next _ small ih => rw [digitsValue_concat _ small, ih]

theorem denotes_digitsValue {digits : List Char} (some_digit : digits ≠ [])
    (all : ∀ c ∈ digits, c.isDigit = true) : Denotes digits (digitsValue digits) := by
  -- the last digit is the least significant one, so the list is taken apart from its end
  induction digits using List.reverseRecOn with
  | nil => exact absurd rfl some_digit
  | append_singleton front c ih =>
    obtain ⟨d, small, rfl⟩ := isDigit_iff.mp (all c (by simp))
    by_cases alone : front = []
    · subst alone
      rw [List.nil_append, digitsValue_singleton small]
      exact .digit small
    · rw [digitsValue_concat front small]
      exact .next (ih alone fun c member => all c (List.mem_append_left _ member)) small

/-- One or more digits denote their value and nothing else. -/
theorem denotes_iff {digits : List Char} {n : Nat} :
    Denotes digits n ↔
      digits ≠ [] ∧ (∀ c ∈ digits, c.isDigit = true) ∧ digitsValue digits = n := by
  constructor
  · intro denotes
    exact ⟨denotes.ne_nil, denotes.isDigit, denotes.digitsValue_eq⟩
  · rintro ⟨some_digit, all, rfl⟩
    exact denotes_digitsValue some_digit all

/-- `Numeral text n`: the text is a numeral for the machine word `n`, which is decimal digits with a
plus sign or without one. -/
inductive Numeral : List Char → UInt64 → Prop
  | unsigned {digits : List Char} {n : UInt64} : Denotes digits n.toNat → Numeral digits n
  | signed {digits : List Char} {n : UInt64} : Denotes digits n.toNat → Numeral ('+' :: digits) n

theorem numeral_iff {text : List Char} {n : UInt64} :
    Numeral text n ↔ Denotes (unsigned text) n.toNat := by
  constructor
  · intro numeral
    cases numeral with
    | unsigned denotes =>
      rw [unsigned_of_digits denotes.isDigit]
      exact denotes
    | signed denotes => exact denotes
  · intro denotes
    unfold unsigned at denotes
    split at denotes
    · exact .signed denotes
    · exact .unsigned denotes

theorem word?_eq_some_iff {text : List Char} {n : UInt64} :
    word? text = some n ↔ Numeral text n := by
  rw [numeral_iff, denotes_iff, ← List.all_eq_true]
  simp only [word?]
  split
  · next read =>
    obtain ⟨some_digit, all, fits⟩ := read
    simp only [Option.some.injEq, some_digit, all, ne_eq, not_false_eq_true, true_and]
    constructor
    · rintro rfl
      exact (UInt64.toNat_ofNat_of_lt fits).symm
    · intro value
      rw [value, UInt64.ofNat_toNat]
  · next unread =>
    refine iff_of_false (Option.some_ne_none n).symm ?_
    rintro ⟨some_digit, all, value⟩
    exact unread ⟨some_digit, all, value ▸ n.toNat_lt⟩

/-! ## 2. Plain decimals -/

/-- Digits without a sign in front of them and without leading zeros. -/
structure Plain (text : List Char) : Prop where
  some_digit : text ≠ []
  digits : ∀ c ∈ text, c.isDigit = true
  no_leading_zero : text.head? = some '0' → text = ['0']

theorem head?_toDigits {n : Nat} (positive : 0 < n) : (Nat.toDigits 10 n).head? ≠ some '0' := by
  induction n using Nat.strongRecOn with
  | ind n ih =>
    by_cases small : n < 10
    · simpa [Nat.toDigits_of_lt_base small] using Nat.ne_of_gt positive
    · rw [Nat.toDigits_of_base_le (by decide) (Nat.le_of_not_lt small),
        List.head?_append_of_ne_nil _ Nat.toDigits_ne_nil]
      exact ih (n / 10) (by omega) (by omega)

theorem plain_numeral (n : UInt64) : Plain (numeral n) where
  some_digit := Nat.toDigits_ne_nil
  digits _ := isDigit_of_mem_numeral
  no_leading_zero zero := by
    rcases Nat.eq_zero_or_pos n.toNat with none | positive
    · simp [numeral, none]
    · exact absurd zero (head?_toDigits positive)

/-- Digits that do not begin with a zero stand for a positive number. -/
theorem Denotes.pos {digits : List Char} {n : Nat} (denotes : Denotes digits n)
    (leading : digits.head? ≠ some '0') : 0 < n := by
  induction denotes with
  | digit small => simpa [Nat.pos_iff_ne_zero] using leading
  | next denotes small ih =>
    rw [List.head?_append_of_ne_nil _ denotes.ne_nil] at leading
    have positive := ih leading
    omega

theorem Denotes.toDigits_eq {digits : List Char} {n : Nat} (denotes : Denotes digits n)
    (leading : digits.head? = some '0' → digits = ['0']) : Nat.toDigits 10 n = digits := by
  induction denotes with
  | digit small => exact Nat.toDigits_of_lt_base small
  | @next digits n d denotes small ih =>
    have more : digits ++ [d.digitChar] ≠ ['0'] := by
      simp [denotes.ne_nil, List.append_eq_cons_iff]
    rw [List.head?_append_of_ne_nil _ denotes.ne_nil] at leading
    have leading : digits.head? ≠ some '0' := fun zero => more (leading zero)
    rw [← Nat.toDigits_append_toDigits (by decide) (denotes.pos leading) small,
      ih fun zero => absurd zero leading, Nat.toDigits_of_lt_base small]

theorem plain_iff_eq_numeral {text : List Char} {n : UInt64} (reads : Numeral text n) :
    Plain text ↔ text = numeral n := by
  constructor
  · intro plain
    cases reads with
    | unsigned denotes => exact (denotes.toDigits_eq plain.no_leading_zero).symm
    | signed _ => exact absurd (plain.digits '+' List.mem_cons_self) (by decide)
  · rintro rfl
    exact plain_numeral n

theorem numeral_numeral (n : UInt64) : Numeral (numeral n) n :=
  word?_eq_some_iff.mp (word?_numeral n)

end Text

/-! ## 3. Messages taken apart -/

/-- A text has one beginning that ends at its first colon. -/
theorem cut_unique {before after before' after' : List Char}
    (same : before ++ ':' :: after = before' ++ ':' :: after') (free : ':' ∉ before)
    (free' : ':' ∉ before') : before = before' ∧ after = after' := by
  have cut : cutAtColon (before ++ ':' :: after) = some (before, after) :=
    cutAtColon_eq_some_iff.mpr ⟨rfl, free⟩
  have cut' : cutAtColon (before ++ ':' :: after) = some (before', after') :=
    cutAtColon_eq_some_iff.mpr ⟨same, free'⟩
  exact Prod.mk.inj (Option.some.inj (cut.symm.trans cut'))

namespace LocatedMessage

/-- `m.Spelled name text line column`: the text is the name of the script, the line, the column and
the tail of `m`, with colons between them. Line and column hold no colon and are numerals for those
of `m`. -/
structure Spelled (m : LocatedMessage) (name text : String) (line column : List Char) : Prop where
  text_eq : text = name ++ ":" ++ String.ofList line ++ ":" ++ String.ofList column ++ ":"
    ++ String.ofList m.tail
  line_free : ':' ∉ line
  column_free : ':' ∉ column
  line_numeral : Text.Numeral line m.line
  column_numeral : Text.Numeral column m.column

variable {m m' : LocatedMessage} {name text : String} {line column line' column' : List Char}

theorem ofText?_eq_some_iff_spelled :
    ofText? name text.toList = some m ↔ ∃ line column, m.Spelled name text line column := by
  rw [ofText?_eq_some_iff]
  constructor
  · rintro ⟨line, column, text_eq, read_line, read_column⟩
    refine ⟨line, column, ?_, Text.colon_notMem_of_word? read_line,
      Text.colon_notMem_of_word? read_column, Text.word?_eq_some_iff.mp read_line,
      Text.word?_eq_some_iff.mp read_column⟩
    rw [← String.toList_inj, text_eq]
    simp
  · rintro ⟨line, column, rfl, -, -, line_numeral, column_numeral⟩
    exact ⟨line, column, by simp, Text.word?_eq_some_iff.mpr line_numeral,
      Text.word?_eq_some_iff.mpr column_numeral⟩

/-- A text is taken apart in one way at most. -/
theorem Spelled.unique (spelled : m.Spelled name text line column)
    (other : m'.Spelled name text line' column') :
    line = line' ∧ column = column' ∧ m = m' := by
  have texts : line ++ ':' :: (column ++ ':' :: m.tail) =
      line' ++ ':' :: (column' ++ ':' :: m'.tail) := by
    simpa using congrArg String.toList (spelled.text_eq.symm.trans other.text_eq)
  obtain ⟨same_line, rest⟩ := cut_unique texts spelled.line_free other.line_free
  obtain ⟨same_column, -⟩ := cut_unique rest spelled.column_free other.column_free
  have read : ofText? name text.toList = some m := ofText?_eq_some_iff_spelled.mpr ⟨_, _, spelled⟩
  have read' : ofText? name text.toList = some m' := ofText?_eq_some_iff_spelled.mpr ⟨_, _, other⟩
  exact ⟨same_line, same_column, Option.some.inj (read.symm.trans read')⟩

/-- The message with its line and column in plain decimals. -/
theorem spelled_render (m : LocatedMessage) (name : String) :
    m.Spelled name (m.render ⟨name, m.line, m.column⟩) (Text.numeral m.line)
      (Text.numeral m.column) where
  text_eq := rfl
  line_free := Text.colon_notMem_of_word? (Text.word?_numeral m.line)
  column_free := Text.colon_notMem_of_word? (Text.word?_numeral m.column)
  line_numeral := Text.numeral_numeral m.line
  column_numeral := Text.numeral_numeral m.column

/-- A text is the message with plain decimals in it if it spells line and column as such. -/
theorem Spelled.render_eq_iff (spelled : m.Spelled name text line column) :
    m.render ⟨name, m.line, m.column⟩ = text ↔ Text.Plain line ∧ Text.Plain column := by
  rw [Text.plain_iff_eq_numeral spelled.line_numeral,
    Text.plain_iff_eq_numeral spelled.column_numeral]
  constructor
  · rintro rfl
    obtain ⟨same_line, same_column, -⟩ := spelled.unique (m.spelled_render name)
    exact ⟨same_line, same_column⟩
  · rintro ⟨rfl, rfl⟩
    exact spelled.text_eq.symm

end LocatedMessage

/-! ## 4. Texts of errors -/

namespace ScriptError

open LocatedMessage

variable {m : LocatedMessage} {name text : String} {line column : List Char}

theorem relocate_of_spelled (spelled : m.Spelled name text line column) (map : SourceMap) :
    (plain text).relocate name map =
      plain (m.render (map.origin ⟨name, m.line, m.column⟩)) := by
  have read : ofText? name text.toList = some m := ofText?_eq_some_iff_spelled.mpr ⟨_, _, spelled⟩
  simp only [relocate, read]

/-- What becomes of the text of an error, whatever the name of the script, the source map and the
text are:
* it is read if it can be taken apart, and it can be taken apart in one way at most;
* a text that is read gets the source, the line and the column that the map answers, or keeps those
  that it has if the map has no answer; line and column are then in plain decimals, and the tail is
  that of the text;
* a text that is read, without an answer of the map, stays the same if its line and its column have
  been plain decimals before;
* every other text stays the same. -/
theorem relocate_by_grammar (name : String) (map : SourceMap) (text : String) :
    ((∃ m, ofText? name text.toList = some m) ↔
      ∃ m line column, Spelled m name text line column) ∧
    (∀ m line column m' line' column', Spelled m name text line column →
      Spelled m' name text line' column' → line = line' ∧ column = column' ∧ m = m') ∧
    (∀ m line column, Spelled m name text line column →
      let p := (map m.line m.column).getD ⟨name, m.line, m.column⟩
      ∃ l c, Text.Numeral l p.line ∧ Text.Plain l ∧ Text.Numeral c p.column ∧ Text.Plain c ∧
        (plain text).relocate name map = plain (p.source ++ ":" ++ String.ofList l ++ ":"
          ++ String.ofList c ++ ":" ++ String.ofList m.tail)) ∧
    (∀ m line column, Spelled m name text line column → map m.line m.column = none →
      ((plain text).relocate name map = plain text ↔ Text.Plain line ∧ Text.Plain column)) ∧
    ((¬ ∃ m line column, Spelled m name text line column) →
      (plain text).relocate name map = plain text) := by
  have read_iff : (∃ m, ofText? name text.toList = some m) ↔
      ∃ m line column, Spelled m name text line column :=
    exists_congr fun _ => ofText?_eq_some_iff_spelled
  refine ⟨read_iff, fun _ _ _ _ _ _ => Spelled.unique, ?rewritten, ?unmapped, ?kept⟩
  case rewritten =>
    intro m line column spelled p
    exact ⟨Text.numeral p.line, Text.numeral p.column, Text.numeral_numeral p.line,
      Text.plain_numeral p.line, Text.numeral_numeral p.column, Text.plain_numeral p.column,
      relocate_of_spelled spelled map⟩
  case unmapped =>
    intro m line column spelled unmapped
    have origin : map.origin ⟨name, m.line, m.column⟩ = ⟨name, m.line, m.column⟩ := by
      simp [SourceMap.origin, unmapped]
    rw [relocate_of_spelled spelled, origin, ScriptError.plain.injEq]
    exact spelled.render_eq_iff
  case kept =>
    intro other
    have unread : ofText? name text.toList = none :=
      Option.eq_none_iff_forall_ne_some.mpr fun m read => other (read_iff.mp ⟨m, read⟩)
    simp only [relocate, unread]

/-- A line with a sign and a leading zero is read. A map without an answer leaves the place as it
is, but not the text. -/
theorem signed_line_rewritten :
    let text := "main.tw:+02:5: expected ':' here"
    let m : LocatedMessage := ⟨2, 5, " expected ':' here".toList⟩
    m.Spelled "main.tw" text "+02".toList "5".toList ∧
      LineMap.empty.origin? m.line m.column = none ∧
      (plain text).relocate "main.tw" LineMap.empty.origin? =
        plain "main.tw:2:5: expected ':' here" ∧
      (plain text).relocate "main.tw" LineMap.empty.origin? ≠ plain text := by
  intro text m
  have spelled : m.Spelled "main.tw" text "+02".toList "5".toList :=
    ⟨rfl, by decide, by decide, Text.word?_eq_some_iff.mp (by decide),
      Text.word?_eq_some_iff.mp (by decide)⟩
  have unmapped : LineMap.empty.origin? m.line m.column = none := rfl
  obtain ⟨-, -, rewritten, same_iff, -⟩ := relocate_by_grammar "main.tw" LineMap.empty.origin? text
  obtain ⟨l, c, line, plain_line, column, plain_column, told⟩ := rewritten m _ _ spelled
  obtain rfl := (Text.plain_iff_eq_numeral line).mp plain_line
  obtain rfl := (Text.plain_iff_eq_numeral column).mp plain_column
  have signed : ¬ Text.Plain "+02".toList := fun plain =>
    absurd (plain.digits '+' (by decide)) (by decide)
  exact ⟨spelled, unmapped, told.trans (by decide), fun same =>
    signed ((same_iff m _ _ spelled unmapped).mp same).1⟩

end ScriptError

end ScriptBridge
