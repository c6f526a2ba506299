import ScriptBridge.Proofs.ResultOutputs

/-!
# Reading signature lines

Tools read the line of a function and want to know its parameters and returns. Every name in the
line stands between arrows, and a type may itself be called `->` or `=>`, so a name cannot be told
from an arrow by its text. It can be told by its place: as long as no name has a space in it, the
words of the line are names and arrows in turn. `Outline.ofLine` reads a line in this way, and what
it reads is all that the line shows: the names of the leading parameters, that of the repeated one,
and those of the returns (`Signature.Shows`).

Results:
1. `shows_iff`: the names that are shown for returns.
2. `splitOn_spaced`, `toList_render`: the words of a line.
3. `readNames_arrowed`, `splitRepeated_append`: the reader undoes each part of the line.
4. `ofLine_render`, `render_of_outline`: a line is read back, and shows no more than is read.
5. `lines_read_back`: both, for any function.
-/

namespace ScriptBridge

/-! ## 1. What a line shows -/

/-- What the line of a function shows of its signature. -/
structure Outline where
  params : List String
  /-- The element type of the repeated parameter, if there is one. -/
  variadic : Option String
  returns : List String
deriving DecidableEq

/-- A type name that stays apart in a line: it has no space, and it does not begin with the dots of
a repeated parameter. -/
structure Legible (name : String) : Prop where
  no_space : ' ' ∉ name.toList
  no_dots : ¬ ['.', '.', '.'] <+: name.toList

namespace Signature

/-- Every type that a signature declares. -/
def types (s : Signature) : List ValueType :=
  s.params ++ s.variadic.toList ++ s.returns.filterMap ReturnKind.valueType?

/-- Every type of the signature has a legible name. -/
def IsLegible (s : Signature) : Prop := ∀ type ∈ s.types, Legible type.name

/-- `Shows returns names`: the returns are shown by these names. A value in front of an error is
shown as if it were alone, and an error alone as if there were no return; any other returns are all
listed. -/
inductive Shows : List ReturnKind → List String → Prop
  | nothing : Shows [] ["()"]
  | error : Shows [.error] ["()"]
  | value {type : ValueType} : Shows [.value type] [type.name]
  | valueOrError {type : ValueType} : Shows [.value type, .error] [type.name]
  | listed {returns : List ReturnKind} :
      2 ≤ returns.length → (∀ type, returns ≠ [.value type, .error]) →
      Shows returns (returns.map ReturnKind.name)

theorem shows_returnNames (returns : List ReturnKind) : Shows returns (returnNames returns) := by
  unfold returnNames
  split
  · exact .nothing
  · exact .error
  · exact .value
  · exact .valueOrError
  · next none lone single pair =>
    refine .listed ?_ pair
    match returns with
    | [] => exact absurd rfl none
    | [.error] => exact absurd rfl lone
    | [.value type] => exact absurd rfl (single type)
    | _ :: _ :: _ => exact Nat.le_add_left 2 _

theorem shows_iff {returns : List ReturnKind} {names : List String} :
    Shows returns names ↔ returnNames returns = names := by
  constructor
  · intro shown
    cases shown with
    | listed several pair =>
      unfold returnNames
      split
      · simp at several
      · simp at several
      · simp at several
      · next type => exact absurd rfl (pair type)
      · rfl
    | _ => rfl
  · rintro rfl
    exact shows_returnNames returns

theorem Shows.ne_nil {returns : List ReturnKind} {names : List String}
    (shown : Shows returns names) : names ≠ [] := by
  cases shown with
  | listed several _ => simpa using List.ne_nil_of_length_pos (Nat.lt_of_lt_of_le Nat.two_pos several)
  | _ => simp

/-- Apart from the two fixed texts only names of declared types are shown. -/
theorem Shows.mem_cases {returns : List ReturnKind} {names : List String}
    (shown : Shows returns names) {name : String} (member : name ∈ names) :
    name = "()" ∨ name = "error" ∨
      ∃ type ∈ returns.filterMap ReturnKind.valueType?, name = type.name := by
  cases shown with
  | nothing => exact .inl (List.mem_singleton.mp member)
  | error => exact .inl (List.mem_singleton.mp member)
  | @value type => exact .inr (.inr ⟨type, List.mem_cons_self, List.mem_singleton.mp member⟩)
  | @valueOrError type => exact .inr (.inr ⟨type, List.mem_cons_self, List.mem_singleton.mp member⟩)
  | listed =>
    obtain ⟨kind, declared, rfl⟩ := List.mem_map.mp member
    cases kind with
    | error => exact .inr (.inl rfl)
    | value type => exact .inr (.inr ⟨type, List.mem_filterMap.mpr ⟨_, declared, rfl⟩, rfl⟩)

/-- What the line of the signature shows. -/
def outline (s : Signature) : Outline :=
  ⟨s.params.map ValueType.name, s.variadic.map ValueType.name, returnNames s.returns⟩

end Signature

/-! ## 2. The words of a line -/

namespace Text

/-- Words with a space between them. -/
def spaced (words : List String) : List Char := [' '].intercalate (words.map String.toList)

theorem spaced_cons_cons (word next : String) (words : List String) :
    spaced (word :: next :: words) = word.toList ++ ' ' :: spaced (next :: words) := by
  simp [spaced, List.intercalate_cons_cons]

theorem spaced_append {front back : List String} (some_front : front ≠ []) (some_back : back ≠ []) :
    spaced (front ++ back) = spaced front ++ ' ' :: spaced back := by
  obtain ⟨next, back, rfl⟩ := List.exists_cons_of_ne_nil some_back
  induction front with
  | nil => exact absurd rfl some_front
  | cons word front ih =>
    cases front with
    | nil => simp [spaced, List.intercalate_cons_cons]
    | cons word' front =>
      have rest := ih (by simp)
      rw [List.cons_append] at rest
      rw [List.cons_append, List.cons_append, spaced_cons_cons, rest, spaced_cons_cons,
        List.append_assoc, List.cons_append]

theorem splitOn_spaced {words : List String} (some_word : words ≠ [])
    (no_space : ∀ word ∈ words, ' ' ∉ word.toList) :
    ((spaced words).splitOn ' ').map String.ofList = words := by
  have split : (spaced words).splitOn ' ' = words.map String.toList :=
    List.splitOn_intercalate ' ' (by simpa using no_space) (by simpa using some_word)
  rw [split, List.map_map]
  simp [Function.comp_def]

/-- Names and the arrows between them, as words. -/
def arrowed (names : List String) : List String := names.intersperse "->"

theorem arrowed_ne_nil {names : List String} (some_name : names ≠ []) : arrowed names ≠ [] := by
  cases names with
  | nil => exact absurd rfl some_name
  | cons name names => cases names <;> simp [arrowed]

theorem mem_arrowed {word : String} {names : List String} (member : word ∈ arrowed names) :
    word ∈ names ∨ word = "->" := by
  induction names with
  | nil => exact .inl member
  | cons name names ih =>
    cases names with
    | nil => exact .inl member
    | cons next names =>
      rw [arrowed, List.intersperse_cons_cons, List.mem_cons, List.mem_cons] at member
      rcases member with rfl | rfl | behind
      · exact .inl List.mem_cons_self
      · exact .inr rfl
      · exact (ih behind).imp_left (List.mem_cons_of_mem _)

theorem toList_arrows (names : List String) :
    (Signature.arrows names).toList = spaced (arrowed names) := by
  induction names with
  | nil => rfl
  | cons name names ih =>
    cases names with
    | nil => simp [Signature.arrows, spaced, arrowed]
    | cons next names =>
      have tail : spaced ("->" :: arrowed (next :: names)) =
          "-> ".toList ++ spaced (arrowed (next :: names)) :=
        spaced_append (List.cons_ne_nil "->" []) (arrowed_ne_nil (by simp))
      have line : Signature.arrows (name :: next :: names) =
          name ++ " -> " ++ Signature.arrows (next :: names) := String.intercalate_cons_cons
      have words : arrowed (name :: next :: names) = name :: "->" :: arrowed (next :: names) :=
        List.intersperse_cons_cons
      rw [line, words, spaced_cons_cons, tail, ← ih]
      simp

end Text

open Text

namespace Signature

/-- The line behind the two colons, word by word. -/
def words (s : Signature) : List String :=
  (if s.paramNames = [] then [] else arrowed s.paramNames ++ ["=>"]) ++
    arrowed (returnNames s.returns)

theorem toList_render (name : String) (s : Signature) :
    (s.render name).toList = (name ++ " :: ").toList ++ spaced s.words := by
  have some_return := arrowed_ne_nil (shows_returnNames s.returns).ne_nil
  unfold render words
  cases none : s.paramNames with
  | nil => simp [toList_arrows]
  | cons first others =>
    have some_param : arrowed (first :: others) ≠ [] := arrowed_ne_nil (by simp)
    have behind : spaced ("=>" :: arrowed (returnNames s.returns)) =
        "=> ".toList ++ spaced (arrowed (returnNames s.returns)) :=
      spaced_append (List.cons_ne_nil "=>" []) some_return
    have line : spaced (arrowed (first :: others) ++ "=>" :: arrowed (returnNames s.returns)) =
        spaced (arrowed (first :: others)) ++ ' ' :: spaced ("=>" :: arrowed (returnNames s.returns)) :=
      spaced_append some_param (by simp)
    simp [toList_arrows, line, behind]

/-- No word of the line has a space in it. -/
theorem no_space_of_mem_words {s : Signature} (legible : s.IsLegible) :
    ∀ word ∈ s.words, ' ' ∉ word.toList := by
  have param : ∀ name ∈ s.paramNames, ' ' ∉ name.toList := by
    intro name member
    rcases List.mem_append.mp member with leading | repeated
    · obtain ⟨type, declared, rfl⟩ := List.mem_map.mp leading
      exact (legible type (by simp [types, declared])).no_space
    · cases element : s.variadic with
      | none => simp [element] at repeated
      | some type =>
        obtain rfl : name = "..." ++ type.name := by simpa [element] using repeated
        have own := (legible type (by simp [types, element])).no_space
        simp [own]
  have result : ∀ name ∈ returnNames s.returns, ' ' ∉ name.toList := by
    intro name member
    rcases (shows_returnNames s.returns).mem_cases member with rfl | rfl | ⟨type, declared, rfl⟩
    · decide
    · decide
    · exact (legible type (List.mem_append_right _ declared)).no_space
  intro word member
  rw [words, List.mem_append] at member
  rcases member with front | back
  · split at front
    · cases front
    · rcases List.mem_append.mp front with front | double
      · rcases mem_arrowed front with name | rfl
        · exact param word name
        · decide
      · obtain rfl := List.mem_singleton.mp double
        decide
  · rcases mem_arrowed back with name | rfl
    · exact result word name
    · decide

end Signature

/-! ## 3. Reading words -/

namespace Outline

/-- Reads names and arrows in turn, up to a double arrow if there is one: the names, and the words
behind the double arrow. -/
def readNames : List String → List String × Option (List String)
  | [] => ([], none)
  | [name] => ([name], none)
  | name :: arrow :: words =>
    if arrow = "=>" then ([name], some words)
    else
      let (names, behind) := readNames words
      (name :: names, behind)

/-- What stands behind the dots of a repeated parameter. -/
def element? (name : String) : Option String :=
  match name.toList with
  | '.' :: '.' :: '.' :: element => some (String.ofList element)
  | _ => none

/-- Takes the repeated parameter off the end. -/
def splitRepeated : List String → List String × Option String
  | [] => ([], none)
  | [last] =>
    match element? last with
    | some element => ([], some element)
    | none => ([last], none)
  | name :: names =>
    let (params, variadic) := splitRepeated names
    (name :: params, variadic)

/-- Reads the line of a function of the given name. -/
def ofLine (name line : String) : Outline :=
  let words := ((line.toList.drop (name ++ " :: ").length).splitOn ' ').map String.ofList
  match readNames words with
  | (returns, none) => ⟨[], none, returns⟩
  | (names, some words) =>
    let (params, variadic) := splitRepeated names
    ⟨params, variadic, (readNames words).1⟩

theorem readNames_arrowed {names : List String} (some_name : names ≠ []) :
    readNames (arrowed names) = (names, none) ∧
      ∀ words, readNames (arrowed names ++ "=>" :: words) = (names, some words) := by
  induction names with
  | nil => exact absurd rfl some_name
  | cons name names ih =>
    cases names with
    | nil => simp [arrowed, readNames]
    | cons next names =>
      obtain ⟨alone, followed⟩ := ih (by simp)
      have words : arrowed (name :: next :: names) = name :: "->" :: arrowed (next :: names) :=
        List.intersperse_cons_cons
      refine ⟨?_, fun behind => ?_⟩
      · simp [words, readNames, alone]
      · simp [words, readNames, followed behind]

theorem element?_dots (element : String) : element? ("..." ++ element) = some element := by
  simp [element?]

theorem element?_of_legible {name : String} (legible : Legible name) : element? name = none := by
  unfold element?
  split
  · next element dotted => exact absurd ⟨element, dotted.symm⟩ legible.no_dots
  · rfl

theorem splitRepeated_append {params : List String} (legible : ∀ name ∈ params, Legible name)
    (variadic : Option String) :
    splitRepeated (params ++ (variadic.map ("..." ++ ·)).toList) = (params, variadic) := by
  induction params with
  | nil => cases variadic <;> simp [splitRepeated, element?_dots]
  | cons name params ih =>
    have behind := ih fun other member => legible other (List.mem_cons_of_mem _ member)
    cases rest : params ++ (variadic.map ("..." ++ ·)).toList with
    | nil =>
      -- the first parameter is the last one, and no dots are to be found on it
      obtain ⟨rfl, none⟩ := List.append_eq_nil_iff.mp rest
      have alone := element?_of_legible (legible name List.mem_cons_self)
      cases variadic with
      | none => simp [splitRepeated, alone]
      | some element => simp at none
    | cons next names =>
      rw [rest] at behind
      rw [List.cons_append, rest, splitRepeated, behind]
      simp

end Outline

/-! ## 4. Reading lines -/

namespace Signature

/-- A line is read as its words are. -/
theorem words_of_render {s : Signature} (legible : s.IsLegible) (name : String) :
    (((s.render name).toList.drop (name ++ " :: ").length).splitOn ' ').map String.ofList =
      s.words := by
  have some_word : s.words ≠ [] :=
    List.append_ne_nil_of_right_ne_nil _ (arrowed_ne_nil (shows_returnNames s.returns).ne_nil)
  rw [toList_render, ← String.length_toList, List.drop_left]
  exact splitOn_spaced some_word (no_space_of_mem_words legible)

theorem paramNames_eq (s : Signature) :
    s.paramNames = s.outline.params ++ (s.outline.variadic.map ("..." ++ ·)).toList := by
  cases variadic : s.variadic <;> simp [paramNames, outline, variadic]

theorem ofLine_render {s : Signature} (legible : s.IsLegible) (name : String) :
    Outline.ofLine name (s.render name) = s.outline := by
  have params : ∀ type ∈ s.outline.params, Legible type := by
    intro type member
    obtain ⟨type, declared, rfl⟩ := List.mem_map.mp member
    exact legible type (by simp [types, declared])
  have split := Outline.splitRepeated_append params s.outline.variadic
  have some_return := (shows_returnNames s.returns).ne_nil
  have returns := (Outline.readNames_arrowed some_return).1
  rw [← paramNames_eq] at split
  rw [Outline.ofLine, words_of_render legible, words]
  by_cases none : s.paramNames = []
  · rw [if_pos none, List.nil_append, returns]
    rw [none] at split
    obtain ⟨no_params, no_variadic⟩ := Prod.mk.inj split
    rw [no_params, no_variadic]
    rfl
  · rw [if_neg none, List.append_assoc, List.singleton_append, (Outline.readNames_arrowed none).2]
    simp only [split, returns]
    rfl

/-- The line shows nothing but the outline. -/
theorem render_of_outline {s t : Signature} (same : s.outline = t.outline) (name : String) :
    s.render name = t.render name := by
  have params : s.paramNames = t.paramNames := by
    rw [paramNames_eq, paramNames_eq, same]
  have returns : returnNames s.returns = returnNames t.returns := congrArg Outline.returns same
  rw [render, render, params, returns]

/-- Let the type names of a signature be legible. Then its line, under any name of the function, is
read as the names of the leading parameters, that of the repeated parameter if there is one, and
those that are shown for the returns. Two such signatures, of functions that can be bound or not,
have the same line exactly if they agree in these three. -/
theorem lines_read_back (name : String) :
    (∀ s : Signature, s.IsLegible →
      (Outline.ofLine name (s.render name)).params = s.params.map ValueType.name ∧
      (Outline.ofLine name (s.render name)).variadic = s.variadic.map ValueType.name ∧
      Shows s.returns (Outline.ofLine name (s.render name)).returns) ∧
    ∀ s t : Signature, s.IsLegible → t.IsLegible →
      (s.render name = t.render name ↔
        s.params.map ValueType.name = t.params.map ValueType.name ∧
        s.variadic.map ValueType.name = t.variadic.map ValueType.name ∧
        ∃ names, Shows s.returns names ∧ Shows t.returns names) := by
  refine ⟨fun s legible => ?_, fun s t legible_s legible_t => ⟨fun same => ?_, ?_⟩⟩
  · rw [ofLine_render legible]
    exact ⟨rfl, rfl, shows_returnNames s.returns⟩
  · have outlines : s.outline = t.outline := by
      rw [← ofLine_render legible_s name, same, ofLine_render legible_t]
    obtain ⟨params, variadic, returns⟩ := Outline.mk.inj outlines
    exact ⟨params, variadic, _, shows_returnNames s.returns, returns ▸ shows_returnNames t.returns⟩
  · rintro ⟨params, variadic, names, shown_s, shown_t⟩
    have returns : returnNames s.returns = returnNames t.returns :=
      (shows_iff.mp shown_s).trans (shows_iff.mp shown_t).symm
    exact render_of_outline (Outline.mk.injEq .. ▸ ⟨params, variadic, returns⟩) name

/-- Functions of types that are called like the arrows. The first two have one line; the third has
the names of the first, the repeated one among its returns. -/
theorem arrows_read_back :
    let single : ValueType := .exact ⟨"->", ⟨0⟩⟩
    let double : ValueType := .exact ⟨"=>", ⟨0⟩⟩
    let s : Signature := ⟨[single], some double, []⟩
    let t : Signature := ⟨[.offering ⟨"->", ["next"]⟩], some double, [.error]⟩
    let u : Signature := ⟨[single], none, [.value double, .error, .value single]⟩
    (s.IsLegible ∧ t.IsLegible ∧ u.IsLegible) ∧
      s.render "zip" = t.render "zip" ∧ s.render "zip" ≠ u.render "zip" ∧
      (Outline.ofLine "zip" (u.render "zip")).params = ["->"] ∧
      (Outline.ofLine "zip" (u.render "zip")).returns = ["=>", "error", "->"] := by
  intro single double s t u
  have legible_single : Legible "->" := ⟨by decide, by decide⟩
  have legible_double : Legible "=>" := ⟨by decide, by decide⟩
  have legible_s : s.IsLegible := by
    simp [IsLegible, types, s, single, double, ValueType.name, legible_single, legible_double]
  have legible_t : t.IsLegible := by
    simp [IsLegible, types, t, double, ValueType.name, ReturnKind.valueType?, legible_single,
      legible_double]
  have legible_u : u.IsLegible := by
    simp [IsLegible, types, u, single, double, ValueType.name, ReturnKind.valueType?,
      legible_single, legible_double]
  obtain ⟨read, same⟩ := lines_read_back "zip"
  obtain ⟨params, _, returns⟩ := read u legible_u
  refine ⟨⟨legible_s, legible_t, legible_u⟩, ?_, ?_, params, ?_⟩
  · exact (same s t legible_s legible_t).mpr ⟨rfl, rfl, ["()"], .nothing, .error⟩
  · intro line
    obtain ⟨_, variadic, _⟩ := (same s u legible_s legible_u).mp line
    cases variadic
  · exact (shows_iff.mp returns).symm

end Signature

end ScriptBridge
