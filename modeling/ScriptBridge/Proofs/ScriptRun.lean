import ScriptBridge.Proofs.EngineChange
import ScriptBridge.Proofs.Relocation

/-!
# Runs of scripts

A run gives the processed text of a script to the installed evaluator and reports an error of the
evaluator at the place in the source. The evaluator may do anything to the engine meanwhile: run
other scripts, install another evaluator or preprocessor, or take them away. The statements hold for
any evaluator in any monad, so they do not depend on what it does.

Results:
1. `origin_of_listed`, `origin_of_unlisted`: where a line map leads from a place.
2. `run_settled`: what a run does and at which place it reports an error.
-/

namespace ScriptBridge

/-! ## 1. Line maps -/

namespace LineMap

variable {lines : LineMap} {place : Position}

/-- The first line is the one with the number one. -/
theorem origin_of_listed {source : String} {line : UInt64} (counted : 1 ≤ place.line.toNat)
    (listed : lines.origins[place.line.toNat - 1]? = some (source, line)) :
    SourceMap.origin lines.origin? place = ⟨source, line, place.column⟩ := by
  have nonzero : place.line ≠ 0 := by
    intro zero
    rw [zero] at counted
    exact absurd counted (by decide)
  simp [SourceMap.origin, origin?, nonzero, listed]

theorem origin_of_unlisted (outside : place.line.toNat = 0 ∨ lines.size < place.line.toNat) :
    SourceMap.origin lines.origin? place = place := by
  by_cases zero : place.line = 0
  · simp [SourceMap.origin, origin?, zero]
  · have beyond : lines.origins.length ≤ place.line.toNat - 1 := by
      rcases outside with none | past
      · exact absurd (UInt64.toNat_inj.mp none) zero
      · exact Nat.le_sub_one_of_lt past
    simp [SourceMap.origin, origin?, zero, beyond]

end LineMap

namespace Engine

variable {ε : Type} {m : Type → Type} [Monad m]

/-! ## 2. What a run reports -/

open ScriptError

/-- A run without an installed evaluator fails and changes nothing. Without a preprocessor it
ends as the evaluator does. If the preprocessor fails, its error is the error of the run, and the
evaluator does not run. Otherwise the evaluator runs once, on the processed text, the engine ends as
the evaluator leaves it, and an error of the evaluator is relocated: with the line map of the
preprocessor, an error that names line `i` of the script is told at the `i`th origin of the map, in
the same column, and as it stands if there is no such origin. The evaluator may be any, also one that
runs further scripts or changes what is installed. -/
theorem run_settled [LawfulMonad m] (evaluators : Evaluators ε m) (name code : String)
    (e : Engine ε) :
    (e.evaluator = none → run evaluators name code e = pure (.error .noEvaluator, e)) ∧
    ∀ evaluator, e.evaluator = some evaluator →
      (e.preprocessor = none → run evaluators name code e =
        (fun (outcome, left) => (outcome.mapError .script, left)) <$>
          evaluators evaluator name code e) ∧
      ∀ preprocessor, e.preprocessor = some preprocessor →
        (∀ error, preprocessor.process name code = .error error →
          run evaluators name code e = pure (.error (.script error), e)) ∧
        ∀ (text : String) (lines : LineMap),
          preprocessor.process name code = .ok ⟨text, lines.origin?⟩ →
          ∃ report : ScriptError → ScriptError,
            run evaluators name code e =
              (fun (outcome, left) => (outcome.mapError fun error => .script (report error), left))
                <$> evaluators evaluator name text e ∧
            ∀ (i column : UInt64) (tell : Position → ScriptError) (error : ScriptError),
              Places ⟨name, i, column⟩ tell error →
              (∀ source line, 1 ≤ i.toNat → lines.origins[i.toNat - 1]? = some (source, line) →
                report error = tell ⟨source, line, column⟩) ∧
              (i.toNat = 0 ∨ lines.size < i.toNat → report error = tell ⟨name, i, column⟩) := by
  refine ⟨run_of_missing, fun evaluator installed => ⟨run_of_plain installed, ?_⟩⟩
  intro preprocessor preparing
  refine ⟨fun error => run_of_rejected installed preparing, ?_⟩
  intro text lines accepted
  refine ⟨fun error => error.relocate name lines.origin?,
    run_of_processed installed preparing accepted, ?_⟩
  intro i column tell error places
  have told := @relocate_of_places lines.origin? _ _ _ places
  refine ⟨?_, ?_⟩
  · intro source line counted listed
    exact told.trans (congrArg tell (LineMap.origin_of_listed counted listed))
  · intro outside
    exact told.trans (congrArg tell (LineMap.origin_of_unlisted outside))

/-- Leaves out the first line of a script. -/
def headless : Preprocessor where
  process name code :=
    .ok ⟨String.ofList ((code.toList.dropWhile (· ≠ '\n')).drop 1),
      (LineMap.empty.push name 2).origin?⟩

/-- Reports an error in the first line of every script. -/
def complaining : Evaluators Unit Id := fun _ name _ e =>
  (.error (.located ⟨name, 1, 1⟩ "unexpected"), e)

/-- Runs another script, takes the preprocessor away, and reports an error in a text of its own. -/
def including : Evaluators Unit Id := fun _ name code e =>
  let (_, e) := run complaining "inner" code e
  (.error (.plain (name ++ ":1:7: bogus")), { e with preprocessor := none })

theorem including_settled :
    let e : Engine Unit := ⟨.empty, .empty, [], some (), some headless⟩
    run including "a:b" "# note\nbogus" e =
      ((.error (.script (.plain "a:b:2:7: bogus")), { e with preprocessor := none }) :
        Except EngineError Unit × Engine Unit) := by
  intro e
  obtain ⟨_, running⟩ := run_settled including "a:b" "# note\nbogus" e
  obtain ⟨_, prepared⟩ := running () rfl
  obtain ⟨_, processed⟩ := prepared headless rfl
  obtain ⟨report, ran, told⟩ := processed "bogus" (LineMap.empty.push "a:b" 2) rfl
  have places : Places ⟨"a:b", 1, 7⟩ _ (.plain ("a:b" ++ ":1:7: bogus")) :=
    @Places.plain ⟨"a:b", 1, 7⟩ ['1'] ['7'] " bogus" rfl rfl
  have reported := (told 1 7 _ _ places).1 "a:b" 2 (by decide) rfl
  rw [ran]
  change (Except.error (EngineError.script (report _)), _) = _
  rw [reported]
  rfl

end Engine

end ScriptBridge
