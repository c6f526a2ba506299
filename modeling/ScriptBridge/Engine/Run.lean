import ScriptBridge.Engine.Basic
import ScriptBridge.Script.Relocate

/-!
# Running scripts

`Engine.run` gives a script to the installed evaluator, through the installed preprocessor if there
is one, and leads the position of an error back to the source. Both are looked up before the script
starts: an evaluator may run further scripts and may replace what is installed, and the run that it
belongs to still ends by the source map it began with.
-/

namespace ScriptBridge

/-- What each evaluator does with a named script and the engine it runs on. -/
abbrev Evaluators (ε : Type) (m : Type → Type) :=
  ε → (name code : String) → StateT (Engine ε) m (Except ScriptError Unit)

namespace Engine

variable {ε : Type} {m : Type → Type} [Monad m]

/-- Runs a script. -/
def run (evaluators : Evaluators ε m) (name code : String) :
    StateT (Engine ε) m (Except EngineError Unit) := fun e =>
  match e.evaluator with
  | none => pure (.error .noEvaluator, e)
  | some evaluator =>
    match e.preprocessor with
    | none => do
      let (result, e) ← evaluators evaluator name code e
      return (result.mapError EngineError.script, e)
    | some preprocessor =>
      match preprocessor.process name code with
      | .error error => pure (.error (.script error), e)
      | .ok processed => do
        let (result, e) ← evaluators evaluator name processed.code e
        return (result.mapError fun error => .script (error.relocate name processed.map), e)

/-- The source text in the bytes of a file, if there is such a file. -/
def sourceOf : Option ByteArray → Except ReadError String
  | none => .error .notFound
  | some bytes =>
    match String.fromUTF8? bytes with
    | some text => .ok text
    | none => .error .notText

/-- Runs a script file under its path, given what reading the path answered. -/
def runFile (evaluators : Evaluators ε m) (path : String) (source : Except ReadError String) :
    StateT (Engine ε) m (Except EngineError Unit) := fun e =>
  match source with
  | .error cause => pure (.error (.unreadable path cause), e)
  | .ok code => run evaluators path code e

end Engine

end ScriptBridge
