import ScriptBridge.Proofs.RoundTrip

/-!
# Clearing a scope and reading it again

Before a script is loaded again, a registry is supplied to the scope, and the names of the settings
that may not write are cleared there; afterwards the registry is pulled. A setting that is only read
must not take what an earlier script has left under its name, a value that the script has to provide
must not be lost, and a setting that writes must find what it has written or what was there before
it.

Results:
1. `pull_congr`: pulls that have the same outcome.
2. `fares_of_reached`: how each setting fares in a batch of pulls that comes to its end.
3. `supplyOrClear_pull_settled`: the two batches, one after the other.
-/

namespace ScriptBridge

/-! ## 1. Single pulls -/

namespace Setting

variable {σ : Type} [Scope σ] {s : Setting}

theorem failure?_of_ok {scope : σ} {t : Setting} (done : Setting.pull scope s = .ok () t) :
    s.failure? scope = none := by
  simp [failure?, done]

variable [VariableScope σ]

open VariableScope

/-- A pull looks at nothing in the scope but the binding of the setting's name. -/
theorem pull_congr {before after : σ}
    (reserved : isReserved after s.name = isReserved before s.name)
    (bound : (vars after).table.get? s.name = (vars before).table.get? s.name) :
    Setting.pull after s = Setting.pull before s := by
  have has : Scope.has after s.name = Scope.has before s.name := by
    rw [has_eq, has_eq, reserved, Variables.has_congr bound]
  have get : Scope.get after s.name = Scope.get before s.name := by
    rw [get_eq, get_eq, reserved, Variables.get, Variables.get, bound]
  unfold Setting.pull
  rw [has, get]

end Setting

namespace Settings

variable {σ : Type} [Scope σ] {r : Settings} {s : Setting}

/-! ## 2. A setting in a batch -/

/-- How a setting fares when its registry is pulled with a handler that lets the batch go on. The
batch succeeds and the handler has heard all failures; among them is one of the setting if and only
if there is an `error?`, which is its error then, and the registry holds `t` in the setting's
place. -/
structure Fares (scope : σ) (r : Settings) (s : Setting) (error? : Option SettingError)
    (t : Setting) : Prop where
  left : ∀ {η : Type} (handler : Handler η) (notes : η), handler.Lenient →
    ∃ r' notes', handler.hear (r.failures scope) notes = .ok () notes' ∧
      pull scope handler (r, notes) = .ok () (r', notes') ∧ r'.get? s.name = some t
  heard : ∀ e, (s, e) ∈ r.failures scope ↔ error? = some e

/-- In a batch that comes to its end a setting fares as it does on its own. -/
theorem fares_of_reached (reached : Reached r) (found : r.get? s.name = some s) (scope : σ) :
    Fares scope r s (s.failure? scope) (s.pulled scope) := by
  refine ⟨?_, fun e => ?_⟩
  · intro η handler notes lenient
    obtain ⟨notes', heard⟩ := hear_of_lenient lenient (r.failures scope) notes
    refine ⟨r.pulledAll scope, notes', heard, pull_of_lenient reached lenient heard, ?_⟩
    rw [get?_pulledAll reached, found]
    rfl
  · rw [mem_failures_iff reached, Setting.pull_eq_error_iff]
    exact ⟨fun ⟨_, failed, _⟩ => failed, fun failed => ⟨found, failed, rfl⟩⟩

theorem fares_of_ok {scope : σ} {t : Setting} (reached : Reached r)
    (found : r.get? s.name = some s) (done : Setting.pull scope s = .ok () t) :
    Fares scope r s none t := by
  have fares := fares_of_reached reached found scope
  rwa [Setting.failure?_of_ok done, Setting.pulled, leaves_of_ok done] at fares

/-- A setting fares alike in two batches if its own pulls have the same outcome. -/
theorem fares_of_same {before after : σ} (reached : Reached r) (found : r.get? s.name = some s)
    (same : Setting.pull after s = Setting.pull before s) :
    ∃ error? t, Fares before r s error? t ∧ Fares after r s error? t := by
  refine ⟨_, _, fares_of_reached reached found before, ?_⟩
  have fares := fares_of_reached reached found after
  rwa [Setting.failure?, Setting.pulled, leaves, same] at fares

/-! ## 3. Both batches -/

/-- How a setting fares when it was supplied or cleared in the scope `before`, which made it `after`,
and is pulled from there. -/
structure Reloads (before after : σ) (r : Settings) (s : Setting) : Prop where
  cleared : s.access.canRead = true → s.access.canWrite = false → s.access.isRequired = false →
    Fares after r s none s
  provided : s.access.canRead = true → s.access.canWrite = false → s.access.isRequired = true →
    ∃ error? t, Fares before r s error? t ∧ Fares after r s error? t
  kept : s.access.canRead = true → s.access.canWrite = true → Scope.has before s.name = true →
    ∃ error? t, Fares before r s error? t ∧ Fares after r s error? t
  supplied : s.Mirrored → s.isEmpty = false → Scope.has before s.name = false →
    Fares after r s none s
  unread : s.access.canRead = false → Fares after r s none s

theorem reloads_of_supplyOrClear [VariableScope σ] {before after : σ} {name : String}
    (reached : Reached r) (done : r.supplyOrClear before = .ok () after)
    (found : r.get? name = some s) : Reloads before after r s := by
  obtain rfl := name_of_reached reached found
  obtain ⟨same, free, pushed⟩ := Push.pushed_of_done (p := .supplyOrClear) reached done found
  refine ⟨?_, ?_, ?_, ?_, ?_⟩
  · intro read silent optional
    have writing : Push.supplyOrClear.writes s.access = true := by
      simp [Push.writes, Access.isReserved_of_includes (by decide) read, optional]
    have absent : Scope.has after s.name = false := by
      rw [VariableScope.has_eq, Variables.has, pushed.cleared silent writing]
      simp [Value.isNil]
    exact fares_of_ok reached found (Setting.pull_of_absent absent optional)
  · intro read silent required
    have passive : Push.supplyOrClear.writes s.access = false := by
      simp [Push.writes, silent, required]
    exact fares_of_same reached found (Setting.pull_congr same (pushed.untouched passive))
  · intro read write present
    have unchanged := pushed.kept (by decide) write present
    exact fares_of_same reached found (Setting.pull_congr same unchanged)
  · intro mirrored full absent
    obtain ⟨_, _, sound⟩ := sound_of_reached reached s.name s found
    have stored : s.Stored after := by
      refine ⟨?_, pushed.supplied (by decide) mirrored.writes absent⟩
      rw [same]
      exact free (Push.writes_of_canWrite mirrored.writes)
    have own := Setting.assign_self sound mirrored.valid mirrored.idempotent
    have pulled := Setting.pull_of_stored mirrored.reads stored own
    rw [full] at pulled
    exact fares_of_ok reached found pulled
  · intro unread
    exact fares_of_ok reached found (Setting.pull_of_unread after unread)

/-- A registry is supplied to an engine, or to variables alone, with the names of settings that may
not write cleared, and is then pulled from what this leaves, with any handler that lets the batch go
on. If the first succeeds:
* a setting that is read, does not write and is not required comes back as it was, without an error,
  whatever its name was bound to;
* one that is read and required and does not write fares as if it were pulled from the scope as it
  was at first, and so does one that is read and writes and whose name had a value there;
* one that is read and writes, has a value and finds none under its name comes back as it was,
  without an error, be it required or not, if its descriptor is well formed and does not change its
  own results;
* one that is not read comes back as it was, without an error. -/
theorem supplyOrClear_pull_settled (reached : Reached r) :
    (∀ {ε : Type} (e after : Engine ε), r.supplyOrClear e = .ok () after →
      ∀ name s, r.get? name = some s → Reloads e after r s) ∧
    ∀ before after : Variables, r.supplyOrClear before = .ok () after →
      ∀ name s, r.get? name = some s → Reloads before after r s :=
  ⟨fun _ _ done _ _ found => reloads_of_supplyOrClear reached done found,
    fun _ _ done _ _ found => reloads_of_supplyOrClear reached done found⟩

/-- A text that is only read, a number that the script has to provide, one that is written and
required, and a flag that is written. -/
def console : Settings :=
  Op.apply (.addInferred "verbose" (.bool false) (.union .read .write) "")
    (Op.apply (.add "retries" (.coerced .integer) (.int32 3)
        (.union (.union .read .write) .required) "")
      (Op.apply (.add "port" (.coerced .integer) .nil (.union .read .required) "")
        (Op.apply (.addInferred "host" (.string "localhost") .read "") .empty)))

theorem console_reloaded :
    let before := ((Variables.empty.insert "host" (.string "stale")).insert "port"
      (.int32 8080)).insert "verbose" (.bool true)
    Reached console ∧ ∃ after, console.supplyOrClear before = .ok () after ∧
      (∃ host, console.get? "host" = some host ∧ host.value = .string "localhost" ∧
        Fares after console host none host) ∧
      (∃ port, console.get? "port" = some port ∧
        ∃ error? t, Fares before console port error? t ∧ Fares after console port error? t) ∧
      (∃ retries, console.get? "retries" = some retries ∧ retries.access.isRequired = true ∧
        Fares after console retries none retries) ∧
      ∃ verbose, console.get? "verbose" = some verbose ∧
        ∃ error? t, Fares before console verbose error? t ∧ Fares after console verbose error? t := by
  intro before
  have reached : Reached console := .apply _ (.apply _ (.apply _ (.apply _ .empty)))
  have supplied : ∃ after, console.supplyOrClear before = .ok () after := ⟨_, rfl⟩
  obtain ⟨after, supplied⟩ := supplied
  have host : console.get? "host" =
      some ⟨"host", "", .read, .exact .string, .string "localhost"⟩ := rfl
  have port : console.get? "port" =
      some ⟨"port", "", .union .read .required, .coerced .integer, .nil⟩ := rfl
  have retries : console.get? "retries" = some
      ⟨"retries", "", .union (.union .read .write) .required, .coerced .integer, .int 3⟩ := rfl
  have verbose : console.get? "verbose" =
      some ⟨"verbose", "", .union .read .write, .exact .bool, .bool false⟩ := rfl
  have integer : Setting.Mirrored
      ⟨"retries", "", .union (.union .read .write) .required, .coerced .integer, .int 3⟩ :=
    ⟨by decide, by decide, rfl, .integer⟩
  have reloads := (supplyOrClear_pull_settled reached).2 before after supplied
  refine ⟨reached, after, supplied, ⟨_, host, rfl, ?_⟩, ⟨_, port, ?_⟩,
    ⟨_, retries, by decide, ?_⟩, _, verbose, ?_⟩
  · exact (reloads _ _ host).cleared (by decide) (by decide) (by decide)
  · exact (reloads _ _ port).provided (by decide) (by decide) (by decide)
  · exact (reloads _ _ retries).supplied integer rfl rfl
  · exact (reloads _ _ verbose).kept (by decide) (by decide) rfl

end Settings

end ScriptBridge
