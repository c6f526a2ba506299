import ScriptBridge.Engine.Basic

/-!
# Scopes that keep variables

Variables on their own and the variables of an engine are scopes of one kind: both keep a
`Variables`, an engine besides reserves names that are neither read nor written. What settings do to
a scope is proved once, for any scope of this kind.
-/

namespace ScriptBridge

/-- A scope that keeps its variables apart from everything else in its state, and whose operations
are those of the variables except on reserved names. -/
class VariableScope (σ : Type) [Scope σ] where
  vars : σ → Variables
  /-- The state with other variables. -/
  withVars : σ → Variables → σ
  /-- Whether a name is kept from being a variable. -/
  isReserved : σ → String → Bool
  vars_withVars : ∀ s vs, vars (withVars s vs) = vs
  withVars_vars : ∀ s, withVars s (vars s) = s
  withVars_withVars : ∀ s vs ws, withVars (withVars s vs) ws = withVars s ws
  isReserved_withVars : ∀ s vs name, isReserved (withVars s vs) name = isReserved s name
  has_eq : ∀ s name, Scope.has s name = (!isReserved s name && (vars s).has name)
  get_eq : ∀ s name, Scope.get s name =
    if isReserved s name then .error (.notReadable name) else (vars s).get name
  set_eq : ∀ s name v, Scope.set name v s =
    if isReserved s name then .error (.isFunction name) s
    else .ok () (withVars s ((vars s).insert name v))
  declare_eq : ∀ s name v, Scope.declare name v s =
    if isReserved s name then .error (.isFunction name) s
    else if (vars s).defines name then .error (.alreadyDefined name) s
    else .ok () (withVars s ((vars s).insert name v))

attribute [simp] VariableScope.vars_withVars VariableScope.withVars_vars
  VariableScope.withVars_withVars VariableScope.isReserved_withVars

instance : VariableScope Variables where
  vars := id
  withVars _ vs := vs
  isReserved _ _ := false
  vars_withVars _ _ := rfl
  withVars_vars _ := rfl
  withVars_withVars _ _ _ := rfl
  isReserved_withVars _ _ _ := rfl
  has_eq _ _ := rfl
  get_eq _ _ := rfl
  set_eq _ _ _ := rfl
  declare_eq _ _ _ := rfl

instance {ε : Type} : VariableScope (Engine ε) where
  vars e := e.vars
  withVars e vs := { e with vars := vs }
  isReserved := Engine.isReserved
  vars_withVars _ _ := rfl
  withVars_vars _ := rfl
  withVars_withVars _ _ _ := rfl
  isReserved_withVars _ _ _ := rfl
  has_eq _ _ := rfl
  get_eq _ _ := rfl
  set_eq _ _ _ := rfl
  declare_eq e name v := by
    change Engine.write name (Variables.declare name v) e = _
    unfold Engine.write Variables.declare
    cases e.isReserved name with
    | true => rfl
    | false => cases e.vars.defines name <;> rfl

/-- Whether a name has a value depends on its binding only. -/
theorem Variables.has_congr {vars vars' : Variables} {name : String}
    (same : vars'.table.get? name = vars.table.get? name) : vars'.has name = vars.has name := by
  rw [Variables.has, Variables.has, same]

end ScriptBridge
