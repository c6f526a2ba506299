import Mathlib.Logic.Relation

/-!
# The state an action leaves

Settings, registries and engines are changed by actions that answer the new state also when they
fail. `leaves act s` is that state, and `verdict act s` the answer. What such actions do to a state is
told by a relation between the states before and after.

A batch stops at its first failure:
* `steps_forM`: it takes the steps of its items.
* `forM_again`: it can be run again without any effect if its items can, and do not undo one another.
-/

namespace ScriptBridge

variable {ε δ σ α : Type}

/-- The state that an action leaves behind, whether it succeeds or fails. -/
def leaves (act : EStateM ε σ α) (s : σ) : σ :=
  match act s with
  | .ok _ t => t
  | .error _ t => t

theorem leaves_of_ok {act : EStateM ε σ α} {s t : σ} {a : α} (h : act s = .ok a t) :
    leaves act s = t := by
  simp [leaves, h]

theorem leaves_of_error {act : EStateM ε σ α} {s t : σ} {e : ε} (h : act s = .error e t) :
    leaves act s = t := by
  simp [leaves, h]

/-- What an action answers, apart from the state that it leaves. -/
def verdict (act : EStateM ε σ α) (s : σ) : Except ε α :=
  match act s with
  | .ok a _ => .ok a
  | .error e _ => .error e

theorem verdict_of_ok {act : EStateM ε σ α} {s t : σ} {a : α} (h : act s = .ok a t) :
    verdict act s = .ok a := by
  simp [verdict, h]

theorem verdict_of_error {act : EStateM ε σ α} {s t : σ} {e : ε} (h : act s = .error e t) :
    verdict act s = .error e := by
  simp [verdict, h]

/-- Telling an error in other words changes nothing else. -/
theorem leaves_adaptExcept (f : ε → δ) (act : EStateM ε σ α) (s : σ) :
    leaves (act.adaptExcept f) s = leaves act s := by
  unfold leaves EStateM.adaptExcept
  cases act s <;> rfl

theorem adaptExcept_eq_ok_iff {f : ε → δ} {act : EStateM ε σ α} {s t : σ} {a : α} :
    act.adaptExcept f s = .ok a t ↔ act s = .ok a t := by
  unfold EStateM.adaptExcept
  cases act s <;> simp

/-! ## Batches -/

section Batches

variable {R : σ → σ → Prop} {f : α → EStateM ε σ Unit} {a : α} {items rest : List α} {s t : σ}

/-- A batch goes on behind an item that succeeds. -/
theorem forM_cons_of_ok (done : f a s = .ok () t) : (a :: rest).forM f s = rest.forM f t := by
  simp [List.forM, bind, EStateM.bind, done]

/-- The rest of a batch does not run behind an item that fails. -/
theorem forM_cons_of_error {e : ε} (failed : f a s = .error e t) :
    (a :: rest).forM f s = .error e t := by
  simp [List.forM, bind, EStateM.bind, failed]

/-- A batch takes the steps of its items, up to the first item that fails. -/
theorem steps_forM (step : ∀ a s, Relation.ReflTransGen R s (leaves (f a) s)) (items : List α)
    (s : σ) :
    Relation.ReflTransGen R s (leaves (items.forM f) s) := by
  induction items generalizing s with
  | nil => exact .refl
  | cons a rest ih =>
    have first := step a s
    cases h : f a s with
    | ok u t =>
      rw [leaves_of_ok h] at first
      rw [leaves, forM_cons_of_ok h]
      exact first.trans (ih t)
    | error e t =>
      rw [leaves_of_error h] at first
      rw [leaves_of_error (forM_cons_of_error h)]
      exact first

/-- What every item of a batch keeps is kept by the batch. -/
theorem keeps_forM {P : σ → Prop} (keeps : ∀ a ∈ items, ∀ s, P s → P (leaves (f a) s))
    (before : P s) : P (leaves (items.forM f) s) := by
  induction items generalizing s with
  | nil => exact before
  | cons a rest ih =>
    have first := keeps a List.mem_cons_self s before
    cases h : f a s with
    | ok u t =>
      rw [leaves_of_ok h] at first
      rw [leaves, forM_cons_of_ok h]
      exact ih (fun b member => keeps b (List.mem_cons_of_mem _ member)) first
    | error e t =>
      rw [leaves_of_error h] at first
      rwa [leaves_of_error (forM_cons_of_error h)]

/-- Where a batch succeeds every item has succeeded in some state. -/
theorem exists_ok_of_forM (done : items.forM f s = .ok () t) (member : a ∈ items) :
    ∃ s t, f a s = .ok () t := by
  induction items generalizing s with
  | nil => cases member
  | cons b rest ih =>
    cases first : f b s with
    | ok u s' =>
      rcases List.mem_cons.mp member with rfl | behind
      · exact ⟨s, s', first⟩
      · exact ih ((forM_cons_of_ok first).symm.trans done) behind
    | error e s' => cases (forM_cons_of_error first).symm.trans done

/-- A batch that is run again in the state that it has left answers the same and leaves the same
state, if this holds of every item, and no item of the batch undoes what an earlier one has done. -/
theorem forM_again (settles : ∀ a s t, f a s = .ok () t → f a t = .ok () t)
    (fails : ∀ a s e t, f a s = .error e t → f a t = .error e t)
    (apart : items.Pairwise fun a b =>
      ∀ s, f a s = .ok () s → f a (leaves (f b) s) = .ok () (leaves (f b) s)) (s : σ) :
    items.forM f (leaves (items.forM f) s) = items.forM f s := by
  induction items generalizing s with
  | nil => rfl
  | cons a rest ih =>
    obtain ⟨undisturbed, apart⟩ := List.pairwise_cons.mp apart
    cases first : f a s with
    | ok u t =>
      have batch : (a :: rest).forM f s = rest.forM f t := forM_cons_of_ok first
      -- the rest of the batch leaves a state in which the first item has nothing to do
      have settled : f a (leaves (rest.forM f) t) = .ok () (leaves (rest.forM f) t) :=
        keeps_forM undisturbed (settles a s t first)
      rw [leaves, batch, ← leaves, forM_cons_of_ok settled]
      exact ih apart t
    | error e t =>
      have batch : (a :: rest).forM f s = .error e t := forM_cons_of_error first
      rw [leaves_of_error batch, batch]
      exact forM_cons_of_error (fails a s e t first)

end Batches

end ScriptBridge
