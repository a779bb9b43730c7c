import RestoreCheck.Path

/-!
# Running actions

Comparisons and mounts are actions on a state that may end early.  An action that is made of two
ends as the first one does if that ends early, and else goes on from the state that the first one
leaves (`run_bind_of_error`, `run_bind_of_ok`).  Conversely an action of two parts that ended well
is two parts that ended well (`exists_of_run_bind_eq_ok`).
-/

namespace RestoreCheck

variable {ε σ α β : Type}

section

variable {x : ExceptT ε (StateM σ) α} {s s' : σ}

theorem run_bind_of_ok {f : α → ExceptT ε (StateM σ) β} {a : α} (h : x.run s = (.ok a, s')) :
    (x >>= f).run s = (f a).run s' := by
  show (fun r : Except ε α × σ => ExceptT.bindCont f r.1 r.2) (x.run s) = _
  rw [h]
  rfl

theorem run_bind_of_error {f : α → ExceptT ε (StateM σ) β} {e : ε}
    (h : x.run s = (.error e, s')) : (x >>= f).run s = (.error e, s') := by
  show (fun r : Except ε α × σ => ExceptT.bindCont f r.1 r.2) (x.run s) = _
  rw [h]
  rfl

/-- **Two parts that ended well together** ended well one after the other. -/
theorem exists_of_run_bind_eq_ok {f : α → ExceptT ε (StateM σ) β} {b : β}
    (h : (x >>= f).run s = (.ok b, s')) :
    ∃ a t, x.run s = (.ok a, t) ∧ (f a).run t = (.ok b, s') := by
  obtain ⟨r, t, hx⟩ : ∃ r t, x.run s = (r, t) := ⟨_, _, rfl⟩
  cases r with
  | error e =>
    rw [run_bind_of_error hx] at h
    cases h
  | ok a => exact ⟨a, t, hx, by rw [← run_bind_of_ok hx, h]⟩

theorem run_tryCatch_of_ok {f : ε → ExceptT ε (StateM σ) α} {a : α} (h : x.run s = (.ok a, s')) :
    (tryCatch x f).run s = (.ok a, s') := by
  show (fun r : Except ε α × σ => (match r.1 with
    | .ok a => pure (.ok a)
    | .error e => f e : StateM σ (Except ε α)) r.2) (x.run s) = _
  rw [h]
  rfl

theorem run_tryCatch_of_error {f : ε → ExceptT ε (StateM σ) α} {e : ε}
    (h : x.run s = (.error e, s')) : (tryCatch x f).run s = (f e).run s' := by
  show (fun r : Except ε α × σ => (match r.1 with
    | .ok a => pure (.ok a)
    | .error e => f e : StateM σ (Except ε α)) r.2) (x.run s) = _
  rw [h]
  rfl

/-- What is done finally is done however an action ends, and if it ends well itself it changes
nothing but the state. -/
theorem run_tryFinally {f : ExceptT ε (StateM σ) Unit} {t : σ} {r : Except ε α}
    (h : x.run s = (r, s')) (hf : f.run s' = (.ok (), t)) : (tryFinally x f).run s = (r, t) := by
  have hboth : (tryFinally' x fun _ => f).run s = (r.map fun a => (a, ()), t) := by
    replace h : x s = (r, s') := h
    replace hf : f s' = (.ok (), t) := hf
    cases r with
    | error e =>
      simp [tryFinally', ExceptT.run, ExceptT.mk, h, hf, bind, StateT.bind, Except.map]
      rfl
    | ok a =>
      simp [tryFinally', ExceptT.run, ExceptT.mk, h, hf, bind, StateT.bind, Except.map]
      rfl
  show ((fun y : α × Unit => y.1) <$> tryFinally' x fun _ => f).run s = _
  rw [map_eq_pure_bind]
  cases r with
  | error e => exact run_bind_of_error hboth
  | ok a => exact run_bind_of_ok hboth

end

end RestoreCheck
