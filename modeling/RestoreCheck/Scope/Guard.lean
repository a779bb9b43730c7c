/-!
# Guards

A guard holds something that was acquired, together with what has to be done to give it back.  It is
given back when the guard is dropped, which happens also while its scope is unwound, or before that
by releasing the guard.  What was given back is not held any more, so that nothing is given back
twice, although a guard that was released is dropped as well.

`bracket` is the whole life of a guard: acquire, run a body, and end the guard.  The body may come
to its end or be unwound; the guard is ended in either case, and if nothing was acquired neither the
body nor the release runs.

A `Register` holds open guards by number, and drops those that are left in ascending order.
-/

namespace RestoreCheck

/-- Something that is held, and how it is given back. -/
structure Held (σ α : Type) where
  /-- what is held -/
  value : α
  /-- what giving it back does -/
  release : α → σ → σ

/-- A guard. -/
structure Guard (σ α : Type) where
  /-- what it holds, until that is given back -/
  held : Option (Held σ α)

namespace Guard

variable {σ τ α : Type}

/-- A guard over something that was acquired. -/
def new (value : α) (release : α → σ → σ) : Guard σ α := ⟨some ⟨value, release⟩⟩

/-- What a guard holds. -/
def value? (g : Guard σ α) : Option α := g.held.map Held.value

/-- Gives back what a guard holds, if it still does. -/
def giveBack (g : Guard σ α) (s : σ) : Guard σ α × σ :=
  match g.held with
  | some h => (⟨none⟩, h.release h.value s)
  | none => (g, s)

/-- Ends a guard. -/
def drop (g : Guard σ α) (s : σ) : σ := (g.giveBack s).2

/-- Gives back what a guard holds at once, and ends it. -/
def release (g : Guard σ α) (s : σ) : σ :=
  let (g, s) := g.giveBack s
  g.drop s

/-- The guard that does to a whole what another guard does to a part of it. -/
def lift (modify : (τ → τ) → σ → σ) (g : Guard τ α) : Guard σ Unit :=
  ⟨g.held.map fun h => ⟨(), fun _ => modify (h.release h.value)⟩⟩

/-- The text of a guard, for a way to show what it holds. -/
def text (valueText : α → String) (g : Guard σ α) : String :=
  match g.value? with
  | some value => "Scoped(Some(" ++ valueText value ++ "))"
  | none => "Scoped(None)"

/-- **A guard that is released is given back once**, though it is dropped as well. -/
theorem release_eq_drop (g : Guard σ α) (s : σ) : g.release s = g.drop s := by
  obtain ⟨_ | h⟩ := g <;> rfl

end Guard

/-- How a body ended. -/
inductive Ending (β : Type) where
  /-- it came to its end -/
  | finished (result : β)
  /-- it was unwound on the way -/
  | unwound

/-- How the guard of a body that came to its end is ended. -/
inductive GuardEnd where
  | dropped
  | released

/-- Ends a guard in some way. -/
def Guard.endBy {σ α : Type} (g : Guard σ α) : GuardEnd → σ → σ
  | .dropped => g.drop
  | .released => g.release

/-- However a guard is ended, what it holds is given back once. -/
theorem Guard.endBy_eq_drop {σ α : Type} (g : Guard σ α) (guardEnd : GuardEnd) (s : σ) :
    g.endBy guardEnd s = g.drop s := by
  cases guardEnd with
  | dropped => rfl
  | released => exact g.release_eq_drop s

/-- **The life of a guard.**  It is dropped if its body is unwound. -/
def bracket {σ α β ε : Type} (acquire : σ → Except ε (Guard σ α) × σ) (guardEnd : GuardEnd)
    (body : Guard σ α → σ → Ending β × σ) (s : σ) : Except ε (Ending β) × σ :=
  match acquire s with
  | (.error e, s) => (.error e, s)
  | (.ok g, s) =>
    match body g s with
    | (.finished result, s) => (.ok (.finished result), g.endBy guardEnd s)
    | (.unwound, s) => (.ok .unwound, g.drop s)

/-- **Whatever a body comes to**, its guard is given back after it. -/
theorem bracket_of_acquire {σ α β ε : Type} {acquire : σ → Except ε (Guard σ α) × σ}
    {g : Guard σ α} {s inside : σ} (h : acquire s = (.ok g, inside)) (guardEnd : GuardEnd)
    (body : Guard σ α → σ → Ending β × σ) :
    bracket acquire guardEnd body s =
      (.ok (body g inside).1, g.drop (body g inside).2) := by
  obtain ⟨ending, after, hbody⟩ : ∃ ending after, body g inside = (ending, after) := ⟨_, _, rfl⟩
  rw [bracket, h]
  simp only [hbody]
  cases ending with
  | finished result =>
    dsimp only
    rw [g.endBy_eq_drop]
  | unwound => rfl

/-! ### Registers -/

/-- Open guards by number, the numbers ascending. -/
structure Register (γ : Type) where
  /-- numbers and guards -/
  entries : List (Int × γ)

namespace Register

variable {γ : Type}

/-- No open guards. -/
def empty : Register γ := ⟨[]⟩

/-- The guard of a number. -/
def get? (r : Register γ) (id : Int) : Option γ :=
  (r.entries.find? fun e => e.1 = id).map Prod.snd

/-- The register without a number. -/
def erase (r : Register γ) (id : Int) : Register γ :=
  ⟨r.entries.filter fun e => e.1 ≠ id⟩

/-- The register with a guard under a number, in place of an earlier one. -/
def put (r : Register γ) (id : Int) (g : γ) : Register γ :=
  let others := r.erase id
  ⟨others.entries.filter (·.1 < id) ++ (id, g) :: others.entries.filter (id < ·.1)⟩

/-- Closes the guard of a number, if there is one. -/
def closeAt {σ : Type} (close : γ → σ → σ) (r : Register γ) (id : Int) (s : σ) : Register γ × σ :=
  match r.get? id with
  | some g => (r.erase id, close g s)
  | none => (r, s)

/-- Holds a guard under a number; an earlier guard of that number is closed. -/
def hold {σ : Type} (close : γ → σ → σ) (r : Register γ) (id : Int) (g : γ) (s : σ) :
    Register γ × σ :=
  (r.put id g, (r.closeAt close id s).2)

/-- Closes all guards, in ascending order of their numbers. -/
def closeAll {σ : Type} (close : γ → σ → σ) (r : Register γ) (s : σ) : σ :=
  r.entries.foldl (fun s e => close e.2 s) s

theorem get?_erase_self (r : Register γ) (id : Int) : (r.erase id).get? id = none := by
  simp [erase, get?]

theorem get?_put_self (r : Register γ) (id : Int) (g : γ) : (r.put id g).get? id = some g := by
  simp only [put, get?, List.find?_append]
  rw [List.find?_eq_none.2]
  · simp
  · intro e he
    have := (List.mem_filter.1 he).2
    simp only [decide_eq_true_eq] at this ⊢
    omega

end Register

end RestoreCheck
