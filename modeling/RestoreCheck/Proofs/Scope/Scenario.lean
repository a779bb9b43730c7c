import RestoreCheck.Proofs.Files.Standing
import RestoreCheck.Proofs.Scope.Variables
import RestoreCheck.Scope.WorkingDirectory

/-!
# Scenarios

A scenario is a program that changes the state of its process, partly in scopes with a guard: in one
it overrides variables, in another it changes the working directory.  Scopes stand one after the
other and in each other, to any depth.  The body of a scope comes to its end, where its guard is
dropped or released, or it is unwound anywhere; what is unwound ends there for good unless something
around it catches that.  What a scenario does next may depend on the state.

A run of a scenario keeps a history, in which every guard has a number, with the states before and
after each thing that happened.  Which histories there are is said by `Accounts`, and that a run has
such a history by `Scenario.follows_run`: guards are taken and given back in pairs that nest, no
number twice, and giving back does what the scope asks for that the guard belongs to.
-/

namespace RestoreCheck

/-- What scopes change of a process: its variables, and its working directory with all files. -/
structure Process where
  environment : Environment
  files : FileSystem

namespace Process

/-- Changes the variables. -/
def inEnvironment (f : Environment → Environment) (p : Process) : Process :=
  { p with environment := f p.environment }

/-- Changes the files. -/
def inFiles (f : FileSystem → FileSystem) (p : Process) : Process :=
  { p with files := f p.files }

end Process

/-- A scope. -/
inductive Scope where
  /-- variables are overridden -/
  | environment (vars : List (Bytes × Option Bytes))
  /-- the working directory is another one -/
  | directory (path : Path)

/-- Why a scope was not entered. -/
inductive Refusal where
  /-- a variable cannot be set, which unwinds everything -/
  | unwinding
  /-- the directory cannot be entered -/
  | fault (cause : Fault)

/-- Enters a scope. -/
def Scope.enter (p : Process) : Scope → Except Refusal (Guard Process Unit) × Process
  | .environment vars =>
    match p.environment.enter vars with
    | (.error (), env) => (.error .unwinding, { p with environment := env })
    | (.ok g, env) => (.ok (g.lift Process.inEnvironment), { p with environment := env })
  | .directory path =>
    match WorkingDirectory.enter path p.files with
    | (.error cause, files) => (.error (.fault cause), { p with files })
    | (.ok g, files) => (.ok (g.lift Process.inFiles), { p with files })

/-- Something that happened in a run. -/
inductive ScopeEvent where
  /-- something was done outside of guards -/
  | acted (before after : Process)
  /-- a scope was entered, and a guard taken -/
  | entered (guard : Nat) (scope : Scope) (before after : Process)
  /-- a scope was not entered -/
  | refused (scope : Scope) (before after : Process)
  /-- what a guard held was given back -/
  | left (guard : Nat) (before after : Process)

namespace ScopeEvent

/-- The state before an event. -/
def before : ScopeEvent → Process
  | acted b _ | entered _ _ b _ | refused _ b _ | left _ b _ => b

/-- The state after an event. -/
def after : ScopeEvent → Process
  | acted _ a | entered _ _ _ a | refused _ _ a | left _ _ a => a

/-- Whether a guard was taken. -/
def enters (n : Nat) : ScopeEvent → Bool
  | entered m _ _ _ => m = n
  | _ => false

/-- Whether what a guard held was given back. -/
def leaves (n : Nat) : ScopeEvent → Bool
  | left m _ _ => m = n
  | _ => false

section

variable (m n : Nat) (scope : Scope) (b a : Process)

@[simp] theorem enters_entered : (entered m scope b a).enters n = decide (m = n) := rfl
@[simp] theorem enters_left : (left m b a).enters n = false := rfl
@[simp] theorem leaves_entered : (entered m scope b a).leaves n = false := rfl
@[simp] theorem leaves_left : (left m b a).leaves n = decide (m = n) := rfl

end

end ScopeEvent

/-- A run so far. -/
structure Course where
  /-- the state of the process -/
  process : Process
  /-- how many guards were taken -/
  guards : Nat
  /-- what happened -/
  history : List ScopeEvent

namespace Course

/-- A run that begins. -/
def start (p : Process) : Course := ⟨p, 0, []⟩

/-- Something is done outside of guards. -/
def act (change : Process → Process) (s : Course) : Course :=
  { s with process := change s.process
           history := s.history ++ [.acted s.process (change s.process)] }

/-- What a guard held is given back. -/
def leave (n : Nat) (restore : Process → Process) (s : Course) : Course :=
  { s with process := restore s.process
           history := s.history ++ [.left n s.process (restore s.process)] }

/-- A scope was entered, which left the process in some state. -/
def inside (s : Course) (scope : Scope) (p : Process) : Course :=
  ⟨p, s.guards + 1, s.history ++ [.entered s.guards scope s.process p]⟩

/-- A scope was refused, which left the process in some state. -/
def refuse (s : Course) (scope : Scope) (p : Process) : Course :=
  { s with process := p, history := s.history ++ [.refused scope s.process p] }

/-- Enters a scope.  The guard records when it gives back what it holds. -/
def enter (scope : Scope) (s : Course) : Except Refusal (Guard Course Unit) × Course :=
  match scope.enter s.process with
  | (.error cause, p) => (.error cause, s.refuse scope p)
  | (.ok g, p) => (.ok (g.lift (leave s.guards)), s.inside scope p)

end Course

/-- **A program with scopes.** -/
inductive Scenario where
  /-- it comes to its end -/
  | done
  /-- it is unwound -/
  | unwind
  /-- something is done outside of guards, and what comes next depends on the state -/
  | act (change : Process → Process) (next : Process → Scenario)
  /-- a scope with its body, what comes instead if a directory cannot be entered, and what comes
  next -/
  | within (scope : Scope) (guardEnd : GuardEnd) (body refused next : Scenario)
  /-- what is unwound in the body ends there -/
  | catching (body next : Scenario)

/-- **Runs a scenario.** -/
def Scenario.run : Scenario → Course → Ending Unit × Course
  | done, s => (.finished (), s)
  | unwind, s => (.unwound, s)
  | act change next, s => (next (change s.process)).run (s.act change)
  | within scope guardEnd body refused next, s =>
    match bracket (Course.enter scope) guardEnd (fun _ => body.run) s with
    | (.error .unwinding, s) => (.unwound, s)
    | (.error (.fault _), s) => refused.run s
    | (.ok .unwound, s) => (.unwound, s)
    | (.ok (.finished ()), s) => next.run s
  | catching body next, s => next.run (body.run s).2

/-! ### Scopes -/

/-- **How a scope is entered**, and what is done to restore the process. -/
inductive Scope.Enters : Scope → Process → Process → (Process → Process) → Prop where
  | environment {vars : List (Bytes × Option Bytes)} {p : Process} {saved : SavedVariables}
      (saved_eq : (p.environment.override vars).saved = some saved) :
      Enters (.environment vars) p
        { p with environment := (p.environment.override vars).environment }
        (Process.inEnvironment (Environment.restore saved))
  | directory {path previous : Path} {p : Process} {files : FileSystem}
      (cwdPath_eq : p.files.cwdPath = .ok previous)
      (files_eq : p.files.changeDirectory path = .ok files) :
      Enters (.directory path) p { p with files }
        (Process.inFiles (WorkingDirectory.restore previous))

/-- **How a scope is refused.** -/
inductive Scope.Refuses : Scope → Process → Process → Prop where
  | environment {vars : List (Bytes × Option Bytes)} {p : Process}
      (saved_eq : (p.environment.override vars).saved = none) :
      Refuses (.environment vars) p
        { p with environment := (p.environment.override vars).environment }
  | directory {path : Path} {p : Process} : Refuses (.directory path) p p

/-- **A scope is entered or refused.** -/
theorem Scope.enter_eq (scope : Scope) (p : Process) :
    (∃ restore p', scope.enter p = (.ok (.new () fun _ => restore), p') ∧
      scope.Enters p p' restore) ∨
    ∃ cause p', scope.enter p = (.error cause, p') ∧ scope.Refuses p p' := by
  cases scope with
  | environment vars =>
    cases hsaved : (p.environment.override vars).saved with
    | none =>
      exact .inr ⟨.unwinding, _, by simp only [enter, Environment.enter, hsaved],
        .environment hsaved⟩
    | some saved =>
      exact .inl ⟨_, _, by simp only [enter, Environment.enter, hsaved]; rfl,
        .environment hsaved⟩
  | directory path =>
    cases hcwd : p.files.cwdPath with
    | error f => exact .inr ⟨_, _, by rw [enter, WorkingDirectory.enter, hcwd], .directory⟩
    | ok previous =>
      cases hfiles : p.files.changeDirectory path with
      | error f =>
        exact .inr ⟨_, _, by rw [enter, WorkingDirectory.enter, hcwd, hfiles], .directory⟩
      | ok files =>
        refine .inl ⟨_, _, ?_, .directory hcwd hfiles⟩
        rw [enter, WorkingDirectory.enter, hcwd, hfiles]
        rfl

/-! ### Histories -/

/-- **Histories as they can be**, from a number of guards and a state to others.  Each event starts
from the state that the one before it has left.  A guard that is taken is given back, before any
that was taken earlier, and giving it back does what the scope asks for that was entered with it. -/
inductive Accounts : Nat → Process → List ScopeEvent → Nat → Process → Prop where
  | nil {k : Nat} {p : Process} : Accounts k p [] k p
  | acted {k k' : Nat} {b a p : Process} {later : List ScopeEvent}
      (next : Accounts k a later k' p) : Accounts k b (.acted b a :: later) k' p
  | refused {k k' : Nat} {scope : Scope} {b a p : Process} {later : List ScopeEvent}
      (refuses : scope.Refuses b a) (next : Accounts k a later k' p) :
      Accounts k b (.refused scope b a :: later) k' p
  | within {k i k' : Nat} {scope : Scope} {b a e p : Process} {restore : Process → Process}
      {inner later : List ScopeEvent} (enters : scope.Enters b a restore)
      (body : Accounts (k + 1) a inner i e) (next : Accounts i (restore e) later k' p) :
      Accounts k b (.entered k scope b a :: (inner ++ .left k e (restore e) :: later)) k' p

namespace Accounts

variable {k i k' n : Nat} {p q r b a b' a' : Process} {events later : List ScopeEvent}
  {scope : Scope}

theorem append (h : Accounts k p events i q) (h' : Accounts i q later k' r) :
    Accounts k p (events ++ later) k' r := by
  induction h with
  | nil => exact h'
  | acted next ih => exact .acted (ih h')
  | refused refuses next ih => exact .refused refuses (ih h')
  | within enters body next _ ih =>
    rw [List.cons_append, List.append_assoc, List.cons_append]
    exact .within enters body (ih h')

/-- Numbers ascend. -/
theorem le (h : Accounts k p events k' q) : k ≤ k' := by
  induction h with
  | nil => exact Nat.le_refl _
  | acted next ih => exact ih
  | refused refuses next ih => exact ih
  | within enters body next ihBody ih => omega

/-- **Every guard is taken once and given back once.** -/
theorem count (h : Accounts k p events k' q) (n : Nat) :
    events.countP (·.enters n) = (if k ≤ n ∧ n < k' then 1 else 0) ∧
      events.countP (·.leaves n) = if k ≤ n ∧ n < k' then 1 else 0 := by
  induction h with
  | nil =>
    rw [if_neg (by omega)]
    exact ⟨rfl, rfl⟩
  | acted next ih => exact ih
  | refused refuses next ih => exact ih
  | @within k i k' scope b a e p restore inner later enters body next ihBody ih =>
    have hbody := body.le
    have hnext := next.le
    simp only [List.countP_cons, List.countP_append, ihBody.1, ihBody.2, ih.1, ih.2,
      ScopeEvent.enters_entered, ScopeEvent.enters_left, ScopeEvent.leaves_entered,
      ScopeEvent.leaves_left, decide_eq_true_eq, Bool.false_eq_true, if_false, Nat.add_zero]
    -- The numbers of the scope, of its body and of what comes later follow each other.
    by_cases hk : k = n
    · subst hk
      rw [if_neg (by omega), if_neg (by omega), if_pos rfl, if_pos (by omega)]
      exact ⟨rfl, rfl⟩
    · rw [if_neg hk]
      constructor <;> (repeat' split) <;> omega

theorem lt_of_entered (h : Accounts k p events k' q) (hin : .entered n scope b a ∈ events) :
    k ≤ n ∧ n < k' := by
  have hpos : 0 < events.countP (·.enters n) :=
    List.countP_pos_iff.2 ⟨_, hin, decide_eq_true rfl⟩
  rw [(h.count n).1] at hpos
  split at hpos
  · assumption
  · cases hpos

theorem lt_of_left (h : Accounts k p events k' q) (hout : .left n b a ∈ events) :
    k ≤ n ∧ n < k' := by
  have hpos : 0 < events.countP (·.leaves n) :=
    List.countP_pos_iff.2 ⟨_, hout, decide_eq_true rfl⟩
  rw [(h.count n).2] at hpos
  split at hpos
  · assumption
  · cases hpos

theorem refuses (h : Accounts k p events k' q) (hmem : .refused scope b a ∈ events) :
    scope.Refuses b a := by
  induction h with
  | nil => cases hmem
  | acted next ih => exact ih (by simpa using hmem)
  | refused refuses next ih =>
    rcases List.mem_cons.1 hmem with heq | hmem
    · cases heq
      exact refuses
    · exact ih hmem
  | within enters body next ihBody ih =>
    simp only [List.mem_cons, List.mem_append, reduceCtorEq, false_or] at hmem
    exact hmem.elim ihBody ih

theorem enters (h : Accounts k p events k' q) (hin : .entered n scope b a ∈ events) :
    ∃ restore, scope.Enters b a restore := by
  induction h with
  | nil => cases hin
  | acted next ih => exact ih (by simpa using hin)
  | refused refuses next ih => exact ih (by simpa using hin)
  | within enters body next ihBody ih =>
    simp only [List.mem_cons, List.mem_append, reduceCtorEq, false_or] at hin
    rcases hin with heq | hin | hin
    · cases heq
      exact ⟨_, enters⟩
    · exact ihBody hin
    · exact ih hin

/-- **Giving back what a guard held** does what the scope asks for that was entered with it. -/
theorem restores (h : Accounts k p events k' q) (hin : .entered n scope b a ∈ events)
    (hout : .left n b' a' ∈ events) : ∃ restore, scope.Enters b a restore ∧ a' = restore b' := by
  induction h with
  | nil => cases hin
  | acted next ih => exact ih (by simpa using hin) (by simpa using hout)
  | refused refuses next ih => exact ih (by simpa using hin) (by simpa using hout)
  | @within k i k' scope b a e p restore inner later enters body next ihBody ih =>
    have hbody := body.le
    simp only [List.mem_cons, List.mem_append, reduceCtorEq, false_or] at hin hout
    -- The two events of one number are the two ends of one scope.
    rcases hin with heq | hin | hin
    · cases heq
      rcases hout with hout | heq | hout
      · have hlt := body.lt_of_left hout
        omega
      · cases heq
        exact ⟨restore, enters, rfl⟩
      · have hlt := next.lt_of_left hout
        omega
    · have hn := body.lt_of_entered hin
      rcases hout with hout | heq | hout
      · exact ihBody hin hout
      · cases heq
        omega
      · have hlt := next.lt_of_left hout
        omega
    · have hn := next.lt_of_entered hin
      rcases hout with hout | heq | hout
      · have hlt := body.lt_of_left hout
        omega
      · cases heq
        omega
      · exact ih hin hout

end Accounts

/-! ### Runs -/

/-- A run that goes on from another, as its history accounts for. -/
def Course.Follows (s t : Course) : Prop :=
  ∃ new, t.history = s.history ++ new ∧ Accounts s.guards s.process new t.guards t.process

namespace Course

variable {s t u : Course} {scope : Scope} {p' : Process} {restore : Process → Process}

theorem Follows.refl (s : Course) : s.Follows s :=
  ⟨[], (List.append_nil _).symm, .nil⟩

theorem Follows.trans (h : s.Follows t) (h' : t.Follows u) : s.Follows u := by
  obtain ⟨new, hnew, haccounts⟩ := h
  obtain ⟨later, hlater, haccounts'⟩ := h'
  exact ⟨new ++ later, by rw [hlater, hnew, List.append_assoc], haccounts.append haccounts'⟩

theorem Follows.mem_history (h : s.Follows t) {e : ScopeEvent} (he : e ∈ s.history) :
    e ∈ t.history := by
  obtain ⟨new, hnew, -⟩ := h
  rw [hnew]
  exact List.mem_append_left new he

theorem follows_act (s : Course) (change : Process → Process) : s.Follows (s.act change) :=
  ⟨[.acted s.process (change s.process)], rfl, .acted .nil⟩

theorem follows_refuse (h : scope.Refuses s.process p') : s.Follows (s.refuse scope p') :=
  ⟨[.refused scope s.process p'], rfl, .refused h .nil⟩

/-- A scope is left in which a run has gone on. -/
theorem follows_leave (h : scope.Enters s.process p' restore)
    (body : (s.inside scope p').Follows t) : s.Follows (t.leave s.guards restore) := by
  obtain ⟨inner, hinner, haccounts⟩ := body
  refine ⟨.entered s.guards scope s.process p' ::
    (inner ++ [.left s.guards t.process (restore t.process)]), ?_, .within h haccounts .nil⟩
  show t.history ++ [.left s.guards t.process (restore t.process)] = _
  rw [hinner]
  simp only [Course.inside, List.append_assoc, List.cons_append, List.nil_append]

section

variable {guardEnd : GuardEnd} {body : Course → Ending Unit × Course}

/-- **However the body ends**, the guard is ended once it has. -/
theorem bracket_of_enter
    (h : scope.enter s.process = (.ok (.new () fun _ => restore), p')) :
    bracket (Course.enter scope) guardEnd (fun _ => body) s =
      (.ok (body (s.inside scope p')).1, (body (s.inside scope p')).2.leave s.guards restore) := by
  have henter : Course.enter scope s =
      (.ok ((Guard.new () fun _ => restore).lift (leave s.guards)), s.inside scope p') := by
    rw [Course.enter, h]
  rw [bracket_of_acquire henter]
  rfl

theorem bracket_of_refuse {cause : Refusal} (h : scope.enter s.process = (.error cause, p')) :
    bracket (Course.enter scope) guardEnd (fun _ => body) s =
      (.error cause, s.refuse scope p') := by
  rw [bracket, Course.enter, h]

end

end Course

namespace Scenario

/-- **The history of a run accounts for it**, from any run before. -/
theorem follows_run (scenario : Scenario) (s : Course) : s.Follows (scenario.run s).2 := by
  induction scenario generalizing s with
  | done => exact .refl s
  | unwind => exact .refl s
  | act change next ih => exact (s.follows_act change).trans (ih _ _)
  | within scope guardEnd body refused next ihBody ihRefused ihNext =>
    rw [run]
    rcases scope.enter_eq s.process with ⟨restore, p', henter, h⟩ | ⟨cause, p', henter, h⟩
    · rw [Course.bracket_of_enter henter]
      have hleave := Course.follows_leave h (ihBody (s.inside scope p'))
      cases (body.run (s.inside scope p')).1 with
      | finished r => exact hleave.trans (ihNext _)
      | unwound => exact hleave
    · rw [Course.bracket_of_refuse henter]
      have hrefuse := Course.follows_refuse h
      cases cause with
      | unwinding => exact hrefuse
      | fault cause => exact hrefuse.trans (ihRefused _)
  | catching body next ihBody ihNext => exact (ihBody s).trans (ihNext _)

end Scenario

end RestoreCheck
