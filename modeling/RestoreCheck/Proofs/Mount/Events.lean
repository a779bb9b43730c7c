import RestoreCheck.Mount.Stand
import RestoreCheck.Proofs.Mount.Runs

/-!
# What a mounter records

The record of a run is what was recorded before it and then the events of the run.  A wait records
`MountEvent.rounds`, checks with the pauses after them, and last the check that ended it, if one did
(`Mounter.WaitEnds.exists_history`).  Mounting records that a mountpoint was made and a command
launched, then the wait, and at most that the mountpoint was removed again
(`Mounter.Launches.history`, `Mounter.exists_history_abandoned`).
-/

namespace RestoreCheck

namespace MountEvent

/-- Checks that all find the same, each with the pause after it. -/
def rounds (p : Path) (answer : Bool) (interval : Span) (k : Nat) : List MountEvent :=
  (List.replicate k [.asked p answer, .paused interval]).flatten

theorem rounds_succ (p : Path) (answer : Bool) (interval : Span) (k : Nat) :
    rounds p answer interval (k + 1) =
      rounds p answer interval k ++ [.asked p answer, .paused interval] := by
  unfold rounds
  rw [List.replicate_succ', List.flatten_append, List.flatten_singleton]

/-- The paths on which a body ran. -/
def bodies (events : List MountEvent) : List Path :=
  events.filterMap fun
    | .ran p => some p
    | _ => none

variable {p : Path} {answer : Bool} {interval : Span} {k : Nat} {xs ys : List MountEvent}

theorem unmounted_append : Stand.unmounted (xs ++ ys) = Stand.unmounted xs ++ Stand.unmounted ys :=
  List.filterMap_append

theorem bodies_append : bodies (xs ++ ys) = bodies xs ++ bodies ys :=
  List.filterMap_append

theorem asked_append : Stand.asked (xs ++ ys) = Stand.asked xs ++ Stand.asked ys :=
  List.filterMap_append

/-- **Quiet events**: nothing is unmounted, and no body runs. -/
structure Quiet (events : List MountEvent) : Prop where
  unmounted : Stand.unmounted events = []
  bodies : bodies events = []

theorem Quiet.append (hx : Quiet xs) (hy : Quiet ys) : Quiet (xs ++ ys) where
  unmounted := by rw [unmounted_append, hx.unmounted, hy.unmounted, List.append_nil]
  bodies := by rw [bodies_append, hx.bodies, hy.bodies, List.append_nil]

theorem quiet_rounds : Quiet (rounds p answer interval k) := by
  induction k with
  | zero => exact ⟨rfl, rfl⟩
  | succ k ih =>
    rw [rounds_succ]
    exact ih.append ⟨rfl, rfl⟩

end MountEvent

open MountEvent

namespace Mounter

variable {τ : Type} {s : Mounter τ} {p : Path} {scene after : Scene τ}

theorem history_cons {e : MountEvent} (h : after.log = e :: scene.log) :
    after.history = scene.history ++ [e] := by
  unfold Scene.history
  rw [h, List.reverse_cons]

/-! ### Waiting -/

theorem history_answered (k : Nat) : (s.answered p k scene).history =
    (s.pollScene p k scene).history ++ [.asked p (s.answer p k scene)] :=
  history_cons rfl

theorem history_pollScene {k : Nat} {found : Bool} (h : ∀ j < k, s.answer p j scene = found) :
    (s.pollScene p k scene).history =
      scene.history ++ rounds p found s.waits.interval k := by
  induction k with
  | zero => exact (List.append_nil _).symm
  | succ k ih =>
    have hearlier := ih fun j hj => h j (by omega)
    have hlast : s.answer p k scene = found := h k (by omega)
    have hstep : s.pollScene p (k + 1) scene = s.pause (s.answered p k scene) :=
      polled_succ (s.ask p) s.pause k scene
    have hpause : (s.pause (s.answered p k scene)).history =
        (s.answered p k scene).history ++ [.paused s.waits.interval] := history_cons rfl
    rw [hstep, hpause, history_answered, hearlier, hlast, rounds_succ]
    simp

/-- **The record of a wait**: checks that find the state unchanged, and one that finds it changed if
the wait ended well. -/
theorem WaitEnds.exists_history {mounted : Bool} {result : Except Halt Unit}
    (h : s.WaitEnds p mounted scene (result, after)) :
    ∃ k, after.history = scene.history ++ (rounds p (!mounted) s.waits.interval k ++
      if result.isOk then [.asked p mounted] else []) := by
  cases h with
  | overflow deadline => exact ⟨0, by simp [rounds, Except.isOk, Except.toBool]⟩
  | changed k deadline earlier early answer =>
    refine ⟨k, ?_⟩
    show (s.answered p k scene).history = _
    rw [history_answered, history_pollScene earlier, answer, List.append_assoc]
    rfl
  | unchanged k deadline earlier early late =>
    refine ⟨k, ?_⟩
    show (s.pollScene p k scene).history = _
    rw [history_pollScene earlier]
    simp [Except.isOk, Except.toBool]

/-! ### Mounting -/

variable {location : Bytes} {requested : Option Path} {options : List Bytes} {wanted : Expectation}

theorem Launches.history {outcome : Except LaunchFault LaunchResult}
    (h : s.Launches location requested options wanted scene outcome after) :
    after.history = scene.history ++ [.made (s.mountpoint requested scene),
      .launched (s.tool.commandLine location (s.mountpoint requested scene) options)] := by
  cases h with
  | intro making launching => simp [Scene.history]

theorem exists_history_abandoned (p : Path) (scene : Scene τ) :
    ∃ events, (abandoned p scene).history = scene.history ++ events ∧
      (events = [] ∨ events = [.removed p]) := by
  unfold abandoned
  cases scene.files.removeDirectory p with
  | error cause => exact ⟨[], by simp, .inl rfl⟩
  | ok files => exact ⟨[.removed p], history_cons rfl, .inr rfl⟩

end Mounter

end RestoreCheck
