import RestoreCheck.Proofs.Mount.Events

/-!
# Undoing a mount once

A mount that is held is undone once, however the guard's life ends, and nothing else is ever undone
(`Mounter.undone_once`).  `Teardown` lists what undoing may do: it unmounts, waits, removes the
mountpoint and pauses, and the first of these that fails is the last.
-/

namespace RestoreCheck

open MountEvent

/-- **What undoing a mount does**, by the result that it gives. -/
inductive Teardown (p : Path) (w : Waits) : Except Halt Unit → List MountEvent → Prop where
  /-- unmounting fails -/
  | stuck (cause : Fault) : Teardown p w (.error (.fault (.unmount p cause))) [.unmounted p]
  /-- no wait can begin -/
  | unwaited : Teardown p w (.error .overflow) [.unmounted p]
  /-- something stays mounted -/
  | held (k : Nat) : Teardown p w (.error (.fault (.timeout .unmount p w.timeout)))
      (.unmounted p :: rounds p true w.interval k)
  /-- the mountpoint cannot be removed -/
  | kept (k : Nat) (cause : Fault) : Teardown p w (.error (.fault (.cleanup p cause)))
      (.unmounted p :: (rounds p true w.interval k ++ [.asked p false]))
  /-- all goes well -/
  | undone (k : Nat) : Teardown p w (.ok ())
      (.unmounted p :: (rounds p true w.interval k ++ [.asked p false] ++
        [.removed p, .paused w.grace]))

/-- Unmounting is the first that undoing does, and it does so once. -/
theorem Teardown.exists_quiet {p : Path} {w : Waits} {result : Except Halt Unit}
    {events : List MountEvent} (h : Teardown p w result events) :
    ∃ rest, events = .unmounted p :: rest ∧ Quiet rest := by
  cases h with
  | stuck cause => exact ⟨[], rfl, rfl, rfl⟩
  | unwaited => exact ⟨[], rfl, rfl, rfl⟩
  | held k => exact ⟨_, rfl, quiet_rounds⟩
  | kept k cause => exact ⟨_, rfl, quiet_rounds.append ⟨rfl, rfl⟩⟩
  | undone k => exact ⟨_, rfl, (quiet_rounds.append ⟨rfl, rfl⟩).append ⟨rfl, rfl⟩⟩

theorem Teardown.unmounted_eq {p : Path} {w : Waits} {result : Except Halt Unit}
    {events : List MountEvent} (h : Teardown p w result events) :
    Stand.unmounted events = [p] := by
  obtain ⟨rest, rfl, hrest⟩ := h.exists_quiet
  show p :: Stand.unmounted rest = [p]
  rw [hrest.unmounted]

theorem Teardown.bodies_eq {p : Path} {w : Waits} {result : Except Halt Unit}
    {events : List MountEvent} (h : Teardown p w result events) : bodies events = [] := by
  obtain ⟨rest, rfl, hrest⟩ := h.exists_quiet
  exact hrest.bodies

namespace Mounter

variable {τ : Type} {s : Mounter τ} {scene after : Scene τ}

/-! ### Undoing -/

/-- A wait that fails cannot begin, or ends without a change. -/
theorem WaitEnds.exists_rounds_of_error {p : Path} {mounted : Bool} {halt : Halt}
    (h : s.WaitEnds p mounted scene (.error halt, after)) :
    (halt = .overflow ∧ after = scene) ∨
      halt = .fault (.timeout (direction mounted) p s.waits.timeout) ∧
        ∃ k, after.history = scene.history ++ rounds p (!mounted) s.waits.interval k := by
  obtain ⟨k, hk⟩ := h.exists_history
  cases h with
  | overflow deadline => exact .inl ⟨rfl, rfl⟩
  | unchanged n deadline earlier early late =>
    rw [Except.isOk, Except.toBool, if_neg Bool.false_ne_true, List.append_nil] at hk
    exact .inr ⟨rfl, k, hk⟩

theorem UndoEnds.exists_teardown {p : Path} {result : Except Halt Unit}
    (h : s.UndoEnds p scene (result, after)) :
    ∃ events, after.history = scene.history ++ events ∧ Teardown p s.waits result events := by
  -- What follows unmounting is put behind it.
  have hunmounted {files : FileSystem} {agents : τ} {after : Scene τ} {events : List MountEvent}
      (h : after.history = Scene.history
        { scene with files, agents, log := .unmounted p :: scene.log } ++ events) :
      after.history = scene.history ++ .unmounted p :: events := by
    rw [h, Scene.history, Scene.history, List.reverse_cons, List.append_assoc]
    rfl
  cases h with
  | stuck unmounting => exact ⟨[.unmounted p], history_cons rfl, .stuck _⟩
  | held unmounting wait =>
    rcases wait.exists_rounds_of_error with ⟨rfl, rfl⟩ | ⟨rfl, k, hk⟩
    · exact ⟨[.unmounted p], history_cons rfl, .unwaited⟩
    · exact ⟨_, hunmounted hk, .held k⟩
  | kept unmounting wait removing =>
    obtain ⟨k, hk⟩ := wait.exists_history
    exact ⟨_, hunmounted hk, .kept k _⟩
  | @undone files files' agents waited unmounting wait removing =>
    obtain ⟨k, hk⟩ := wait.exists_history
    have hlast : Scene.history { waited with
        files := files', log := .paused s.waits.grace :: .removed p :: waited.log } =
        waited.history ++ [.removed p, .paused s.waits.grace] := by
      simp [Scene.history]
    refine ⟨_, ?_, .undone k⟩
    rw [hlast, hunmounted hk, List.append_assoc]
    rfl

/-- **The end of a guard that holds a mount.**  Finishing and dropping do the same, which is undoing
the mount; only finishing tells how it went. -/
theorem exists_teardown (s : Mounter τ) {g : HeldMount} (h : g.state = .mounted) (scene : Scene τ) :
    ∃ result after events,
      s.UndoEnds g.mountpoint scene (result, after) ∧
        after.history = scene.history ++ events ∧
        Teardown g.mountpoint s.waits result events ∧
        (s.finish g).run scene = (result, after) ∧
        (s.drop g).run scene = (unseen result, after) := by
  have hundo := s.undoEnds_undo g.mountpoint scene
  have hfinish := s.run_finish h scene
  have hdrop := s.run_drop h scene
  rcases hrun : (s.undo g.mountpoint).run scene with ⟨result, after⟩
  rw [hrun] at hundo hfinish hdrop
  obtain ⟨events, hhistory, hteardown⟩ := hundo.exists_teardown
  exact ⟨result, after, events, hundo, hhistory, hteardown, hfinish, hdrop⟩

theorem exists_history_of_end {g : HeldMount} {result : Except Halt Unit}
    (h : (s.finish g).run scene = (result, after) ∨ (s.drop g).run scene = (result, after)) :
    ∃ events, after.history = scene.history ++ events ∧ bodies events = [] ∧
      Stand.unmounted events = if g.isMounted then [g.mountpoint] else [] := by
  by_cases hstate : g.state = .mounted
  · obtain ⟨result', after', events, -, hhistory, hteardown, hfinish, hdrop⟩ :=
      s.exists_teardown hstate scene
    obtain rfl : after' = after := by
      rcases h with h | h
      · exact congrArg Prod.snd (hfinish.symm.trans h)
      · exact congrArg Prod.snd (hdrop.symm.trans h)
    refine ⟨events, hhistory, hteardown.bodies_eq, ?_⟩
    rw [hteardown.unmounted_eq, if_pos (by simp [HeldMount.isMounted, hstate])]
  · obtain rfl : scene = after := by
      rcases h with h | h
      · exact congrArg Prod.snd ((s.run_finish_of_ne hstate scene).symm.trans h)
      · exact congrArg Prod.snd ((s.run_drop_of_ne hstate scene).symm.trans h)
    refine ⟨[], (List.append_nil _).symm, rfl, ?_⟩
    rw [if_neg (by simp [HeldMount.isMounted, hstate])]
    rfl

/-! ### Mounting -/

variable {location : Bytes} {requested : Option Path} {options : List Bytes} {wanted : Expectation}

/-- The mounter whose agents have something unmounted in another way. -/
def unmountingBy (s : Mounter τ)
    (unmount : Path → FileSystem → τ → Except Fault Unit × FileSystem × τ) : Mounter τ :=
  { s with agents := { s.agents with unmount } }

variable {unmount : Path → FileSystem → τ → Except Fault Unit × FileSystem × τ}

theorem waitFor_unmountingBy (p : Path) (mounted : Bool) :
    (s.unmountingBy unmount).waitFor p mounted = s.waitFor p mounted := by
  have hcheck : (s.unmountingBy unmount).check p mounted = s.check p mounted := rfl
  have hpause : (s.unmountingBy unmount).pause = s.pause := rfl
  have hclock : (s.unmountingBy unmount).agents.clock = s.agents.clock := rfl
  have hwaits : (s.unmountingBy unmount).waits = s.waits := rfl
  unfold waitFor
  rw [hcheck, hpause, hclock, hwaits]

/-- **Mounting does not depend on how something is unmounted.** -/
theorem mount_unmountingBy :
    (s.unmountingBy unmount).mount location requested options wanted =
      s.mount location requested options wanted := by
  have hprepare : (s.unmountingBy unmount).prepare requested = s.prepare requested := rfl
  have hlaunch : (s.unmountingBy unmount).agents.launch = s.agents.launch := rfl
  have htool : (s.unmountingBy unmount).tool = s.tool := rfl
  unfold mount
  simp only [hprepare, hlaunch, htool, waitFor_unmountingBy]

/-- What was recorded between two scenes is quiet. -/
def Quietly (before after : Scene τ) : Prop :=
  ∃ events, after.history = before.history ++ events ∧ Quiet events

theorem Quietly.trans {waited : Scene τ} (h : Quietly scene waited) (h' : Quietly waited after) :
    Quietly scene after := by
  obtain ⟨events, hhistory, hquiet⟩ := h
  obtain ⟨events', hhistory', hquiet'⟩ := h'
  exact ⟨_, hhistory'.trans (by rw [hhistory, List.append_assoc]), hquiet.append hquiet'⟩

theorem WaitEnds.quietly {p : Path} {mounted : Bool} {result : Except Halt Unit}
    (h : s.WaitEnds p mounted scene (result, after)) : Quietly scene after := by
  obtain ⟨k, hk⟩ := h.exists_history
  refine ⟨_, hk, quiet_rounds.append ?_⟩
  cases result with
  | error halt | ok u => exact ⟨rfl, rfl⟩

theorem quietly_abandoned (p : Path) (before : Scene τ) : Quietly before (abandoned p before) := by
  obtain ⟨last, hlast, rfl | rfl⟩ := exists_history_abandoned p before
  · exact ⟨_, hlast, rfl, rfl⟩
  · exact ⟨_, hlast, rfl, rfl⟩

/-- Mounting is quiet, and a mount that failed as it should was not asked about. -/
theorem MountEnds.exists_quiet {result : Except Halt HeldMount}
    (h : s.MountEnds location requested options wanted scene (result, after)) :
    ∃ events, after.history = scene.history ++ events ∧ Quiet events ∧
      ∀ g, result = .ok g → g.state = .mounted ∨ g.state = .failed ∧ Stand.asked events = [] := by
  cases h with
  | refused making => exact ⟨[], (List.append_nil _).symm, ⟨rfl, rfl⟩, nofun⟩
  | @launched _ launched _ launch ends =>
    have hlaunch : Quietly scene launched := ⟨_, launch.history, rfl, rfl⟩
    cases ends with
    | unlaunched | unexpected other =>
      obtain ⟨events, hhistory, hquiet⟩ := hlaunch.trans (quietly_abandoned _ _)
      exact ⟨events, hhistory, hquiet, nofun⟩
    | failed expected =>
      refine ⟨_, launch.history, ⟨rfl, rfl⟩, ?_⟩
      rintro g ⟨⟩
      exact .inr ⟨rfl, rfl⟩
    | unwaited awaits wait =>
      obtain ⟨events, hhistory, hquiet⟩ := hlaunch.trans wait.quietly
      exact ⟨events, hhistory, hquiet, nofun⟩
    | late awaits wait =>
      obtain ⟨events, hhistory, hquiet⟩ :=
        (hlaunch.trans wait.quietly).trans (quietly_abandoned _ _)
      exact ⟨events, hhistory, hquiet, nofun⟩
    | mounted awaits wait =>
      obtain ⟨events, hhistory, hquiet⟩ := hlaunch.trans wait.quietly
      refine ⟨events, hhistory, hquiet, ?_⟩
      rintro g ⟨⟩
      exact .inl rfl

/-! ### Running a body -/

/-- **A body runs once if the mount is there**, also if it failed as it should, and not at all
else.  Then the mount is undone once, if there is one. -/
theorem WhileEnds.exists_history {α : Type}
    {body : Path → FileSystem → τ → Option α × FileSystem × τ} {result : Except Halt (Option α)}
    (h : s.WhileEnds location requested options wanted body scene (result, after)) :
    ∃ events, after.history = scene.history ++ events ∧
      match ((s.mount location requested options wanted).run scene).1 with
      | .error _ => Quiet events
      | .ok g => bodies events = [g.mountpoint] ∧
          Stand.unmounted events = if g.isMounted then [g.mountpoint] else [] := by
  have hmount := s.mountEnds_mount location requested options wanted scene
  -- The mount and the body come before the end of the guard.
  have hran {g : HeldMount} {held after : Scene τ} {files : FileSystem} {agents : τ}
      {result : Except Halt Unit} {events : List MountEvent}
      (hheld : held.history = scene.history ++ events) (hquiet : Quiet events)
      (hend : (s.finish g).run { held with files, agents, log := .ran g.mountpoint :: held.log } =
          (result, after) ∨
        (s.drop g).run { held with files, agents, log := .ran g.mountpoint :: held.log } =
          (result, after)) :
      ∃ events, after.history = scene.history ++ events ∧ bodies events = [g.mountpoint] ∧
        Stand.unmounted events = if g.isMounted then [g.mountpoint] else [] := by
    obtain ⟨rest, hrest, hbodies, hunmounted⟩ := exists_history_of_end hend
    have hbody : Scene.history { held with files, agents, log := .ran g.mountpoint :: held.log } =
        held.history ++ [.ran g.mountpoint] := history_cons rfl
    refine ⟨events ++ [.ran g.mountpoint] ++ rest, ?_, ?_, ?_⟩
    · rw [hrest, hbody, hheld, List.append_assoc, List.append_assoc, List.append_assoc]
    · rw [bodies_append, bodies_append, hquiet.bodies, hbodies]
      rfl
    · rw [unmounted_append, unmounted_append, hquiet.unmounted, hunmounted]
      rfl
  cases h with
  | unmounted mount =>
    rw [mount] at hmount ⊢
    obtain ⟨events, hhistory, hquiet, -⟩ := hmount.exists_quiet
    exact ⟨events, hhistory, hquiet⟩
  | returned mount run finish =>
    rw [mount] at hmount ⊢
    obtain ⟨events, hhistory, hquiet, -⟩ := hmount.exists_quiet
    exact hran hhistory hquiet (.inl finish)
  | unwound mount run drop =>
    rw [mount] at hmount ⊢
    obtain ⟨events, hhistory, hquiet, -⟩ := hmount.exists_quiet
    exact hran hhistory hquiet (.inr drop)

end Mounter

/-- **A mount that is held is undone once**, however its guard ends, and nothing else is undone.
A guard that holds a mount undoes it (`Mounter.UndoEnds`), and dropping differs from finishing only
in that it does not tell of faults; what was done is a `Teardown`.  A guard that holds none does
nothing.  Mounting never has anything unmounted, whatever the unmounting would be.  A body runs once
if mounting succeeds and not at all else, and its value is given exactly if finishing succeeds
(`Mounter.WhileEnds`). -/
theorem Mounter.undone_once {τ : Type} (s : Mounter τ) :
    (∀ (g : HeldMount) (scene : Scene τ), g.state = .mounted → ∃ result after events,
      s.UndoEnds g.mountpoint scene (result, after) ∧ after.history = scene.history ++ events ∧
        Teardown g.mountpoint s.waits result events ∧ Stand.unmounted events = [g.mountpoint] ∧
        (s.finish g).run scene = (result, after) ∧
        (s.drop g).run scene = (unseen result, after)) ∧
    (∀ (g : HeldMount) (scene : Scene τ), g.state ≠ .mounted →
      (s.finish g).run scene = (.ok (), scene) ∧ (s.drop g).run scene = (.ok (), scene)) ∧
    (∀ location requested options wanted scene,
      (∀ unmount, (s.unmountingBy unmount).mount location requested options wanted =
        s.mount location requested options wanted) ∧
      ∃ result after events,
        (s.mount location requested options wanted).run scene = (result, after) ∧
          after.history = scene.history ++ events ∧ Quiet events ∧
          ∀ g, result = .ok g → g.state = .mounted ∨ g.state = .failed ∧ Stand.asked events = []) ∧
    ∀ {α : Type} location requested options wanted
        (body : Path → FileSystem → τ → Option α × FileSystem × τ) scene,
      ∃ result after events,
        (s.whileMounted location requested options wanted body).run scene = (result, after) ∧
          s.WhileEnds location requested options wanted body scene (result, after) ∧
          after.history = scene.history ++ events ∧
          match ((s.mount location requested options wanted).run scene).1 with
          | .error _ => Quiet events
          | .ok g => bodies events = [g.mountpoint] ∧
              Stand.unmounted events = if g.isMounted then [g.mountpoint] else [] := by
  refine ⟨fun g scene hstate => ?_, fun g scene hstate => ?_, ?_, ?_⟩
  · obtain ⟨result, after, events, hundo, hhistory, hteardown, hends⟩ :=
      s.exists_teardown hstate scene
    exact ⟨result, after, events, hundo, hhistory, hteardown, hteardown.unmounted_eq, hends⟩
  · exact ⟨s.run_finish_of_ne hstate scene, s.run_drop_of_ne hstate scene⟩
  · intro location requested options wanted scene
    refine ⟨fun unmount => mount_unmountingBy, ?_⟩
    have hmount := s.mountEnds_mount location requested options wanted scene
    rcases hrun : (s.mount location requested options wanted).run scene with ⟨result, after⟩
    rw [hrun] at hmount
    obtain ⟨events, hhistory, hquiet, hguard⟩ := hmount.exists_quiet
    exact ⟨result, after, events, rfl, hhistory, hquiet, hguard⟩
  · intro α location requested options wanted body scene
    have hwhile := s.whileEnds_whileMounted location requested options wanted body scene
    rcases hrun : (s.whileMounted location requested options wanted body).run scene with
      ⟨result, after⟩
    rw [hrun] at hwhile
    obtain ⟨events, hhistory, hevents⟩ := hwhile.exists_history
    exact ⟨result, after, events, rfl, hwhile, hhistory, hevents⟩

end RestoreCheck
