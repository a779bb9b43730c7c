import RestoreCheck.Mount.Lifecycle
import RestoreCheck.Proofs.Actions
import RestoreCheck.Proofs.Time.Waiting

/-!
# How mounting and undoing go

For every action of a mounter one inductive type lists all its ways to end, each with what the
agents did on that way, the result, and the scene that is left: `Mounter.WaitEnds`,
`Mounter.UndoEnds`, `Mounter.MountEnds` and `Mounter.WhileEnds`.  The action ends in one of them
(`waitEnds_waitFor`, `undoEnds_undo`, `mountEnds_mount`, `whileEnds_whileMounted`).  Finishing and
dropping a guard are undoing, or nothing (`run_finish`, `run_drop`).
-/

namespace RestoreCheck

/-- Whether a mount is waited for after its command was launched: a command that was expected to
fail, and did, leaves nothing to wait for. -/
inductive Expectation.Awaits (wanted : Expectation) : LaunchResult → Prop where
  | detached : Awaits wanted .detached
  | exited (h : wanted.expected ≠ .error) : Awaits wanted (.exited (some wanted.expected.code))

namespace Mounter

variable {τ : Type} (s : Mounter τ) (p : Path)

/-! ### Waiting -/

/-- The scene before poll number `k`, if no earlier poll ends the wait. -/
def pollScene (k : Nat) (scene : Scene τ) : Scene τ :=
  polled (s.ask p) s.pause k scene

/-- What the detector answers in poll number `k`. -/
def answer (k : Nat) (scene : Scene τ) : Bool :=
  (s.ask p (s.pollScene p k scene)).1

/-- The scene after poll number `k`. -/
def answered (k : Nat) (scene : Scene τ) : Scene τ :=
  (s.ask p (s.pollScene p k scene)).2

/-- The deadline of a wait that begins in a scene, if the clock can show it. -/
def deadline? (scene : Scene τ) : Option Nat :=
  Clock.deadline? ((s.agents.clock scene.waited).reading 0) s.waits.timeout

/-- When poll number `k` of a wait that begins in a scene is due. -/
def pollTime (k : Nat) (scene : Scene τ) : Nat :=
  (s.agents.clock scene.waited).reading (k + 1)

/-- The direction of a wait. -/
def direction (mounted : Bool) : Direction :=
  if mounted then .mount else .unmount

/-- **How a wait ends.**  Without a deadline it does not begin; else it ends with the first poll
that finds the state wanted, or when the time of a poll is past the deadline. -/
inductive WaitEnds (mounted : Bool) (scene : Scene τ) : Except Halt Unit × Scene τ → Prop where
  | overflow (deadline : s.deadline? scene = none) :
      WaitEnds mounted scene (.error .overflow, scene)
  | changed {d : Nat} (k : Nat) (deadline : s.deadline? scene = some d)
      (earlier : ∀ j < k, s.answer p j scene = !mounted) (early : s.pollTime k scene < d)
      (answer : s.answer p k scene = mounted) :
      WaitEnds mounted scene (.ok (), { s.answered p k scene with waited := scene.waited + 1 })
  | unchanged {d : Nat} (k : Nat) (deadline : s.deadline? scene = some d)
      (earlier : ∀ j < k, s.answer p j scene = !mounted)
      (early : ∀ j < k, s.pollTime j scene < d) (late : d ≤ s.pollTime k scene) :
      WaitEnds mounted scene (.error (.fault (.timeout (direction mounted) p s.waits.timeout)),
        { s.pollScene p k scene with waited := scene.waited + 1 })

theorem polled_check (mounted : Bool) (k : Nat) (scene : Scene τ) :
    polled (s.check p mounted) s.pause k scene = s.pollScene p k scene := by
  induction k generalizing scene with
  | zero => rfl
  | succ k ih => exact ih (s.pause (s.ask p scene).2)

theorem waitEnds_waitFor (mounted : Bool) (scene : Scene τ) :
    s.WaitEnds p mounted scene ((s.waitFor p mounted).run scene) := by
  have hget : (get : Mounting τ (Scene τ)).run scene = (.ok scene, scene) := rfl
  have huntil : waitUntil (s.agents.clock scene.waited) s.waits.timeout (s.check p mounted) s.pause
      scene = (s.deadline? scene).map fun d =>
        waitFrom (s.agents.clock scene.waited) d (s.check p mounted) s.pause 1 scene := rfl
  unfold waitFor
  rw [run_bind_of_ok hget, huntil]
  cases hdeadline : s.deadline? scene with
  | none => exact .overflow hdeadline
  | some d =>
    rw [Option.map_some]
    have hwait := waitsTo_waitFrom (s.agents.clock scene.waited) d (s.check p mounted) s.pause 1
      scene
    -- A check asks the detector and compares, so the scenes of its polls are those of the wait.
    have hcheck (k : Nat) : s.check p mounted (polled (s.check p mounted) s.pause k scene) =
        (s.answer p k scene == mounted, s.answered p k scene) := by
      rw [polled_check]
      rfl
    have hearlier {k : Nat}
        (h : ∀ j < k, (s.check p mounted (polled (s.check p mounted) s.pause j scene)).1 = false) :
        ∀ j < k, s.answer p j scene = !mounted := by
      intro j hj
      have hne := h j hj
      rw [hcheck] at hne
      exact Bool.eq_not.2 (by simpa using hne)
    have htime (k : Nat) : (s.agents.clock scene.waited).reading (1 + k) = s.pollTime k scene := by
      rw [Nat.add_comm]
      rfl
    generalize waitFrom (s.agents.clock scene.waited) d (s.check p mounted) s.pause 1 scene = w
      at hwait ⊢
    cases hwait with
    | held k fails early holds =>
      rw [hcheck] at holds ⊢
      rw [htime] at early
      exact .changed k hdeadline (hearlier fails) early (by simpa using holds)
    | late k fails early late =>
      rw [htime] at late
      simp only [htime] at early
      rw [polled_check]
      exact .unchanged k hdeadline (hearlier fails) early late

/-! ### Undoing -/

theorem run_act {α : Type} {f : FileSystem → τ → α × FileSystem × τ} (scene : Scene τ) {a : α}
    {files : FileSystem} {agents : τ} (h : f scene.files scene.agents = (a, files, agents)) :
    (act f).run scene = (.ok a, { scene with files, agents }) := by
  have hrun : (act f).run scene = (.ok (f scene.files scene.agents).1,
      { scene with files := (f scene.files scene.agents).2.1
                   agents := (f scene.files scene.agents).2.2 }) := rfl
  rw [hrun, h]

theorem run_note (e : MountEvent) (scene : Scene τ) :
    (note e).run scene = (.ok (), { scene with log := e :: scene.log }) := rfl

theorem run_removeDirectory_of_error {scene : Scene τ} {cause : Fault}
    (h : scene.files.removeDirectory p = .error cause) :
    (removeDirectory p).run scene = (.ok (.error cause), scene) := by
  have hget : (get : Mounting τ (Scene τ)).run scene = (.ok scene, scene) := rfl
  unfold removeDirectory
  rw [run_bind_of_ok hget, h]
  rfl

theorem run_removeDirectory_of_ok {scene : Scene τ} {files : FileSystem}
    (h : scene.files.removeDirectory p = .ok files) :
    (removeDirectory p).run scene =
      (.ok (.ok ()), { scene with files, log := .removed p :: scene.log }) := by
  have hget : (get : Mounting τ (Scene τ)).run scene = (.ok scene, scene) := rfl
  unfold removeDirectory
  rw [run_bind_of_ok hget, h]
  rfl

/-- **How undoing ends**: with the first of its steps that fails, or well after the last. -/
inductive UndoEnds (scene : Scene τ) : Except Halt Unit × Scene τ → Prop where
  | stuck {cause : Fault} {files : FileSystem} {agents : τ}
      (unmounting : s.agents.unmount p scene.files scene.agents = (.error cause, files, agents)) :
      UndoEnds scene (.error (.fault (.unmount p cause)),
        { scene with files, agents, log := .unmounted p :: scene.log })
  | held {files : FileSystem} {agents : τ} {halt : Halt} {after : Scene τ}
      (unmounting : s.agents.unmount p scene.files scene.agents = (.ok (), files, agents))
      (wait : s.WaitEnds p false { scene with files, agents, log := .unmounted p :: scene.log }
        (.error halt, after)) :
      UndoEnds scene (.error halt, after)
  | kept {files : FileSystem} {agents : τ} {waited : Scene τ} {cause : Fault}
      (unmounting : s.agents.unmount p scene.files scene.agents = (.ok (), files, agents))
      (wait : s.WaitEnds p false { scene with files, agents, log := .unmounted p :: scene.log }
        (.ok (), waited))
      (removing : waited.files.removeDirectory p = .error cause) :
      UndoEnds scene (.error (.fault (.cleanup p cause)), waited)
  | undone {files files' : FileSystem} {agents : τ} {waited : Scene τ}
      (unmounting : s.agents.unmount p scene.files scene.agents = (.ok (), files, agents))
      (wait : s.WaitEnds p false { scene with files, agents, log := .unmounted p :: scene.log }
        (.ok (), waited))
      (removing : waited.files.removeDirectory p = .ok files') :
      UndoEnds scene (.ok (), { waited with
        files := files', log := .paused s.waits.grace :: .removed p :: waited.log })

theorem undoEnds_undo (scene : Scene τ) : s.UndoEnds p scene ((s.undo p).run scene) := by
  unfold undo
  rw [run_bind_of_ok (run_note (.unmounted p) scene)]
  obtain ⟨answer, files, agents, hunmount⟩ : ∃ answer files agents,
    s.agents.unmount p scene.files scene.agents = (answer, files, agents) := ⟨_, _, _, rfl⟩
  rw [run_bind_of_ok (run_act { scene with log := .unmounted p :: scene.log } hunmount)]
  cases answer with
  | error cause => exact .stuck hunmount
  | ok u =>
    have hwait := s.waitEnds_waitFor p false
      { scene with files, agents, log := .unmounted p :: scene.log }
    rcases hrun : (s.waitFor p false).run
      { scene with files, agents, log := .unmounted p :: scene.log } with ⟨result, waited⟩
    rw [hrun] at hwait
    cases result with
    | error halt =>
      dsimp only
      rw [run_bind_of_error hrun]
      exact .held hunmount hwait
    | ok u =>
      dsimp only
      rw [run_bind_of_ok hrun]
      cases hremove : waited.files.removeDirectory p with
      | error cause =>
        rw [run_bind_of_ok (run_removeDirectory_of_error p hremove)]
        exact .kept hunmount hwait hremove
      | ok files' =>
        rw [run_bind_of_ok (run_removeDirectory_of_ok p hremove)]
        exact .undone hunmount hwait hremove

/-! ### Mounting -/

theorem run_makeDirectory_of_error (scene : Scene τ) {refusal : Fault → MountFault} {cause : Fault}
    (h : scene.files.makeDirectory p = .error cause) :
    (makeDirectory p refusal).run scene = (.error (.fault (refusal cause)), scene) := by
  have hget : (get : Mounting τ (Scene τ)).run scene = (.ok scene, scene) := rfl
  unfold makeDirectory
  rw [run_bind_of_ok hget, h]
  rfl

theorem run_makeDirectory_of_ok (scene : Scene τ) {refusal : Fault → MountFault}
    {files : FileSystem} (h : scene.files.makeDirectory p = .ok files) :
    (makeDirectory p refusal).run scene =
      (.ok (), { scene with files, log := .made p :: scene.log }) := by
  have hget : (get : Mounting τ (Scene τ)).run scene = (.ok scene, scene) := rfl
  unfold makeDirectory
  rw [run_bind_of_ok hget, h]
  rfl

/-- The scene after a mountpoint was left behind: it is removed unless something is in it. -/
def abandoned (scene : Scene τ) : Scene τ :=
  match scene.files.removeDirectory p with
  | .error _ => scene
  | .ok files => { scene with files, log := .removed p :: scene.log }

theorem run_abandon (scene : Scene τ) : (abandon p).run scene = (.ok (), abandoned p scene) := by
  unfold abandon abandoned
  cases h : scene.files.removeDirectory p with
  | error cause =>
    rw [run_bind_of_ok (run_removeDirectory_of_error p h)]
    rfl
  | ok files =>
    rw [run_bind_of_ok (run_removeDirectory_of_ok p h)]
    rfl

/-- Where a mount is made: on the mountpoint that is asked for, or on the next default one. -/
def mountpoint (requested : Option Path) (scene : Scene τ) : Path :=
  requested.getD (s.agents.defaultMountpoint scene.drawn scene.files)

/-- The scene after the name of the mountpoint was settled. -/
def named (requested : Option Path) (scene : Scene τ) : Scene τ where
  files := scene.files
  agents := scene.agents
  waited := scene.waited
  drawn :=
    match requested with
    | some _ => scene.drawn
    | none => scene.drawn + 1
  log := scene.log

/-- The fault of a mountpoint that cannot be made.  A default one is not named by itself. -/
def refusal (requested : Option Path) (scene : Scene τ) (cause : Fault) : MountFault :=
  match requested with
  | some p => .mountpoint p cause
  | none => .mountpoint s.agents.temp (located (s.mountpoint none scene) cause)

theorem run_prepare_of_error {requested : Option Path} {scene : Scene τ} {cause : Fault}
    (h : scene.files.makeDirectory (s.mountpoint requested scene) = .error cause) :
    (s.prepare requested).run scene =
      (.error (.fault (s.refusal requested scene cause)), named requested scene) := by
  unfold prepare
  cases requested with
  | some p => exact run_bind_of_error (run_makeDirectory_of_error p scene h)
  | none =>
    have hget : (get : Mounting τ (Scene τ)).run scene = (.ok scene, scene) := rfl
    have hdraw : (modify fun scene => { scene with drawn := scene.drawn + 1 } :
      Mounting τ Unit).run scene = (.ok (), named none scene) := rfl
    dsimp only
    rw [run_bind_of_ok hget, run_bind_of_ok hdraw]
    exact run_bind_of_error (run_makeDirectory_of_error _ (named none scene) h)

theorem run_prepare_of_ok {requested : Option Path} {scene : Scene τ} {files : FileSystem}
    (h : scene.files.makeDirectory (s.mountpoint requested scene) = .ok files) :
    (s.prepare requested).run scene = (.ok (s.mountpoint requested scene),
      { named requested scene with
        files, log := .made (s.mountpoint requested scene) :: scene.log }) := by
  unfold prepare
  cases requested with
  | some p => exact run_bind_of_ok (run_makeDirectory_of_ok p scene h)
  | none =>
    have hget : (get : Mounting τ (Scene τ)).run scene = (.ok scene, scene) := rfl
    have hdraw : (modify fun scene => { scene with drawn := scene.drawn + 1 } :
      Mounting τ Unit).run scene = (.ok (), named none scene) := rfl
    dsimp only
    rw [run_bind_of_ok hget, run_bind_of_ok hdraw]
    exact run_bind_of_ok (run_makeDirectory_of_ok _ (named none scene) h)

variable (location : Bytes) (requested : Option Path) (options : List Bytes)
  (wanted : Expectation)

/-- **A mountpoint is made and the command is launched on it**, with some outcome. -/
inductive Launches (scene : Scene τ) : Except LaunchFault LaunchResult → Scene τ → Prop where
  | intro {made files : FileSystem} {agents : τ} {outcome : Except LaunchFault LaunchResult}
      (making : scene.files.makeDirectory (s.mountpoint requested scene) = .ok made)
      (launching : s.agents.launch wanted.mode
        (s.tool.commandLine location (s.mountpoint requested scene) options) made scene.agents =
          (outcome, files, agents)) :
      Launches scene outcome { named requested scene with
        files, agents
        log := .launched (s.tool.commandLine location (s.mountpoint requested scene) options) ::
            .made (s.mountpoint requested scene) :: scene.log }

/-- **How mounting ends after a launch.**  A command that could not be launched, or ended in another
way than expected, is all; and one that failed as it should leaves nothing to wait for. -/
inductive LaunchEnds (p : Path) (launched : Scene τ) :
    Except LaunchFault LaunchResult → Except Halt HeldMount × Scene τ → Prop where
  | unlaunched {cause : LaunchFault} :
      LaunchEnds p launched (.error cause)
        (.error (.fault (.launch cause)), abandoned p launched)
  | unexpected {code : Option Int} (other : code ≠ some wanted.expected.code) :
      LaunchEnds p launched (.ok (.exited code))
        (.error (.fault (.unexpectedExit wanted.expected code)), abandoned p launched)
  | failed (expected : wanted.expected = .error) :
      LaunchEnds p launched (.ok (.exited (some wanted.expected.code)))
        (.ok ⟨p, .failed⟩, launched)
  | unwaited {result : LaunchResult} {after : Scene τ} (awaits : wanted.Awaits result)
      (wait : s.WaitEnds p true launched (.error .overflow, after)) :
      LaunchEnds p launched (.ok result) (.error .overflow, after)
  | late {result : LaunchResult} {after : Scene τ} {cause : MountFault}
      (awaits : wanted.Awaits result)
      (wait : s.WaitEnds p true launched (.error (.fault cause), after)) :
      LaunchEnds p launched (.ok result) (.error (.fault cause), abandoned p after)
  | mounted {result : LaunchResult} {after : Scene τ} (awaits : wanted.Awaits result)
      (wait : s.WaitEnds p true launched (.ok (), after)) :
      LaunchEnds p launched (.ok result) (.ok ⟨p, .mounted⟩, after)

/-- **How mounting ends.** -/
inductive MountEnds (scene : Scene τ) : Except Halt HeldMount × Scene τ → Prop where
  | refused {cause : Fault}
      (making : scene.files.makeDirectory (s.mountpoint requested scene) = .error cause) :
      MountEnds scene
        (.error (.fault (s.refusal requested scene cause)), named requested scene)
  | launched {outcome : Except LaunchFault LaunchResult} {launched : Scene τ}
      {ending : Except Halt HeldMount × Scene τ}
      (launch : s.Launches location requested options wanted scene outcome launched)
      (ends : s.LaunchEnds wanted (s.mountpoint requested scene) launched outcome ending) :
      MountEnds scene ending

theorem launchEnds_of_awaits (p : Path) (launched : Scene τ) {result : LaunchResult}
    (awaits : wanted.Awaits result) :
    s.LaunchEnds wanted p launched (.ok result) (ExceptT.run (do
      tryCatch (s.waitFor p true) fun halt => do
        if let .fault _ := halt then
          abandon p
        throw halt
      return ⟨p, .mounted⟩) launched) := by
  have hwait := s.waitEnds_waitFor p true launched
  rcases hrun : (s.waitFor p true).run launched with ⟨r, after⟩
  rw [hrun] at hwait
  cases r with
  | ok u =>
    rw [run_bind_of_ok (run_tryCatch_of_ok hrun)]
    exact .mounted awaits hwait
  | error halt =>
    cases halt with
    | overflow =>
      rw [run_bind_of_error ((run_tryCatch_of_error hrun).trans rfl)]
      exact .unwaited awaits hwait
    | fault cause =>
      have habandon := run_bind_of_ok (f := fun () => (throw (.fault cause) : Mounting τ Unit))
        (run_abandon p after)
      rw [run_bind_of_error ((run_tryCatch_of_error hrun).trans habandon)]
      exact .late awaits hwait

theorem mountEnds_mount (scene : Scene τ) :
    s.MountEnds location requested options wanted scene
      ((s.mount location requested options wanted).run scene) := by
  unfold mount
  cases making : scene.files.makeDirectory (s.mountpoint requested scene) with
  | error cause =>
    rw [run_bind_of_error (s.run_prepare_of_error making)]
    exact .refused making
  | ok made =>
    rw [run_bind_of_ok (s.run_prepare_of_ok making)]
    dsimp only
    rw [run_bind_of_ok (run_note _ _)]
    rcases launching : s.agents.launch wanted.mode
      (s.tool.commandLine location (s.mountpoint requested scene) options) made scene.agents with
      ⟨outcome, files, agents⟩
    refine .launched (.intro making launching) ?_
    rw [run_bind_of_ok (run_act _ launching)]
    cases outcome with
    | error cause =>
      dsimp only
      rw [run_bind_of_ok (run_abandon _ _)]
      exact .unlaunched
    | ok result =>
      cases result with
      | detached => exact s.launchEnds_of_awaits wanted _ _ .detached
      | exited code =>
        dsimp only
        by_cases hcode : code = some wanted.expected.code
        · rw [if_neg (not_not_intro hcode)]
          subst hcode
          by_cases hexpected : wanted.expected = .error
          · rw [if_pos hexpected]
            exact .failed hexpected
          · rw [if_neg hexpected]
            exact s.launchEnds_of_awaits wanted _ _ (.exited hexpected)
        · rw [if_pos hcode, run_bind_of_ok (run_abandon _ _)]
          exact .unexpected hcode

/-! ### Ending a guard -/

theorem run_drop_of_ne {g : HeldMount} (h : g.state ≠ .mounted) (scene : Scene τ) :
    (s.drop g).run scene = (.ok (), scene) := by
  unfold drop
  cases hstate : g.state with
  | mounted => exact absurd hstate h
  | failed => rfl
  | finished => rfl

theorem run_finish_of_ne {g : HeldMount} (h : g.state ≠ .mounted) (scene : Scene τ) :
    (s.finish g).run scene = (.ok (), scene) := by
  unfold finish
  cases hstate : g.state with
  | mounted => exact absurd hstate h
  | failed => exact s.run_drop_of_ne h scene
  | finished => exact s.run_drop_of_ne h scene

/-- **Finishing undoes the mount once**: when the guard is dropped after that it is no longer in the
state to undo anything. -/
theorem run_finish {g : HeldMount} (h : g.state = .mounted) (scene : Scene τ) :
    (s.finish g).run scene = (s.undo g.mountpoint).run scene := by
  rcases hrun : (s.undo g.mountpoint).run scene with ⟨result, after⟩
  have hdrop : (s.drop { g with state := .finished }).run after = (.ok (), after) :=
    s.run_drop_of_ne (by simp) after
  unfold finish
  rw [h]
  exact run_tryFinally hrun hdrop

/-- What is seen of undoing where its faults are not. -/
def unseen : Except Halt Unit → Except Halt Unit
  | .error .overflow => .error .overflow
  | _ => .ok ()

theorem run_drop {g : HeldMount} (h : g.state = .mounted) (scene : Scene τ) :
    (s.drop g).run scene = (unseen ((s.undo g.mountpoint).run scene).1,
      ((s.undo g.mountpoint).run scene).2) := by
  rcases hrun : (s.undo g.mountpoint).run scene with ⟨result, after⟩
  unfold drop
  rw [h]
  cases result with
  | ok u => exact run_tryCatch_of_ok hrun
  | error halt =>
    refine (run_tryCatch_of_error hrun).trans ?_
    cases halt <;> rfl

/-! ### Running a body -/

variable {α : Type} (body : Path → FileSystem → τ → Option α × FileSystem × τ)

/-- **How running a body on a mount ends.**  A mount that fails is all that happens.  Else the body
runs, and then the guard is finished, or dropped if the body was unwound. -/
inductive WhileEnds (scene : Scene τ) : Except Halt (Option α) × Scene τ → Prop where
  | unmounted {halt : Halt} {after : Scene τ}
      (mount : (s.mount location requested options wanted).run scene = (.error halt, after)) :
      WhileEnds scene (.error halt, after)
  | returned {g : HeldMount} {held after : Scene τ} {a : α} {files : FileSystem} {agents : τ}
      {result : Except Halt Unit}
      (mount : (s.mount location requested options wanted).run scene = (.ok g, held))
      (run : body g.mountpoint held.files held.agents = (some a, files, agents))
      (finish : (s.finish g).run { held with files, agents, log := .ran g.mountpoint :: held.log } =
        (result, after)) :
      WhileEnds scene (result.map fun () => some a, after)
  | unwound {g : HeldMount} {held after : Scene τ} {files : FileSystem} {agents : τ}
      {result : Except Halt Unit}
      (mount : (s.mount location requested options wanted).run scene = (.ok g, held))
      (run : body g.mountpoint held.files held.agents = (none, files, agents))
      (drop : (s.drop g).run { held with files, agents, log := .ran g.mountpoint :: held.log } =
        (result, after)) :
      WhileEnds scene (result.map fun () => none, after)

theorem whileEnds_whileMounted (scene : Scene τ) :
    s.WhileEnds location requested options wanted body scene
      ((s.whileMounted location requested options wanted body).run scene) := by
  unfold whileMounted
  rcases hmount : (s.mount location requested options wanted).run scene with ⟨outcome, held⟩
  cases outcome with
  | error halt =>
    rw [run_bind_of_error hmount]
    exact .unmounted hmount
  | ok g =>
    rw [run_bind_of_ok hmount, run_bind_of_ok (run_note _ _)]
    rcases hbody : body g.mountpoint held.files held.agents with ⟨answer, files, agents⟩
    rw [run_bind_of_ok (run_act { held with log := .ran g.mountpoint :: held.log } hbody)]
    cases answer with
    | some a =>
      dsimp only
      rcases hfinish : (s.finish g).run
        { held with files, agents, log := .ran g.mountpoint :: held.log } with ⟨result, after⟩
      have hreturned := WhileEnds.returned hmount hbody hfinish
      cases result with
      | error halt =>
        rw [run_bind_of_error hfinish]
        exact hreturned
      | ok u =>
        rw [run_bind_of_ok hfinish]
        exact hreturned
    | none =>
      dsimp only
      rcases hdrop : (s.drop g).run
        { held with files, agents, log := .ran g.mountpoint :: held.log } with ⟨result, after⟩
      have hunwound := WhileEnds.unwound hmount hbody hdrop
      cases result with
      | error halt =>
        rw [run_bind_of_error hdrop]
        exact hunwound
      | ok u =>
        rw [run_bind_of_ok hdrop]
        exact hunwound

end Mounter

end RestoreCheck
