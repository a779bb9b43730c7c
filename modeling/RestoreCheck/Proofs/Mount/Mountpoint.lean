import Mathlib.Logic.Relation
import RestoreCheck.Proofs.Files.Entries
import RestoreCheck.Proofs.Mount.Runs

/-!
# What becomes of the mountpoint

A mounter changes the files itself in two ways only: it makes the mountpoint, and it removes it when
it is empty and nothing is mounted on it (`Mounter.Changes`).  A mountpoint that exists is refused
and left as it is, and a default one never exists; one that was made is removed again if mounting
fails, unless something is in it; and it is gone when a mount was undone (`MountpointRules`,
`Mounter.mountpointRules`).
-/

namespace RestoreCheck

open Relation (ReflTransGen)

/-- **An agent acts**, on the files and on what the agents remember. -/
inductive Agents.Acts {τ : Type} (a : Agents τ) : FileSystem × τ → FileSystem × τ → Prop where
  | launched (mode : LaunchMode) (line : CommandLine) (x : FileSystem × τ) :
      a.Acts x (a.launch mode line x.1 x.2).2
  | asked (p : Path) (x : FileSystem × τ) : a.Acts x (a.detect p x.1 x.2).2
  | unmounted (p : Path) (x : FileSystem × τ) : a.Acts x (a.unmount p x.1 x.2).2

namespace Mounter

variable {τ : Type} {s : Mounter τ} {p : Path} {scene after : Scene τ}

/-- **The files change** while a mounter works with a mountpoint. -/
inductive Changes (s : Mounter τ) (p : Path) : FileSystem × τ → FileSystem × τ → Prop where
  /-- an agent acts -/
  | acted {x y : FileSystem × τ} (acts : s.agents.Acts x y) : Changes s p x y
  /-- the mountpoint is made where nothing stands -/
  | made {files : FileSystem} {agents : τ} {d : Location} {n : Name}
      (leads : files.find .name p = .ok (.missing d n)) :
      Changes s p (files, agents) (files.addNode (n :: d) .directory 0o755, agents)
  /-- the mountpoint is removed with nothing in it or on it -/
  | removed {files : FileSystem} {agents : τ} {l : Location} (vacant : files.Vacant p l) :
      Changes s p (files, agents) (files.removeNames l, agents)

/-- The files and what the agents remember. -/
def ground (scene : Scene τ) : FileSystem × τ := (scene.files, scene.agents)

/-! ### Waiting -/

theorem acts_pollScene (p : Path) (k : Nat) (scene : Scene τ) :
    ReflTransGen s.agents.Acts (ground scene) (ground (s.pollScene p k scene)) := by
  induction k with
  | zero => exact .refl
  | succ k ih =>
    have hstep : s.pollScene p (k + 1) scene = s.pause (s.ask p (s.pollScene p k scene)).2 :=
      polled_succ (s.ask p) s.pause k scene
    rw [hstep]
    exact ih.tail (.asked p (ground (s.pollScene p k scene)))

theorem acts_answered (p : Path) (k : Nat) (scene : Scene τ) :
    ReflTransGen s.agents.Acts (ground scene) (ground (s.answered p k scene)) :=
  (acts_pollScene p k scene).tail (.asked p (ground (s.pollScene p k scene)))

/-- **Only agents act** while something is waited for. -/
theorem WaitEnds.acts {mounted : Bool} {result : Except Halt Unit}
    (h : s.WaitEnds p mounted scene (result, after)) :
    ReflTransGen s.agents.Acts (ground scene) (ground after) := by
  cases h with
  | overflow deadline => exact .refl
  | changed k deadline earlier early answer => exact acts_answered p k scene
  | unchanged k deadline earlier early late => exact acts_pollScene p k scene

theorem changes_of_acts {x y : FileSystem × τ} (h : ReflTransGen s.agents.Acts x y) (p : Path) :
    ReflTransGen (s.Changes p) x y :=
  h.lift id fun _ _ acts => .acted acts

/-! ### Undoing -/

theorem changes_of_removeDirectory {files files' : FileSystem} {agents : τ}
    (h : files.removeDirectory p = .ok files') : s.Changes p (files, agents) (files', agents) := by
  obtain ⟨l, n, hvacant, -, -, rfl⟩ := FileSystem.removeDirectory_eq_ok_iff.1 h
  exact .removed hvacant

theorem acts_unmount {files : FileSystem} {agents : τ} {answer : Except Fault Unit}
    (unmounting : s.agents.unmount p scene.files scene.agents = (answer, files, agents)) :
    s.agents.Acts (ground scene) (files, agents) := by
  have hunmount := Agents.Acts.unmounted (a := s.agents) p (ground scene)
  rwa [ground, unmounting] at hunmount

theorem acts_of_unmount {files : FileSystem} {agents : τ} {log : List MountEvent}
    {result : Except Halt Unit} {answer : Except Fault Unit}
    (unmounting : s.agents.unmount p scene.files scene.agents = (answer, files, agents))
    (wait : s.WaitEnds p false { scene with files, agents, log } (result, after)) :
    ReflTransGen s.agents.Acts (ground scene) (ground after) :=
  .head (acts_unmount unmounting) wait.acts

/-- Undoing changes the files like the agents do, and last it removes the mountpoint. -/
theorem UndoEnds.changes {result : Except Halt Unit} (h : s.UndoEnds p scene (result, after)) :
    ReflTransGen (s.Changes p) (ground scene) (ground after) := by
  cases h with
  | stuck unmounting => exact .single (.acted (acts_unmount unmounting))
  | held unmounting wait => exact changes_of_acts (acts_of_unmount unmounting wait) p
  | kept unmounting wait removing => exact changes_of_acts (acts_of_unmount unmounting wait) p
  | undone unmounting wait removing =>
    exact (changes_of_acts (acts_of_unmount unmounting wait) p).tail
      (changes_of_removeDirectory removing)

/-- Unless undoing comes as far as the mountpoint, only agents change the files. -/
theorem UndoEnds.acts {halt : Halt} (h : s.UndoEnds p scene (.error halt, after)) :
    ReflTransGen s.agents.Acts (ground scene) (ground after) := by
  cases h with
  | stuck unmounting => exact .single (acts_unmount unmounting)
  | held unmounting wait => exact acts_of_unmount unmounting wait
  | kept unmounting wait removing => exact acts_of_unmount unmounting wait

/-- **After a mount was undone** nothing is at its mountpoint. -/
theorem UndoEnds.status_eq (h : s.UndoEnds p scene (.ok (), after)) :
    after.files.status p = .error (.system .noEntry) := by
  cases h with
  | undone unmounting wait removing => exact FileSystem.status_of_removeDirectory removing

/-! ### Mounting -/

variable {location : Bytes} {requested : Option Path} {options : List Bytes} {wanted : Expectation}

/-- The file system in which a mountpoint was left behind, and the one in which it was found. -/
theorem abandoned_or (p : Path) (before : Scene τ) :
    ground (abandoned p before) = ground before ∧
        (∀ files, before.files.removeDirectory p ≠ .ok files) ∨
      ∃ files, before.files.removeDirectory p = .ok files ∧
        ground (abandoned p before) = (files, before.agents) := by
  unfold abandoned
  cases h : before.files.removeDirectory p with
  | error cause => exact .inl ⟨rfl, nofun⟩
  | ok files => exact .inr ⟨files, rfl, rfl⟩

theorem agents_abandoned (p : Path) (before : Scene τ) :
    (abandoned p before).agents = before.agents := by
  rcases abandoned_or p before with ⟨heq, -⟩ | ⟨files, -, heq⟩
  · exact congrArg Prod.snd heq
  · exact congrArg Prod.snd heq

theorem Launches.exists_made {outcome : Except LaunchFault LaunchResult} {launched : Scene τ}
    (h : s.Launches location requested options wanted scene outcome launched) :
    ∃ made, scene.files.makeDirectory (s.mountpoint requested scene) = .ok made ∧
      s.agents.Acts (made, scene.agents) (ground launched) := by
  cases h with
  | @intro made files agents outcome making launching =>
    have hlaunch := Agents.Acts.launched (a := s.agents) wanted.mode
      (s.tool.commandLine location (s.mountpoint requested scene) options) (made, scene.agents)
    rw [launching] at hlaunch
    exact ⟨made, making, hlaunch⟩

/-- **A mount that fails after its mountpoint was made** leaves the files as the agents do, and then
leaves the mountpoint behind. -/
theorem MountEnds.exists_abandoned {made : FileSystem} {cause : MountFault}
    (h : s.MountEnds location requested options wanted scene (.error (.fault cause), after))
    (hmade : scene.files.makeDirectory (s.mountpoint requested scene) = .ok made) :
    ∃ before, ReflTransGen s.agents.Acts (made, scene.agents) (ground before) ∧
      after = abandoned (s.mountpoint requested scene) before := by
  cases h with
  | refused making => cases hmade.symm.trans making
  | launched launch ends =>
    obtain ⟨made', hmade', hlaunch⟩ := launch.exists_made
    obtain rfl : made = made' := Except.ok.inj (hmade.symm.trans hmade')
    cases ends with
    | unlaunched | unexpected other => exact ⟨_, .single hlaunch, rfl⟩
    | late awaits wait => exact ⟨_, .head hlaunch wait.acts, rfl⟩

theorem MountEnds.changes {result : Except Halt HeldMount}
    (h : s.MountEnds location requested options wanted scene (result, after)) :
    ReflTransGen (s.Changes (s.mountpoint requested scene)) (ground scene) (ground after) := by
  have habandon (p : Path) (before : Scene τ) :
      ReflTransGen (s.Changes p) (ground before) (ground (abandoned p before)) := by
    rcases abandoned_or p before with ⟨heq, -⟩ | ⟨files, hremoved, heq⟩
    · rw [heq]
    · rw [heq]
      exact .single (changes_of_removeDirectory hremoved)
  cases h with
  | refused making => exact .refl
  | @launched _ launched _ launch ends =>
    obtain ⟨made, hmade, hlaunch⟩ := launch.exists_made
    obtain ⟨d, n, hfind, -, rfl⟩ := FileSystem.makeDirectory_eq_ok_iff.1 hmade
    have hlaunched : ReflTransGen (s.Changes (s.mountpoint requested scene)) (ground scene)
        (ground launched) := .head (.made hfind) (.single (.acted hlaunch))
    cases ends with
    | unlaunched | unexpected other => exact hlaunched.trans (habandon _ _)
    | failed expected => exact hlaunched
    | unwaited awaits wait | mounted awaits wait =>
      exact hlaunched.trans (changes_of_acts wait.acts _)
    | late awaits wait =>
      exact (hlaunched.trans (changes_of_acts wait.acts _)).trans (habandon _ _)

/-- The guard of a mount is for its mountpoint.  If it holds nothing, the files are as the command
left them. -/
theorem MountEnds.of_ok {g : HeldMount}
    (h : s.MountEnds location requested options wanted scene (.ok g, after)) :
    g.mountpoint = s.mountpoint requested scene ∧ (g.isMounted = false → ∃ code,
      s.Launches location requested options wanted scene (.ok (.exited code)) after) := by
  cases h with
  | launched launch ends =>
    cases ends with
    | failed expected => exact ⟨rfl, fun _ => ⟨_, launch⟩⟩
    | mounted awaits wait => exact ⟨rfl, nofun⟩

theorem run_mount_of_status {m : Meta} (h : scene.files.status p = .ok m) :
    (s.mount location (some p) options wanted).run scene =
      (.error (.fault (.mountpoint p (.system .alreadyExists))), scene) := by
  obtain ⟨l, hfind⟩ := FileSystem.exists_find_name_of_status h
  have hmaking : scene.files.makeDirectory (s.mountpoint (some p) scene) =
      .error (.system .alreadyExists) := FileSystem.makeDirectory_eq_error_of_existing hfind
  unfold mount
  exact run_bind_of_error (s.run_prepare_of_error hmaking)

/-! ### Default mountpoints -/

/-- A name that starts like that of a default mountpoint is none of the dots. -/
theorem ofName_of_stem_prefix {n : Name} (h : Bytes.ofString mountpointStem <+: n.bytes) :
    Path.Step.ofName n = .enter n := by
  have hhead : n.bytes.head? = some 0x66 := by
    obtain ⟨rest, hrest⟩ := h
    rw [← hrest, List.head?_append_of_ne_nil _ (by decide)]
    rfl
  have hdot : n ≠ .dot := by
    rintro rfl
    cases hhead
  have hdotDot : n ≠ .dotDot := by
    rintro rfl
    cases hhead
  unfold Path.Step.ofName
  rw [if_neg hdot, if_neg hdotDot]

/-- **Nothing stands at a default mountpoint** before it is made. -/
theorem status_defaultMountpoint_ne_ok {n : Nat} {files : FileSystem} {l : Location}
    (hl : files.locate .target s.agents.temp = .ok l) (m : Meta) :
    files.status (s.agents.defaultMountpoint n files) ≠ .ok m := by
  intro hm
  have hname := ofName_of_stem_prefix (s.agents.stem_prefix n files)
  exact s.agents.freshName_notMem hl (FileSystem.mem_children_of_status hl hname hm)

/-! ### The rules -/

/-- **What becomes of a mountpoint** that is left behind with the files `last`.  A vacant one is
removed if its directory may be changed, which it may if nothing but the mountpoint was changed
since that was made; any other stays. -/
structure LeftBehind (scene : Scene τ) (p : Path) (made last after : FileSystem) : Prop where
  removed_or_kept :
    (∃ l, last.Vacant p l ∧ after = last.removeNames l ∧
      after.status p = .error (.system .noEntry)) ∨
    after = last ∧ ∀ l, last.Vacant p l → last.changeable l.tail ≠ .ok ()
  removed : scene.files.IsTree → ∀ d n, scene.files.find .name p = .ok (.missing d n) →
    FileSystem.AlikeOutside (n :: d) made last → last.cwd = made.cwd → ∀ l, last.Vacant p l →
      after = last.removeNames (n :: d) ∧ after.status p = .error (.system .noEntry)

theorem leftBehind_abandoned {made : FileSystem} {before : Scene τ}
    (hmade : scene.files.makeDirectory p = .ok made) :
    LeftBehind scene p made before.files (abandoned p before).files := by
  -- The path of what was made ends in a name, as it must for something to be removed.
  obtain ⟨n, hlast⟩ := FileSystem.lastStep_of_makeDirectory hmade
  have hremove {l : Location} (hvacant : before.files.Vacant p l)
      (hchangeable : before.files.changeable l.tail = .ok ()) :
      before.files.removeDirectory p = .ok (before.files.removeNames l) :=
    FileSystem.removeDirectory_eq_ok_iff.2 ⟨l, n, hvacant, hlast, hchangeable, rfl⟩
  rcases abandoned_or p before with ⟨heq, hkept⟩ | ⟨files, hremoved, heq⟩
  · have hfiles : (abandoned p before).files = before.files := congrArg Prod.fst heq
    rw [hfiles]
    refine ⟨.inr ⟨rfl, fun l hvacant hchangeable => hkept _ (hremove hvacant hchangeable)⟩, ?_⟩
    intro htree d n hfind halike hcwd l hvacant
    obtain ⟨rfl, hchangeable⟩ := hvacant.of_makeDirectory htree hfind hmade halike hcwd
    exact absurd (hremove hvacant hchangeable) (hkept _)
  · have hfiles : (abandoned p before).files = files := congrArg Prod.fst heq
    have hstatus := FileSystem.status_of_removeDirectory hremoved
    obtain ⟨l, _, hvacant, -, -, hnames⟩ := FileSystem.removeDirectory_eq_ok_iff.1 hremoved
    rw [hfiles]
    refine ⟨.inl ⟨l, hvacant, hnames, hstatus⟩, ?_⟩
    intro htree d n hfind halike hcwd k hk
    obtain ⟨rfl, -⟩ := hvacant.of_makeDirectory htree hfind hmade halike hcwd
    exact ⟨hnames, hstatus⟩

end Mounter

/-- The end of a guard changes the files as undoing does, if it changes them at all. -/
theorem Mounter.changes_of_end {τ : Type} (s : Mounter τ) (g : HeldMount) (scene : Scene τ) :
    ReflTransGen (s.Changes g.mountpoint) (ground scene) (ground ((s.finish g).run scene).2) ∧
      ReflTransGen (s.Changes g.mountpoint) (ground scene) (ground ((s.drop g).run scene).2) := by
  by_cases hstate : g.state = .mounted
  · have hundo := (s.undoEnds_undo g.mountpoint scene).changes
    rw [s.run_finish hstate scene, s.run_drop hstate scene]
    exact ⟨hundo, hundo⟩
  · rw [s.run_finish_of_ne hstate scene, s.run_drop_of_ne hstate scene]
    exact ⟨.refl, .refl⟩

/-- **The life of a mountpoint.** -/
structure MountpointRules {τ : Type} (s : Mounter τ) : Prop where
  /-- Whatever stands at the path that is asked for is in the way, and stays as it is. -/
  refused : ∀ location options wanted (scene : Scene τ) (p : Path) (m : Meta),
    scene.files.status p = .ok m →
    (s.mount location (some p) options wanted).run scene =
      (.error (.fault (.mountpoint p (.system .alreadyExists))), scene)
  /-- A mountpoint that nobody asks for is a new name among the temporary files. -/
  fresh : ∀ (scene : Scene τ) (l : Location),
    scene.files.locate .target s.agents.temp = .ok l →
    (∃ n : Name, Bytes.ofString Mounter.mountpointStem <+: n.bytes ∧
      s.mountpoint none scene = s.agents.temp.join n.bytes) ∧
    ∀ m, scene.files.status (s.mountpoint none scene) ≠ .ok m
  /-- If mounting fails after the mountpoint was made, the agents may have done anything to it, and
  then it is left behind. -/
  abandoned : ∀ location requested options wanted (scene after : Scene τ) (cause : MountFault)
      (made : FileSystem),
    scene.files.makeDirectory (s.mountpoint requested scene) = .ok made →
    (s.mount location requested options wanted).run scene = (.error (.fault cause), after) →
    ∃ last, Relation.ReflTransGen s.agents.Acts (made, scene.agents) (last, after.agents) ∧
      Mounter.LeftBehind scene (s.mountpoint requested scene) made last after.files
  /-- A command that fails as it should leaves the mountpoint as it likes, and its guard does
  nothing to that. -/
  failed : ∀ location requested options wanted (scene after : Scene τ) (g : HeldMount),
    (s.mount location requested options wanted).run scene = (.ok g, after) →
    g.isMounted = false →
    (∃ code, s.Launches location requested options wanted scene (.ok (.exited code)) after) ∧
      ∀ later, (s.finish g).run later = (.ok (), later) ∧ (s.drop g).run later = (.ok (), later)
  /-- After a mount was undone nothing is at its mountpoint. -/
  undone : ∀ (scene after : Scene τ) (g : HeldMount), g.isMounted = true →
    (s.finish g).run scene = (.ok (), after) →
    after.files.status g.mountpoint = .error (.system .noEntry)
  /-- If undoing fails, only agents have changed the files. -/
  kept : ∀ (scene after : Scene τ) (g : HeldMount) (halt : Halt), g.isMounted = true →
    (s.finish g).run scene = (.error halt, after) →
    Relation.ReflTransGen s.agents.Acts (Mounter.ground scene) (Mounter.ground after) ∧
      ((s.drop g).run scene).2 = after
  /-- Mounting changes the files as agents do, or makes or removes the mountpoint. -/
  changes_mount : ∀ location requested options wanted (scene : Scene τ),
    Relation.ReflTransGen (s.Changes (s.mountpoint requested scene)) (Mounter.ground scene)
      (Mounter.ground ((s.mount location requested options wanted).run scene).2)
  /-- So does the end of a guard. -/
  changes_end : ∀ (scene : Scene τ) (g : HeldMount),
    Relation.ReflTransGen (s.Changes g.mountpoint) (Mounter.ground scene)
        (Mounter.ground ((s.finish g).run scene).2) ∧
      Relation.ReflTransGen (s.Changes g.mountpoint) (Mounter.ground scene)
        (Mounter.ground ((s.drop g).run scene).2)
  /-- And so does running a body on a mount, but for what the body does. -/
  changes_while : ∀ {α : Type} location requested options wanted
      (body : Path → FileSystem → τ → Option α × FileSystem × τ) (scene : Scene τ),
    let p := s.mountpoint requested scene
    ∃ x y, Relation.ReflTransGen (s.Changes p) (Mounter.ground scene) x ∧
      (y = x ∨ y = (body p x.1 x.2).2) ∧
      Relation.ReflTransGen (s.Changes p) y
        (Mounter.ground ((s.whileMounted location requested options wanted body).run scene).2)

/-- **Every mounter keeps to the rules.** -/
theorem Mounter.mountpointRules {τ : Type} (s : Mounter τ) : MountpointRules s where
  refused location options wanted scene p m h := run_mount_of_status h
  fresh scene l hl :=
    ⟨⟨s.agents.freshName scene.drawn scene.files, s.agents.stem_prefix _ _, rfl⟩,
      status_defaultMountpoint_ne_ok hl⟩
  abandoned location requested options wanted scene after cause made hmade hrun := by
    have hmount := s.mountEnds_mount location requested options wanted scene
    rw [hrun] at hmount
    obtain ⟨before, hacts, rfl⟩ := hmount.exists_abandoned hmade
    rw [agents_abandoned]
    exact ⟨before.files, hacts, leftBehind_abandoned hmade⟩
  failed location requested options wanted scene after g hrun hg := by
    have hmount := s.mountEnds_mount location requested options wanted scene
    rw [hrun] at hmount
    have hstate : g.state ≠ .mounted := by simpa [HeldMount.isMounted] using hg
    exact ⟨hmount.of_ok.2 hg, fun later =>
      ⟨s.run_finish_of_ne hstate later, s.run_drop_of_ne hstate later⟩⟩
  undone scene after g hg hrun := by
    have hundo := s.undoEnds_undo g.mountpoint scene
    rw [← s.run_finish (by simpa [HeldMount.isMounted] using hg) scene, hrun] at hundo
    exact hundo.status_eq
  kept scene after g halt hg hrun := by
    have hstate : g.state = .mounted := by simpa [HeldMount.isMounted] using hg
    have hundo := s.undoEnds_undo g.mountpoint scene
    have hfinish := s.run_finish hstate scene
    rw [hrun] at hfinish
    rw [← hfinish] at hundo
    refine ⟨hundo.acts, ?_⟩
    rw [s.run_drop hstate scene, ← hfinish]
  changes_mount location requested options wanted scene :=
    (s.mountEnds_mount location requested options wanted scene).changes
  changes_end scene g := s.changes_of_end g scene
  changes_while location requested options wanted body scene := by
    have hmount := s.mountEnds_mount location requested options wanted scene
    have hwhile := s.whileEnds_whileMounted location requested options wanted body scene
    generalize (s.whileMounted location requested options wanted body).run scene = ending
      at hwhile ⊢
    cases hwhile with
    | unmounted mount =>
      rw [mount] at hmount
      exact ⟨_, _, hmount.changes, .inl rfl, .refl⟩
    | @returned g held after a files agents result mount run finish =>
      rw [mount] at hmount
      refine ⟨ground held, (files, agents), hmount.changes, .inr ?_, ?_⟩
      · rw [← hmount.of_ok.1, ground, run]
      · have hend := (s.changes_of_end g
          { held with files, agents, log := .ran g.mountpoint :: held.log }).1
        rwa [finish, hmount.of_ok.1] at hend
    | @unwound g held after files agents result mount run drop =>
      rw [mount] at hmount
      refine ⟨ground held, (files, agents), hmount.changes, .inr ?_, ?_⟩
      · rw [← hmount.of_ok.1, ground, run]
      · have hend := (s.changes_of_end g
          { held with files, agents, log := .ran g.mountpoint :: held.log }).2
        rwa [drop, hmount.of_ok.1] at hend

end RestoreCheck
