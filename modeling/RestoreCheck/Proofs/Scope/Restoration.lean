import RestoreCheck.Proofs.Scope.Scenario

/-!
# Scopes restore the process

However scopes are nested, and however each of them ends, variables and the working directory are
restored (`Scenario.restores_process`): every guard is given back once; a variable that a scope
lists has its last override inside, and afterwards what it was before; and after the scope of a
directory the working directory is the previous one.  A scenario that changes nothing outside of
guards leaves the process as it found it.

The previous working directory must be found again, by its path.  If that has become too long, the
scope ends somewhere else although the directory is still there (`Scenario.strands_of_long`).
-/

namespace RestoreCheck

/-! ### Working directories -/

theorem WorkingDirectory.restore_of_stands {fs : FileSystem} {l : Location} (h : fs.Stands l) :
    WorkingDirectory.restore (FileSystem.pathTo l) fs = { fs with cwd := some l } := by
  rw [restore, FileSystem.changeDirectory_of_stands h]
  rfl

theorem WorkingDirectory.restore_of_long {fs : FileSystem} {p : Path}
    (h : Path.limit ≤ p.length) : WorkingDirectory.restore p fs = fs := by
  obtain ⟨f, hf⟩ : ∃ f, fs.changeDirectory p = .error f := FileSystem.changeDirectory_of_long h
  rw [restore, hf]
  rfl

/-! ### What holds in every run -/

/-- Scopes were left as they are meant to be: no variable could not be set, and every directory
stands to which a scope goes back. -/
structure Restorable (history : List ScopeEvent) : Prop where
  assigned : ∀ vars b a, .refused (.environment vars) b a ∉ history
  stands : ∀ n path b a b' a' l, .entered n (.directory path) b a ∈ history →
    .left n b' a' ∈ history → b.files.cwd = some l → b'.files.Stands l

/-- **What guards do to a process**, in a run from a state. -/
structure Course.Restores (t : Course) (p : Process) : Prop where
  /-- The history accounts for the whole run: guards nest. -/
  accounts : Accounts 0 p t.history t.guards t.process
  /-- No guard is taken twice, -/
  entered_once : ∀ n, t.history.countP (·.enters n) ≤ 1
  /-- and what is taken is given back, once. -/
  left_once : ∀ n, t.history.countP (·.leaves n) = t.history.countP (·.enters n)
  /-- Inside, a listed variable is what its last override says, and no other one is touched. -/
  environment_entered : ∀ n vars b a, .entered n (.environment vars) b a ∈ t.history →
    a.files = b.files ∧ ∀ key, a.environment key =
      (Environment.lastOverride? vars key).getD (b.environment key)
  /-- Only an override that cannot be made prevents that. -/
  environment_refused : ∀ vars b a, .refused (.environment vars) b a ∈ t.history →
    ∃ e ∈ vars, Environment.isAssignable e.1 e.2 = false
  /-- Afterwards a listed variable is what it was before, and no other one is touched. -/
  environment_left : ∀ n vars b a b' a', .entered n (.environment vars) b a ∈ t.history →
    .left n b' a' ∈ t.history → a'.files = b'.files ∧
      (∀ key ∈ vars.map Prod.fst, a'.environment key = b.environment key) ∧
      ∀ key, key ∉ vars.map Prod.fst → a'.environment key = b'.environment key
  /-- Inside, the working directory is the one that was named. -/
  directory_entered : ∀ n path b a, .entered n (.directory path) b a ∈ t.history →
    ∃ l, b.files.locate .target path = .ok l ∧ a = { b with files.cwd := some l }
  /-- A directory that cannot be entered changes nothing. -/
  directory_refused : ∀ path b a, .refused (.directory path) b a ∈ t.history → a = b
  /-- Afterwards the working directory is the previous one, and nothing else is touched. -/
  directory_left : ∀ n path b a b' a', .entered n (.directory path) b a ∈ t.history →
    .left n b' a' ∈ t.history → ∃ l, b.files.cwd = some l ∧
      (b'.files.Stands l → a' = { b' with files.cwd := some l })

/-- **Histories restore.** -/
theorem Accounts.restores_of {p : Process} {t : Course}
    (h : Accounts 0 p t.history t.guards t.process) : t.Restores p where
  accounts := h
  entered_once n := by
    rw [(h.count n).1]
    split <;> omega
  left_once n := by rw [(h.count n).1, (h.count n).2]
  environment_entered n vars b a hin := by
    obtain ⟨restore, henters⟩ := h.enters hin
    cases henters with
    | environment hsaved => exact ⟨rfl, Environment.environment_override hsaved⟩
  environment_refused vars b a hmem := by
    cases h.refuses hmem with
    | environment hsaved =>
      have hnot : ¬∀ e ∈ vars, Environment.isAssignable e.1 e.2 = true := by
        intro hall
        obtain ⟨saved, hsome⟩ := Environment.exists_saved_iff.2 hall
        rw [hsaved] at hsome
        cases hsome
      simpa using hnot
  environment_left n vars b a b' a' hin hout := by
    obtain ⟨restore, henters, rfl⟩ := h.restores hin hout
    cases henters with
    | environment hsaved =>
      exact ⟨rfl, fun key => Environment.restore_of_mem hsaved,
        fun key => Environment.restore_of_notMem hsaved⟩
  directory_entered n path b a hin := by
    obtain ⟨restore, henters⟩ := h.enters hin
    cases henters with
    | directory hcwd hfiles =>
      obtain ⟨l, hlocate, rfl⟩ := FileSystem.exists_locate_of_changeDirectory hfiles
      exact ⟨l, hlocate, rfl⟩
  directory_refused path b a hmem := by
    cases h.refuses hmem with
    | directory => rfl
  directory_left n path b a b' a' hin hout := by
    obtain ⟨restore, henters, rfl⟩ := h.restores hin hout
    cases henters with
    | directory hcwd hfiles =>
      obtain ⟨l, hl, rfl⟩ := FileSystem.exists_cwd_of_cwdPath hcwd
      refine ⟨l, hl, fun hstands => ?_⟩
      show Process.inFiles (WorkingDirectory.restore (FileSystem.pathTo l)) b' = _
      rw [Process.inFiles, WorkingDirectory.restore_of_stands hstands]

/-! ### Scenarios of scopes only -/

/-- **A scenario that changes nothing outside of guards.** -/
def Scenario.OnlyScopes : Scenario → Prop
  | done | unwind => True
  | act change next => (∀ p, change p = p) ∧ ∀ p, (next p).OnlyScopes
  | within _ _ body refused next => body.OnlyScopes ∧ refused.OnlyScopes ∧ next.OnlyScopes
  | catching body next => body.OnlyScopes ∧ next.OnlyScopes

theorem Restorable.of_subset {all part : List ScopeEvent} (h : Restorable all)
    (hsub : ∀ e ∈ part, e ∈ all) : Restorable part where
  assigned vars b a hmem := h.assigned vars b a (hsub _ hmem)
  stands n path b a b' a' l hin hout :=
    h.stands n path b a b' a' l (hsub _ hin) (hsub _ hout)

/-- What is restored in the state that a scope was entered with is the state before. -/
theorem Scope.Enters.restore_self {scope : Scope} {b a : Process} {restore : Process → Process}
    (h : scope.Enters b a restore)
    (hstands : ∀ path l, scope = .directory path → b.files.cwd = some l → a.files.Stands l) :
    restore a = b := by
  cases h with
  | environment hsaved =>
    rw [Process.inEnvironment, Environment.restore_override hsaved]
  | @directory path previous _ files hcwd hfiles =>
    obtain ⟨l, hl, rfl⟩ := FileSystem.exists_cwd_of_cwdPath hcwd
    have hreturn := WorkingDirectory.restore_of_stands (hstands path l rfl hl)
    obtain ⟨k, -, rfl⟩ := FileSystem.exists_locate_of_changeDirectory hfiles
    rw [Process.inFiles, hreturn, ← hl]

/-- A scope whose body leaves the state as it was in the beginning does so as well. -/
theorem Course.process_leave {s t u : Course} {scope : Scope} {p' : Process}
    {restore : Process → Process} (h : scope.Enters s.process p' restore)
    (hbody : (s.inside scope p').Follows t) (hprocess : t.process = p')
    (hu : (t.leave s.guards restore).Follows u) (hr : Restorable u.history) :
    (t.leave s.guards restore).process = s.process := by
  have hin : .entered s.guards scope s.process p' ∈ u.history :=
    hu.mem_history <| List.mem_append_left _ <| hbody.mem_history <|
      List.mem_append_right _ List.mem_cons_self
  have hout : .left s.guards t.process (restore t.process) ∈ u.history :=
    hu.mem_history <| List.mem_append_right _ List.mem_cons_self
  show restore t.process = s.process
  rw [hprocess] at hout ⊢
  refine h.restore_self fun path l hscope hl => ?_
  subst hscope
  exact hr.stands s.guards path s.process p' p' (restore p') l hin hout hl

/-- A scope that is refused leaves the state as it was, if every variable can be set. -/
theorem Course.process_refuse {s u : Course} {scope : Scope} {p' : Process}
    (h : scope.Refuses s.process p') (hu : (s.refuse scope p').Follows u)
    (hr : Restorable u.history) : (s.refuse scope p').process = s.process := by
  have hrefused : .refused scope s.process p' ∈ u.history :=
    hu.mem_history <| List.mem_append_right _ List.mem_cons_self
  cases h with
  | environment hsaved => exact absurd hrefused (hr.assigned _ _ _)
  | directory => rfl

/-- **What is changed in scopes only is as it was** at the end. -/
theorem Scenario.process_run {scenario : Scenario} (h : scenario.OnlyScopes) {s : Course}
    (hr : Restorable (scenario.run s).2.history) : (scenario.run s).2.process = s.process := by
  induction scenario generalizing s with
  | done => rfl
  | unwind => rfl
  | act change next ih => exact (ih _ (h.2 _) hr).trans (h.1 s.process)
  | within scope guardEnd body refused next ihBody ihRefused ihNext =>
    rw [run] at hr ⊢
    rcases scope.enter_eq s.process with ⟨restore, p', henter, henters⟩ | ⟨cause, p', henter, hno⟩
    · rw [Course.bracket_of_enter henter] at hr ⊢
      have hfollows := body.follows_run (s.inside scope p')
      have hscope {u : Course} (hr : Restorable u.history)
          (hu : ((body.run (s.inside scope p')).2.leave s.guards restore).Follows u) :
          ((body.run (s.inside scope p')).2.leave s.guards restore).process = s.process := by
        have hbody := hr.of_subset fun e he => hu.mem_history (List.mem_append_left _ he)
        exact Course.process_leave henters hfollows (ihBody h.1 hbody) hu hr
      cases hend : (body.run (s.inside scope p')).1 with
      | finished r =>
        rw [hend] at hr
        exact (ihNext h.2.2 hr).trans (hscope hr (next.follows_run _))
      | unwound =>
        rw [hend] at hr
        exact hscope hr (.refl _)
    · rw [Course.bracket_of_refuse henter] at hr ⊢
      cases cause with
      | unwinding => exact Course.process_refuse hno (.refl _) hr
      | fault cause =>
        exact (ihRefused h.2.1 hr).trans (Course.process_refuse hno (refused.follows_run _) hr)
  | catching body next ihBody ihNext =>
    have hbody := hr.of_subset fun e he => (next.follows_run (body.run s).2).mem_history he
    exact (ihNext h.2 hr).trans (ihBody h.1 hbody)

/-- **What a scenario does to its process**, in a run from a state. -/
structure Scenario.Restores (scenario : Scenario) (p : Process) (t : Course) : Prop
    extends t.Restores p where
  /-- If it changes nothing outside of guards, the state is as it was. -/
  unchanged : scenario.OnlyScopes → Restorable t.history → t.process = p

/-- **Scopes restore the process**, in every scenario. -/
theorem Scenario.restores_process (scenario : Scenario) (p : Process) :
    scenario.Restores p (scenario.run (.start p)).2 := by
  obtain ⟨new, hnew, haccounts⟩ := scenario.follows_run (.start p)
  have hhistory : (scenario.run (.start p)).2.history = new := hnew
  rw [← hhistory] at haccounts
  exact ⟨haccounts.restores_of, fun honly hr => process_run honly hr⟩

/-- A variable is overridden twice and unset in an inner scope that is unwound: it is not set, as in
the beginning. -/
example :
    let inner : Scenario := .within (.environment [([0x41], none)]) .dropped .unwind .done .done
    let outer : Scenario :=
      .within (.environment [([0x41], some [0x61]), ([0x41], some [0x62])]) .released inner .done
        .done
    (outer.run (.start ⟨.empty, .empty ⟨0, 0⟩⟩)).2.process.environment [0x41] = none :=
  rfl

/-! ### A directory that lies too deep -/

namespace FileSystem

/-- The directory at some depth of a chain. -/
def chainNode (k : Nat) : Node :=
  { kind := .directory, device := 1, number := k.toUInt64 + 1, permissions := 0o755, uid := 0,
    gid := 0, accessed := ⟨0, 0⟩, modified := ⟨0, 0⟩, born := ⟨0, 0⟩, xattrs := .empty,
    nodump := false }

/-- Directories of one name in each other, the innermost of which is the working directory. -/
def chain (n : Name) (depth : Nat) : FileSystem where
  names := (List.range (depth + 1)).map fun k => (List.replicate k n, k)
  nodes := (Array.range (depth + 1)).map chainNode
  cwd := some (List.replicate depth n)
  now := ⟨0, 0⟩
  earliest := []

variable {n : Name} {depth k : Nat} {l : Location}

theorem index?_chain (hk : k ≤ depth) :
    (chain n depth).index? (List.replicate k n) = some k := by
  have hfind : ((List.range (depth + 1)).find?
      fun j => decide (List.replicate j n = List.replicate k n)) = some k := by
    rw [List.find?_range_eq_some]
    refine ⟨decide_eq_true rfl, List.mem_range.2 (by omega), fun j hj => ?_⟩
    have hne : List.replicate j n ≠ List.replicate k n := fun heq => by
      have hlength := congrArg List.length heq
      rw [List.length_replicate, List.length_replicate] at hlength
      omega
    simp [hne]
  rw [index?, chain, List.find?_map]
  show (Option.map _ ((List.range (depth + 1)).find? fun j =>
    decide (List.replicate j n = List.replicate k n))).map Prod.snd = some k
  rw [hfind]
  rfl

/-- Every directory of a chain can be entered. -/
theorem enterable_chain (h : l <:+ List.replicate depth n) :
    (chain n depth).enterable l = .ok () := by
  obtain ⟨hlength, hl⟩ := List.suffix_replicate_iff.1 h
  rw [hl]
  have hnode : (chain n depth).node? (List.replicate l.length n) = some (chainNode l.length) := by
    have hsize : l.length < (Array.range (depth + 1)).size := by
      rw [Array.size_range]
      omega
    rw [node?, index?_chain hlength]
    show ((Array.range (depth + 1)).map chainNode)[l.length]? = _
    rw [Array.getElem?_map, Array.getElem?_eq_getElem hsize, Array.getElem_range]
    rfl
  have hsearch : (chainNode l.length).grants .search = true := by
    show decide ((0o755 : UInt32) &&& 0o100 ≠ 0) = true
    decide
  rw [enterable, hnode]
  dsimp only
  rw [hsearch]
  rfl

/-- The path of the innermost directory grows with every name. -/
theorem length_pathTo_replicate (hdepth : 0 < depth) :
    (pathTo (List.replicate depth n)).length = depth * (n.bytes.length + 1) := by
  have hne : List.replicate depth n ≠ [] := by
    rw [Ne, List.replicate_eq_nil_iff]
    omega
  rw [pathTo_of_ne_nil hne, List.reverse_replicate, List.length_flatMap, List.map_replicate,
    List.sum_replicate_nat, List.length_cons]

end FileSystem

namespace Scenario

/-- The root is entered, and nothing is done there. -/
def visitRoot : Scenario :=
  .within (.directory [slash]) .dropped .done .done .done

/-- **A scope that ends somewhere else** although the previous working directory is still there, and
can be entered with all directories above it. -/
def Strands (scenario : Scenario) (p : Process) : Prop :=
  ∃ n path b a b' a' l, .entered n (.directory path) b a ∈ (scenario.run (.start p)).2.history ∧
    .left n b' a' ∈ (scenario.run (.start p)).2.history ∧ b.files.cwd = some l ∧
    (∀ k, k <:+ l → b'.files.enterable k = .ok ()) ∧ a'.files.cwd ≠ some l

/-- The history of a scope without a body. -/
theorem history_visitRoot {p p' : Process} {restore : Process → Process}
    (h : (Scope.directory [slash]).enter p = (.ok (.new () fun _ => restore), p')) :
    (visitRoot.run (.start p)).2.history =
      [.entered 0 (.directory [slash]) p p', .left 0 p' (restore p')] := by
  rw [visitRoot, run, Course.bracket_of_enter h]
  rfl

/-- A working directory whose path is too long is not found again. -/
theorem strands_of_long {n : Name} {depth : Nat} {env : Environment} (hdepth : 0 < depth)
    (hlong : Path.limit ≤ depth * (n.bytes.length + 1)) :
    visitRoot.Strands ⟨env, .chain n depth⟩ := by
  have henterable {k : Location} (hk : k <:+ List.replicate depth n) :
      (FileSystem.chain n depth).enterable k = .ok () := FileSystem.enterable_chain hk
  have hroot : (FileSystem.chain n depth).Stands [] := by
    refine ⟨fun k hk => ?_, nofun, by decide⟩
    rw [List.suffix_nil.1 hk]
    exact henterable List.nil_suffix
  have hcwd : (FileSystem.chain n depth).cwdPath =
      .ok (FileSystem.pathTo (List.replicate depth n)) := rfl
  have hchange : (FileSystem.chain n depth).changeDirectory [slash] =
      .ok { FileSystem.chain n depth with cwd := some [] } :=
    FileSystem.changeDirectory_of_stands hroot
  -- Only the working directory changes when the scope is entered, and nothing when it is left.
  have hhistory := history_visitRoot <| show
      (Scope.directory [slash]).enter ⟨env, .chain n depth⟩ =
        (.ok (.new () fun _ => Process.inFiles (WorkingDirectory.restore
          (FileSystem.pathTo (List.replicate depth n)))),
          ⟨env, { FileSystem.chain n depth with cwd := some [] }⟩) by
    simp only [Scope.enter, WorkingDirectory.enter, hcwd, hchange]
    rfl
  have hstays (fs : FileSystem) :
      WorkingDirectory.restore (FileSystem.pathTo (List.replicate depth n)) fs = fs := by
    refine WorkingDirectory.restore_of_long ?_
    rwa [FileSystem.length_pathTo_replicate hdepth]
  rw [Process.inFiles, hstays] at hhistory
  have hne : List.replicate depth n ≠ [] := by
    rw [Ne, List.replicate_eq_nil_iff]
    omega
  rw [Strands, hhistory]
  exact ⟨0, [slash], _, _, _, _, List.replicate depth n, List.mem_cons_self,
    List.mem_cons_of_mem _ List.mem_cons_self, rfl, fun k hk => henterable hk,
    fun heq => hne (Option.some.inj heq).symm⟩

end Scenario

/-- A name that is as long as the system takes. -/
def Name.longest : Name where
  bytes := List.replicate FileSystem.nameLimit 0x61
  bytes_ne_nil := nofun
  slash_notMem h := absurd (List.eq_of_mem_replicate h) (by decide)

/-- **A directory can be there and still not be found again**, sixteen names deep. -/
theorem Scenario.visitRoot_strands :
    visitRoot.Strands ⟨.empty, .chain .longest 16⟩ := by
  refine strands_of_long (by decide) ?_
  rw [Name.longest, List.length_replicate]
  decide

end RestoreCheck
