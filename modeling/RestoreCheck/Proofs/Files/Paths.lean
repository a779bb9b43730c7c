import RestoreCheck.Proofs.Files.Outside

/-!
# Making and removing directories by their paths

A directory is made where nothing stands yet and removed where it is empty and nothing is mounted on
it (`FileSystem.makeDirectory_eq_ok_iff`, `FileSystem.removeDirectory_eq_ok_iff`).  After that
nothing is at its path any more (`FileSystem.status_removeNames`).
-/

namespace RestoreCheck

namespace FileSystem

variable {fs fs' : FileSystem} {p : Path} {goal : Goal} {f : Found} {l : Location}

/-! ### Where paths lead -/

theorem reported_eq_ok_iff {α : Type} {r : Except Errno α} {a : α} :
    reported r = .ok a ↔ r = .ok a := by
  cases r <;> simp [reported]

/-- **Where a path leads** is where its steps lead from its start. -/
theorem find_eq_ok_iff (hgoal : goal ≠ .file) :
    fs.find goal p = .ok f ↔ checkPath p = .ok () ∧
      ∃ s, fs.start p = .ok s ∧ fs.Leads goal linkLimit s (goal.steps p) f := by
  unfold find follow
  cases checkPath p with
  | error e => simp
  | ok u =>
    simp only [true_and]
    cases hstart : fs.start p with
    | error e => simp [reported, Except.map]
    | ok s =>
      have hfollow : reported ((Except.ok s).map fun l => fs.walk linkLimit goal l (goal.steps p)) =
          .ok (fs.walk linkLimit goal s (goal.steps p)) := rfl
      rw [hfollow]
      dsimp only
      rw [reported_eq_ok_iff, found_walk_eq_ok_iff hgoal]
      simp

theorem locate_eq_ok_iff : fs.locate goal p = .ok l ↔ fs.find goal p = .ok (.existing l) := by
  unfold locate
  cases fs.find goal p with
  | error e => simp
  | ok f => cases f <;> simp

theorem lookup_eq_ok_iff {n : Node} :
    fs.lookup goal p = .ok (l, n) ↔ fs.find goal p = .ok (.existing l) ∧ fs.node? l = some n := by
  rw [← locate_eq_ok_iff]
  unfold lookup
  cases fs.locate goal p with
  | error e => simp
  | ok l' =>
    dsimp only
    by_cases hl : l' = l
    · subst hl
      cases fs.node? l' <;> simp
    · cases fs.node? l' <;> simp [hl]

/-- **The path of an entry that is no link leads there.** -/
theorem lookup_target_of_entry {n : Node} (h : fs.lookup .entry p = .ok (l, n))
    (hkind : ∀ target, n.kind ≠ .symlink target) : fs.lookup .target p = .ok (l, n) := by
  obtain ⟨hfind, hnode⟩ := lookup_eq_ok_iff.1 h
  obtain ⟨hcheck, s, hstart, hleads⟩ := (find_eq_ok_iff (by decide)).1 hfind
  refine lookup_eq_ok_iff.2 ⟨(find_eq_ok_iff (by decide)).2 ⟨hcheck, s, hstart, ?_⟩, hnode⟩
  exact hleads.target_of_kind hnode hkind

theorem exists_find_name_of_status {m : Meta} (h : fs.status p = .ok m) :
    ∃ l, fs.find .name p = .ok (.existing l) := by
  unfold status at h
  cases hlookup : fs.lookup .entry p with
  | error e =>
    rw [hlookup] at h
    cases h
  | ok r =>
    obtain ⟨hfind, -⟩ := lookup_eq_ok_iff.1 hlookup
    obtain ⟨hcheck, s, hstart, hleads⟩ := (find_eq_ok_iff (by decide)).1 hfind
    -- A slash at the end of the path is the only step that does not count for its name.
    have hname : fs.Leads .name linkLimit s
        (p.namedSteps ++ if p.endsInSlash then [.directory] else []) (.existing r.1) :=
      hleads.of_follows_eq .name rfl
    obtain ⟨l, hl⟩ := hname.exists_of_append rfl
    exact ⟨l, (find_eq_ok_iff (by decide)).2 ⟨hcheck, s, hstart, hl⟩⟩

/-! ### Making -/

/-- **A directory is made** under a name that is missing in a directory that may be changed. -/
theorem makeDirectory_eq_ok_iff :
    fs.makeDirectory p = .ok fs' ↔ ∃ d n, fs.find .name p = .ok (.missing d n) ∧
      fs.changeable d = .ok () ∧ fs' = fs.addNode (n :: d) .directory 0o755 := by
  unfold makeDirectory make freePlace
  cases fs.find .name p with
  | error e => simp
  | ok f =>
    cases f with
    | existing l => simp
    | missing d n =>
      have hslash : (p.endsInSlash && !NodeKind.directory.isDirectory) = false := Bool.and_false _
      dsimp only
      rw [hslash, if_neg Bool.false_ne_true]
      cases hd : fs.changeable d with
      | error e =>
        refine iff_of_false nofun ?_
        rintro ⟨d', n', heq, hd', -⟩
        cases heq
        cases hd.symm.trans hd'
      | ok u =>
        constructor
        · intro h
          exact ⟨d, n, rfl, hd, (Except.ok.inj h).symm⟩
        · rintro ⟨d', n', heq, -, rfl⟩
          cases heq
          rfl

theorem makeDirectory_eq_error_of_existing (h : fs.find .name p = .ok (.existing l)) :
    fs.makeDirectory p = .error (.system .alreadyExists) := by
  unfold makeDirectory make freePlace
  rw [h]

/-! ### Removing -/

theorem removable_eq_ok_iff {x : Node} :
    fs.removable p = .ok (l, x) ↔ fs.find .name p = .ok (.existing l) ∧ fs.node? l = some x ∧
      fs.changeable l.tail = .ok () := by
  unfold removable
  cases fs.find .name p with
  | error e => simp
  | ok f =>
    cases f with
    | missing d n => simp
    | existing k =>
      dsimp only
      by_cases hk : k = l
      · subst hk
        cases fs.node? k <;> cases fs.changeable k.tail <;> simp [reported, Except.map]
      · cases fs.node? k <;> cases fs.changeable k.tail <;> simp [reported, Except.map, hk]

/-- **A path leads to an empty directory** on which nothing is mounted. -/
structure Vacant (fs : FileSystem) (p : Path) (l : Location) : Prop where
  leads : fs.find .name p = .ok (.existing l)
  isDirectory : fs.isDirectoryAt l = true
  unmounted : fs.isMountedAt l = false
  empty : fs.children l = []

/-- **A directory is removed** if it is vacant, under a name of its own in a directory that may be
changed. -/
theorem removeDirectory_eq_ok_iff :
    fs.removeDirectory p = .ok fs' ↔ ∃ l n, fs.Vacant p l ∧ lastStep p = some (.enter n) ∧
      fs.changeable l.tail = .ok () ∧ fs' = fs.removeNames l := by
  unfold removeDirectory
  constructor
  · intro h
    cases hremovable : fs.removable p with
    | error e =>
      rw [hremovable] at h
      cases h
    | ok r =>
      obtain ⟨l, x⟩ := r
      obtain ⟨hfind, hx, hchangeable⟩ := removable_eq_ok_iff.1 hremovable
      rw [hremovable] at h
      dsimp only at h
      split at h
      · cases h
      · cases h
      · next n hlast =>
        by_cases hdirectory : x.isDirectory = true
        · cases hmounted : fs.isMountedAt l with
          | true => simp [hdirectory, hmounted] at h
          | false =>
            by_cases hchildren : fs.children l = []
            · refine ⟨l, n, ⟨hfind, ?_, hmounted, hchildren⟩, hlast, hchangeable, ?_⟩
              · unfold isDirectoryAt
                rw [hx]
                exact hdirectory
              · simpa [hdirectory, hmounted, hchildren, eq_comm] using h
            · simp [hdirectory, hmounted, hchildren] at h
        · simp [hdirectory] at h
      · cases h
  · rintro ⟨l, n, hvacant, hlast, hchangeable, rfl⟩
    obtain ⟨x, hx, hdirectory⟩ := (Option.any_eq_true _ _).1 hvacant.isDirectory
    rw [removable_eq_ok_iff.2 ⟨hvacant.leads, hx, hchangeable⟩]
    simp [hlast, hdirectory, hvacant.unmounted, hvacant.empty]

/-- A path whose last step enters a name leads to a location under that name, links in the last
place not being followed. -/
theorem Leads.ne_nil_of_getLast? {links : Nat} {s : Location} {steps : List Path.Step} {n : Name}
    (hleads : fs.Leads goal links s steps (.existing l))
    (hlast : steps.getLast? = some (.enter n)) (hkept : goal.follows = false) : l ≠ [] := by
  generalize hf : Found.existing l = f at hleads
  have htail {x : Path.Step} {rest : List Path.Step} (hrest : rest ≠ [])
      (h : (x :: rest).getLast? = some (.enter n)) : rest.getLast? = some (.enter n) := by
    rwa [List.getLast?_cons_of_ne_nil hrest] at h
  induction hleads with
  | here => cases hlast
  | @directory links s rest f _ next ih | @stay links s rest f _ next ih
  | @up links s rest f _ next ih =>
    by_cases hrest : rest = []
    · subst hrest
      cases hlast
    · exact ih (htail hrest hlast) hf
  | missing enterable short node => cases hf
  | kept enterable short node kind follows =>
    rw [Found.existing.inj hf]
    exact List.cons_ne_nil _ _
  | link enterable short node kind follows next ih =>
    have hrest := follows.resolve_right (by simp [hkept])
    refine ih ?_ hf
    rw [List.getLast?_append, htail hrest hlast]
    rfl
  | @enter links s m rest f x enterable short node kind next ih =>
    by_cases hrest : rest = []
    · subst hrest
      cases next with
      | here =>
        rw [Found.existing.inj hf]
        exact List.cons_ne_nil _ _
    · exact ih (htail hrest hlast) hf

theorem start_removeNames {s : Location} (hl : l ≠ []) (h : fs.start p = .ok s) :
    (fs.removeNames l).start p = .ok s ∧ ¬ l <:+ s ∨
      (fs.removeNames l).start p = .error .noEntry := by
  have hcwd : (fs.removeNames l).cwd = fs.cwd.filter fun w => !(l.isSuffixOf w) := by
    rw [removeNames_eq]
    unfold touchParent modifyAt
    cases (fs.remaining l).index? l.tail <;> rfl
  unfold start at h ⊢
  rw [hcwd]
  split at h
  · next habsolute =>
    rw [if_pos habsolute]
    refine .inl ⟨h, fun hs => hl ?_⟩
    rw [← Except.ok.inj h] at hs
    exact List.suffix_nil.1 hs
  · next hrelative =>
    rw [if_neg hrelative]
    cases hw : fs.cwd with
    | none =>
      rw [hw] at h
      cases h
    | some w =>
      rw [hw] at h
      obtain rfl := Except.ok.inj h
      by_cases hs : l <:+ w
      · right
        rw [Option.filter_some, List.isSuffixOf_iff_suffix.2 hs]
        rfl
      · left
        have hstays : l.isSuffixOf w = false := by
          rwa [← Bool.not_eq_true, List.isSuffixOf_iff_suffix]
        rw [Option.filter_some, hstays]
        exact ⟨rfl, hs⟩

/-- **A path after something was removed** leads where it led before, or nowhere.  If it leads
nowhere, neither does it with steps added. -/
theorem find_or_locate_removeNames {k : Location} {rest : List Path.Step} (goal goal' : Goal)
    (hgoal : goal ≠ .file) (hgoal' : goal' ≠ .file) (hfollows : goal'.follows = goal.follows)
    (hsteps : goal'.steps p = goal.steps p ++ rest) (hl : l ≠ [])
    (hfind : fs.find goal p = .ok (.existing k)) :
    ¬ l <:+ k ∧ (fs.removeNames l).find goal p = .ok (.existing k) ∨
      (fs.removeNames l).locate goal' p = .error (.system .noEntry) := by
  obtain ⟨hcheck, s, hstart, hleads⟩ := (find_eq_ok_iff hgoal).1 hfind
  have hlocate : (fs.removeNames l).locate goal' p = match (fs.removeNames l).start p with
      | .error e => .error (.system e)
      | .ok s =>
        match ((fs.removeNames l).walk linkLimit goal' s (goal.steps p ++ rest)).found with
        | .error e => .error (.system e)
        | .ok (.existing l) => .ok l
        | .ok (.missing _ _) => .error (.system .noEntry) := by
    unfold locate find follow
    rw [hcheck, hsteps]
    cases (fs.removeNames l).start p with
    | error e => rfl
    | ok s =>
      simp only [reported, Except.map]
      cases ((fs.removeNames l).walk linkLimit goal' s (goal.steps p ++ rest)).found with
      | error e => rfl
      | ok f => cases f <;> rfl
  rcases start_removeNames hl hstart with ⟨hstart', hs⟩ | hstart'
  · have hgone := (hleads.of_follows_eq goal' hfollows).of_gone hgoal'
      (alikeOutside_removeNames l fs) (node?_removeNames_of_suffix fs) hl hs
    rcases hgone with ⟨hk, hleads'⟩ | hgone
    · left
      refine ⟨hk, (find_eq_ok_iff hgoal).2 ⟨hcheck, s, hstart', ?_⟩⟩
      exact hleads'.of_follows_eq goal hfollows.symm
    · right
      rw [hlocate, hstart']
      dsimp only
      rcases hgone rest with h | ⟨d, n, h⟩
      · rw [h]
      · rw [h]
  · right
    rw [hlocate, hstart']

theorem find_removeNames {k : Location} (hgoal : goal ≠ .file) (hl : l ≠ [])
    (hfind : fs.find goal p = .ok (.existing k)) :
    ¬ l <:+ k ∧ (fs.removeNames l).find goal p = .ok (.existing k) ∨
      (fs.removeNames l).locate goal p = .error (.system .noEntry) :=
  find_or_locate_removeNames goal goal hgoal hgoal rfl (List.append_nil _).symm hl hfind

/-- **Nothing is at the path of what was removed.** -/
theorem status_removeNames (hfind : fs.find .name p = .ok (.existing l)) (hl : l ≠ []) :
    (fs.removeNames l).status p = .error (.system .noEntry) := by
  have hlocate : (fs.removeNames l).locate .entry p = .error (.system .noEntry) := by
    rcases find_or_locate_removeNames .name .entry (by decide) (by decide) rfl rfl hl hfind with
      ⟨hl', -⟩ | h
    · exact absurd List.suffix_rfl hl'
    · exact h
  unfold status lookup
  rw [hlocate]

theorem status_of_removeDirectory (h : fs.removeDirectory p = .ok fs') :
    fs'.status p = .error (.system .noEntry) := by
  obtain ⟨l, n, hvacant, hlast, -, rfl⟩ := removeDirectory_eq_ok_iff.1 h
  obtain ⟨-, s, -, hleads⟩ := (find_eq_ok_iff (by decide)).1 hvacant.leads
  exact status_removeNames hvacant.leads (hleads.ne_nil_of_getLast? hlast rfl)

/-- A directory that was made is named by the last step of its path. -/
theorem lastStep_of_makeDirectory (h : fs.makeDirectory p = .ok fs') :
    ∃ n, lastStep p = some (.enter n) := by
  obtain ⟨d, n, hfind, -⟩ := makeDirectory_eq_ok_iff.1 h
  obtain ⟨-, s, -, hleads⟩ := (find_eq_ok_iff (by decide)).1 hfind
  exact ⟨n, hleads.getLast?_eq_of_missing rfl⟩

theorem cwd_addNode (fs : FileSystem) (l : Location) (kind : NodeKind) (permissions : UInt32) :
    (fs.addNode l kind permissions).cwd = fs.cwd := by
  unfold addNode addName touchParent modifyAt
  dsimp only
  split <;> rfl

/-- **A path to a name that is missing** leads, after changes at that place only, to the name still
or to what stands there now. -/
theorem find_of_alikeOutside {last : FileSystem} {d : Location} {n : Name} (htree : fs.IsTree)
    (hfind : fs.find .name p = .ok (.missing d n)) (halike : AlikeOutside (n :: d) fs last)
    (hcwd : last.cwd = fs.cwd) :
    last.find .name p = .ok (.missing d n) ∨ last.find .name p = .ok (.existing (n :: d)) := by
  obtain ⟨hcheck, s, hstart, hleads⟩ := (find_eq_ok_iff (by decide)).1 hfind
  -- The walk starts from something that exists, which is not below the place that does not.
  have hs : ¬ n :: d <:+ s := by
    intro hs
    have hsteps : p.namedSteps ≠ [] := by
      intro hnil
      have hgetLast := hleads.getLast?_eq_of_missing rfl
      rw [show Goal.name.steps p = p.namedSteps from rfl, hnil] at hgetLast
      cases hgetLast
    obtain ⟨x, hx⟩ := hleads.exists_node hsteps
    obtain ⟨y, hy⟩ := htree.exists_node_of_suffix hx hs
    cases hleads.node?_eq_none_of_missing.symm.trans hy
  have hstart' : last.start p = .ok s := by
    rw [← hstart]
    unfold start
    rw [hcwd]
  exact (hleads.of_missing halike hleads.node?_eq_none_of_missing rfl hs).imp
    (fun hled => (find_eq_ok_iff (by decide)).2 ⟨hcheck, s, hstart', hled⟩)
    fun hled => (find_eq_ok_iff (by decide)).2 ⟨hcheck, s, hstart', hled⟩

theorem not_cons_suffix (n : Name) (d : Location) : ¬ n :: d <:+ d := by
  intro hsuffix
  have hlength := hsuffix.length_le
  rw [List.length_cons] at hlength
  omega

/-- A directory is still changeable after changes at a place in it. -/
theorem AlikeOutside.changeable_eq {d : Location} {n : Name} (h : AlikeOutside (n :: d) fs fs') :
    fs'.changeable d = fs.changeable d :=
  changeable_eq_of_undated (h d (not_cons_suffix n d))

/-- **A directory stays where it was made**: if its path leads to an empty directory after changes
at that place only, then it is the one that was made, and it may be removed. -/
theorem Vacant.of_makeDirectory {made last : FileSystem} {d : Location} {n : Name}
    (htree : fs.IsTree) (hfind : fs.find .name p = .ok (.missing d n))
    (hmade : fs.makeDirectory p = .ok made) (hlast : AlikeOutside (n :: d) made last)
    (hcwd : last.cwd = made.cwd) (hvacant : last.Vacant p l) :
    l = n :: d ∧ last.changeable l.tail = .ok () := by
  obtain ⟨d', n', hfind', hchangeable, rfl⟩ := makeDirectory_eq_ok_iff.1 hmade
  obtain ⟨rfl, rfl⟩ := Found.missing.inj (Except.ok.inj (hfind.symm.trans hfind'))
  have halike := (alikeOutside_addNode htree (n :: d) .directory 0o755).trans hlast
  have hl : l = n :: d := by
    rcases find_of_alikeOutside htree hfind halike (hcwd.trans (cwd_addNode fs _ _ _)) with h | h
    · cases h.symm.trans hvacant.leads
    · exact (Found.existing.inj (Except.ok.inj (h.symm.trans hvacant.leads))).symm
  subst hl
  exact ⟨rfl, halike.changeable_eq.trans hchangeable⟩

end FileSystem

end RestoreCheck
