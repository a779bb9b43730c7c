import Mathlib
import RestoreCheck.Fixture.ReadOnly
import RestoreCheck.Proofs.Compare.World
import RestoreCheck.Proofs.Files.Entries

/-!
# What a read-only guard does to a tree

Write permission is taken from every entry of a tree, links excepted, and then the top of the tree
gets a mark that keeps its permissions from being changed.  While the guard lives nothing in the
tree can be written.  When it ends the mark is cleared first, as nothing could be changed otherwise,
and then everyone gets write permission.

So the marks are those of before, but the permissions are those of before with all three write bits
added (`ReadOnly.guards`).  The tree is as it was exactly if everyone could write everything in it:
a file that only its owner could write can be written by everyone (`ReadOnly.guard_widens`).

What the commands do is assumed (`SealCommand.Obeyed`): they do as they are told, and a mark is the
only thing that keeps them from it.
-/

namespace RestoreCheck

/-! ### Write permission -/

/-- The write bits of owner, group and others. -/
def writeBits : UInt32 := 0o222

/-- Permissions without the write bits. -/
def takeWrite (permissions : UInt32) : UInt32 := permissions &&& ~~~writeBits

/-- Permissions with all write bits. -/
def giveWrite (permissions : UInt32) : UInt32 := permissions ||| writeBits

theorem eq_of_bits {a b : UInt32} (h : ∀ i < 32, a.toBitVec.getLsbD i = b.toBitVec.getLsbD i) :
    a = b :=
  UInt32.toBitVec_inj.1 (BitVec.eq_of_getLsbD_eq h)

theorem takeWrite_and_writeBits (permissions : UInt32) :
    takeWrite permissions &&& writeBits = 0 := by
  rw [takeWrite, UInt32.and_assoc, UInt32.not_and_self, UInt32.and_zero]

theorem giveWrite_takeWrite (permissions : UInt32) :
    giveWrite (takeWrite permissions) = giveWrite permissions := by
  unfold giveWrite takeWrite
  refine eq_of_bits fun i hi => ?_
  simp only [UInt32.toBitVec_or, UInt32.toBitVec_and, UInt32.toBitVec_not, BitVec.getLsbD_or,
    BitVec.getLsbD_and, BitVec.getLsbD_not, hi, decide_true, Bool.true_and]
  cases writeBits.toBitVec.getLsbD i <;> simp

theorem giveWrite_eq_self_iff {permissions : UInt32} :
    giveWrite permissions = permissions ↔ permissions &&& writeBits = writeBits := by
  unfold giveWrite
  constructor
  · intro h
    rw [← h, UInt32.and_comm]
    refine eq_of_bits fun i _ => ?_
    simp only [UInt32.toBitVec_or, UInt32.toBitVec_and, BitVec.getLsbD_or, BitVec.getLsbD_and]
    cases writeBits.toBitVec.getLsbD i <;> simp
  · intro h
    rw [← h]
    refine eq_of_bits fun i _ => ?_
    simp only [UInt32.toBitVec_or, UInt32.toBitVec_and, BitVec.getLsbD_or, BitVec.getLsbD_and]
    cases permissions.toBitVec.getLsbD i <;> simp

/-- Whether a directory can be searched is another matter. -/
theorem takeWrite_and_search (permissions : UInt32) :
    takeWrite permissions &&& Access.search.ownerBit = permissions &&& Access.search.ownerBit := by
  rw [takeWrite, UInt32.and_assoc]
  rfl

/-! ### Trees -/

namespace FileSystem

/-- Whether the node of an index stands at or below a location. -/
def standsBelow (fs : FileSystem) (l : Location) (i : Nat) : Bool :=
  fs.names.any fun e => l.isSuffixOf e.1 && fs.index? e.1 = some i

/-- The permissions at a location, unless a link stands there. -/
def permissionsAt (fs : FileSystem) (k : Location) : Option UInt32 :=
  (fs.node? k).bind fun x =>
    match x.kind with
    | .symlink _ => none
    | _ => some x.permissions

end FileSystem

/-- A node with other permissions, unless it is a link. -/
def Node.changed (change : UInt32 → UInt32) (x : Node) : Node :=
  match x.kind with
  | .symlink _ => x
  | _ => { x with permissions := change x.permissions }

theorem Node.passage_changed_takeWrite (x : Node) :
    (x.changed takeWrite).passage = x.passage := by
  unfold Node.changed
  split
  · rfl
  · unfold Node.passage Node.grants
    rw [takeWrite_and_search]

namespace FileSystem

variable {fs : FileSystem} {k l : Location}

/-- The file system with the permissions of everything at or below a location changed, but for
links. -/
def changeBelow (l : Location) (change : UInt32 → UInt32) (fs : FileSystem) : FileSystem :=
  { fs with nodes := fs.nodes.mapIdx fun i x =>
      if fs.standsBelow l i then x.changed change else x }

theorem standsBelow_iff {i : Nat} :
    fs.standsBelow l i = true ↔ ∃ k, l <:+ k ∧ fs.index? k = some i := by
  unfold standsBelow
  rw [List.any_eq_true]
  constructor
  · rintro ⟨e, -, h⟩
    obtain ⟨hsuffix, hindex⟩ := Bool.and_eq_true_iff.1 h
    exact ⟨e.1, List.isSuffixOf_iff_suffix.1 hsuffix, of_decide_eq_true hindex⟩
  · rintro ⟨k, hsuffix, hindex⟩
    obtain ⟨e, he, -⟩ := Option.map_eq_some_iff.1 hindex
    obtain rfl : e.1 = k := by simpa using List.find?_some he
    refine ⟨e, List.mem_of_find?_eq_some he, Bool.and_eq_true_iff.2 ⟨?_, decide_eq_true hindex⟩⟩
    exact List.isSuffixOf_iff_suffix.2 hsuffix

theorem node?_changeBelow (fs : FileSystem) (l k : Location) (change : UInt32 → UInt32) :
    (fs.changeBelow l change).node? k = fs.node? k ∨
      (fs.changeBelow l change).node? k = (fs.node? k).map (Node.changed change) := by
  have hindex : (fs.changeBelow l change).index? k = fs.index? k := rfl
  unfold node?
  rw [hindex]
  cases fs.index? k with
  | none => exact .inl rfl
  | some i =>
    show (fs.nodes.mapIdx _)[i]? = fs.nodes[i]? ∨
      (fs.nodes.mapIdx _)[i]? = (fs.nodes[i]?).map (Node.changed change)
    rw [Array.getElem?_mapIdx]
    cases hbelow : fs.standsBelow l i with
    | false => simp
    | true => simp

theorem node?_changeBelow_of_suffix (fs : FileSystem) (hk : l <:+ k) (change : UInt32 → UInt32) :
    (fs.changeBelow l change).node? k = (fs.node? k).map (Node.changed change) := by
  have hindex : (fs.changeBelow l change).index? k = fs.index? k := rfl
  unfold node?
  rw [hindex]
  cases hi : fs.index? k with
  | none => rfl
  | some i =>
    have hbelow : fs.standsBelow l i = true := standsBelow_iff.2 ⟨k, hk, hi⟩
    show (fs.nodes.mapIdx _)[i]? = (fs.nodes[i]?).map (Node.changed change)
    rw [Array.getElem?_mapIdx]
    simp [hbelow]

/-- Whether what stands at one location stands nowhere at or below another. -/
def IsElsewhere (fs : FileSystem) (l k : Location) : Prop :=
  ∀ j, l <:+ j → ∀ i, fs.index? j = some i → fs.index? k ≠ some i

/-- **What stands elsewhere is not changed.** -/
theorem IsElsewhere.node?_changeBelow (h : fs.IsElsewhere l k) (change : UInt32 → UInt32) :
    (fs.changeBelow l change).node? k = fs.node? k := by
  have hindex : (fs.changeBelow l change).index? k = fs.index? k := rfl
  unfold node?
  rw [hindex]
  cases hi : fs.index? k with
  | none => rfl
  | some i =>
    have hbelow : fs.standsBelow l i = false := by
      rw [← Bool.not_eq_true, standsBelow_iff]
      rintro ⟨j, hj, hindex⟩
      exact h j hj i hindex hi
    show (fs.nodes.mapIdx _)[i]? = fs.nodes[i]?
    rw [Array.getElem?_mapIdx]
    simp [hbelow]

/-- **What a change does** to the permissions in the tree. -/
theorem permissionsAt_changeBelow (fs : FileSystem) (hk : l <:+ k) (change : UInt32 → UInt32) :
    (fs.changeBelow l change).permissionsAt k = (fs.permissionsAt k).map change := by
  unfold permissionsAt
  rw [node?_changeBelow_of_suffix fs hk]
  cases fs.node? k with
  | none => rfl
  | some x =>
    simp only [Option.map_some, Option.bind_some, Node.changed]
    cases hkind : x.kind <;> simp [hkind]

/-- Taking write permission away closes no way. -/
theorem locate_changeBelow_takeWrite {goal : Goal} {p : Path} (hgoal : goal ≠ .file)
    (h : fs.locate goal p = .ok l) : (fs.changeBelow l takeWrite).locate goal p = .ok l := by
  have hpassage (k : Location) : ((fs.changeBelow l takeWrite).node? k).map Node.passage =
      (fs.node? k).map Node.passage := by
    rcases node?_changeBelow fs l k takeWrite with hk | hk
    · rw [hk]
    · rw [hk, Option.map_map]
      cases fs.node? k with
      | none => rfl
      | some x => exact congrArg some x.passage_changed_takeWrite
  obtain ⟨hcheck, s, hstart, hleads⟩ := (find_eq_ok_iff hgoal).1 (locate_eq_ok_iff.1 h)
  exact locate_eq_ok_iff.2 <|
    (find_eq_ok_iff hgoal).2 ⟨hcheck, s, hstart, hleads.of_passage hpassage⟩

end FileSystem

/-! ### Marks -/

/-- Files, some of which bear a mark that keeps their permissions from being changed. -/
structure MarkedFiles where
  /-- the files -/
  files : FileSystem
  /-- the nodes that bear the mark -/
  marks : List Nat

namespace MarkedFiles

variable {s s' : MarkedFiles} {k l : Location} {i : Nat}

/-- Whether a mark is in the way of changing everything at or below a location. -/
def blocks (s : MarkedFiles) (l : Location) : Bool :=
  s.marks.any fun i => s.files.standsBelow l i

/-- The permissions of everything at or below a location are changed, but for links. -/
def changeBelow (l : Location) (change : UInt32 → UInt32) (s : MarkedFiles) : MarkedFiles :=
  { s with files := s.files.changeBelow l change }

/-- What stands at a location gets the mark. -/
def mark (l : Location) (s : MarkedFiles) : MarkedFiles :=
  match s.files.index? l with
  | some i => { s with marks := i :: s.marks }
  | none => s

/-- What stands at a location loses the mark. -/
def unmark (l : Location) (s : MarkedFiles) : MarkedFiles :=
  match s.files.index? l with
  | some i => { s with marks := s.marks.filter fun j => j ≠ i }
  | none => s

@[simp] theorem files_mark (l : Location) (s : MarkedFiles) : (s.mark l).files = s.files := by
  unfold mark
  split <;> rfl

@[simp] theorem files_unmark (l : Location) (s : MarkedFiles) : (s.unmark l).files = s.files := by
  unfold unmark
  split <;> rfl

theorem mark_eq (h : s.files.index? l = some i) : s.mark l = ⟨s.files, i :: s.marks⟩ := by
  rw [mark, h]

theorem unmark_eq (h : s.files.index? l = some i) :
    s.unmark l = ⟨s.files, s.marks.filter fun j => j ≠ i⟩ := by
  rw [unmark, h]

theorem blocks_eq_false_iff :
    s.blocks l = false ↔ ∀ i ∈ s.marks, ∀ k, l <:+ k → s.files.index? k ≠ some i := by
  unfold blocks
  rw [List.any_eq_false]
  simp only [FileSystem.standsBelow_iff, not_exists, not_and]

/-- **Nothing happens to a tree**: its path leads to the same place, at or below which the same
nodes stand with the same permissions, and the same nodes bear the mark. -/
structure Undisturbed (p : Path) (l : Location) (s s' : MarkedFiles) : Prop where
  place : s'.files.locate .entry p = .ok l
  index : ∀ k, l <:+ k → s'.files.index? k = s.files.index? k
  permissions : ∀ k, l <:+ k → s'.files.permissionsAt k = s.files.permissionsAt k
  marks : s'.marks = s.marks

theorem Undisturbed.refl {p : Path} (h : s.files.locate .entry p = .ok l) : Undisturbed p l s s :=
  ⟨h, fun _ _ => rfl, fun _ _ => rfl, rfl⟩

/-- **A tree was protected**: its path leads to it as before, its top has got the mark, nothing in
it can be written, and nothing else has changed. -/
structure Protected (p : Path) (l : Location) (s s' : MarkedFiles) : Prop where
  place : s'.files.locate .entry p = .ok l
  mark : ∃ i, s'.files.index? l = some i ∧ s'.marks = i :: s.marks
  permissions : ∀ k perms, l <:+ k → s'.files.permissionsAt k = some perms →
    perms &&& writeBits = 0
  elsewhere : ∀ k, s.files.IsElsewhere l k → s'.files.node? k = s.files.node? k

/-- **A tree was given back**, for the state before it was protected and the one in which it is
given back. -/
structure GivenBack (l : Location) (s s' final : MarkedFiles) : Prop where
  /-- The marks are those of before. -/
  marks : final.marks = s.marks
  /-- The permissions are those of before with all three write bits. -/
  permissions : ∀ k, l <:+ k →
    final.files.permissionsAt k = (s.files.permissionsAt k).map giveWrite
  /-- So they are the same exactly if all of them had all three. -/
  same_iff : (∀ k, l <:+ k → final.files.permissionsAt k = s.files.permissionsAt k) ↔
    ∀ k perms, l <:+ k → s.files.permissionsAt k = some perms → perms &&& writeBits = writeBits
  /-- Nothing else has changed. -/
  elsewhere : ∀ k, s'.files.IsElsewhere l k → final.files.node? k = s'.files.node? k

theorem protected_mark {p : Path} (hplace : s.files.locate .entry p = .ok l)
    (hi : s.files.index? l = some i) :
    Protected p l s ((s.changeBelow l takeWrite).mark l) := by
  have hindex : (s.changeBelow l takeWrite).files.index? l = some i := hi
  rw [mark_eq hindex]
  refine ⟨FileSystem.locate_changeBelow_takeWrite (by decide) hplace, ⟨i, hindex, rfl⟩,
    fun k perms hk hperms => ?_, fun k hk => hk.node?_changeBelow _⟩
  obtain ⟨before, -, rfl⟩ := Option.map_eq_some_iff.1
    ((FileSystem.permissionsAt_changeBelow s.files hk takeWrite).symm.trans hperms)
  exact takeWrite_and_writeBits before

section

variable {p : Path} (hi : s.files.index? l = some i) (hfree : s.blocks l = false)
  (h : Undisturbed p l ((s.changeBelow l takeWrite).mark l) s')
include hi hfree h

/-- **Clearing the mark at the top** leaves the marks of before, as the top had none. -/
theorem marks_unmark_of_undisturbed : (s'.unmark l).marks = s.marks := by
  have hnot : i ∉ s.marks := fun hmem =>
    blocks_eq_false_iff.1 hfree i hmem l List.suffix_rfl hi
  have hi' : s'.files.index? l = some i := by
    rw [h.index l List.suffix_rfl, files_mark]
    exact hi
  have hmarks : s'.marks = i :: s.marks := by
    rw [h.marks, mark_eq (s := s.changeBelow l takeWrite) hi]
    rfl
  rw [unmark_eq hi', hmarks, List.filter_cons_of_neg (by simp), List.filter_eq_self]
  exact fun j hj => decide_eq_true fun hji => hnot (hji ▸ hj)

/-- So no mark is in the way then. -/
theorem blocks_unmark_of_undisturbed : (s'.unmark l).blocks l = false := by
  rw [blocks_eq_false_iff, marks_unmark_of_undisturbed hi hfree h, files_unmark]
  intro j hj k hk hjk
  rw [h.index k hk, files_mark] at hjk
  exact blocks_eq_false_iff.1 hfree j hj k hk hjk

theorem givenBack_of_undisturbed : GivenBack l s s' ((s'.unmark l).changeBelow l giveWrite) := by
  have hperms : ∀ k, l <:+ k → ((s'.unmark l).files.changeBelow l giveWrite).permissionsAt k =
      (s.files.permissionsAt k).map giveWrite := by
    intro k hk
    have hprotected : s'.files.permissionsAt k = (s.files.permissionsAt k).map takeWrite := by
      rw [h.permissions k hk, files_mark]
      exact FileSystem.permissionsAt_changeBelow s.files hk takeWrite
    rw [files_unmark, FileSystem.permissionsAt_changeBelow _ hk, hprotected, Option.map_map]
    exact congrArg (Option.map · _) (funext giveWrite_takeWrite)
  refine ⟨marks_unmark_of_undisturbed hi hfree h, hperms, ?_, fun k hk => ?_⟩
  · refine forall_congr' fun k => ?_
    rw [forall_comm]
    refine forall_congr' fun hk => ?_
    show ((s'.unmark l).files.changeBelow l giveWrite).permissionsAt k = _ ↔ _
    rw [hperms k hk]
    cases s.files.permissionsAt k with
    | none => simp
    | some perms => simp [giveWrite_eq_self_iff]
  · show ((s'.unmark l).files.changeBelow l giveWrite).node? k = _
    rw [files_unmark]
    exact hk.node?_changeBelow giveWrite

end

end MarkedFiles

/-! ### Commands -/

/-- The command that changes permissions everywhere at and below a path. -/
def changeCommand (change : String) (p : Path) : CommandLine :=
  ⟨.ofString "chmod", [.ofString "-R", .ofString change, p]⟩

/-- The command that sets or clears the mark at a path. -/
def SealCommand.line (command : SealCommand) (change : String) (p : Path) : CommandLine :=
  ⟨.ofString command.program, [.ofString change, p]⟩

/-- **Commands do as they are told**, and nothing but a mark keeps them from it. -/
structure SealCommand.Obeyed (command : SealCommand)
    (run : CommandLine → MarkedFiles → Option MarkedFiles) : Prop where
  takes : ∀ {p l s}, s.files.locate .entry p = .ok l → s.blocks l = false →
    run (changeCommand "ugo-w" p) s = some (s.changeBelow l takeWrite)
  gives : ∀ {p l s}, s.files.locate .entry p = .ok l → s.blocks l = false →
    run (changeCommand "ugo+w" p) s = some (s.changeBelow l giveWrite)
  blocked : ∀ {p l s} change, s.files.locate .entry p = .ok l → s.blocks l = true →
    run (changeCommand change p) s = none
  marks : ∀ {p l s}, s.files.locate .entry p = .ok l →
    run (command.line command.set p) s = some (s.mark l)
  unmarks : ∀ {p l s}, s.files.locate .entry p = .ok l →
    run (command.line command.clear p) s = some (s.unmark l)

namespace ReadOnly

/-- Commands that are run whatever comes of them.  One that fails changes nothing. -/
def anyway {σ : Type} (run : CommandLine → σ → Option σ) (i : CommandLine) (s : σ) : σ :=
  (run i s).getD s

/-- **All commands succeed**, one after the other. -/
def succeed {σ : Type} (run : CommandLine → σ → Option σ) (commands : List CommandLine) (s : σ) :
    Option σ :=
  commands.foldlM (fun s i => run i s) s

theorem foldl_anyway {σ : Type} {run : CommandLine → σ → Option σ} {commands : List CommandLine}
    {s s' : σ} (h : succeed run commands s = some s') :
    commands.foldl (fun s i => anyway run i s) s = s' := by
  unfold succeed at h
  induction commands generalizing s with
  | nil => exact Option.some.inj h
  | cons i commands ih =>
    rw [List.foldlM_cons] at h
    obtain ⟨t, ht, hrest⟩ := Option.bind_eq_some_iff.1 h
    have hfirst : anyway run i s = t := by
      rw [anyway, ht]
      rfl
    rw [List.foldl_cons, hfirst]
    exact ih hrest

section

variable {command : SealCommand} {run : CommandLine → MarkedFiles → Option MarkedFiles} {p : Path}
  {l : Location} {s : MarkedFiles}

/-- **Protecting succeeds** if no mark is in the way. -/
theorem succeed_protection (h : command.Obeyed run) (hplace : s.files.locate .entry p = .ok l)
    (hfree : s.blocks l = false) :
    succeed run (protection command p) s = some ((s.changeBelow l takeWrite).mark l) := by
  have htake := h.takes hplace hfree
  have hmark : run (command.line command.set p) (s.changeBelow l takeWrite) =
      some ((s.changeBelow l takeWrite).mark l) :=
    h.marks (FileSystem.locate_changeBelow_takeWrite (by decide) hplace)
  show (run (changeCommand "ugo-w" p) s).bind (fun s =>
    (run (command.line command.set p) s).bind some) = _
  rw [htake, Option.bind_some, hmark, Option.bind_some]

/-- **Restoring succeeds** if no other mark is in the way.  The order of the commands matters: the
mark at the top of the tree is one that would be in the way. -/
theorem succeed_restoration (h : command.Obeyed run) (hplace : s.files.locate .entry p = .ok l)
    (hfree : (s.unmark l).blocks l = false) :
    succeed run (restoration command p) s = some ((s.unmark l).changeBelow l giveWrite) := by
  have hunmark := h.unmarks hplace
  have hplace' : (s.unmark l).files.locate .entry p = .ok l := by
    rwa [MarkedFiles.files_unmark]
  have hgive := h.gives hplace' hfree
  show (run (command.line command.clear p) s).bind (fun s =>
    (run (changeCommand "ugo+w" p) s).bind some) = _
  rw [hunmark, Option.bind_some, hgive, Option.bind_some]

end

/-! ### Guards -/

/-- **What a guard over a tree does**, for a way to run commands. -/
structure Guards (run : CommandLine → MarkedFiles → Option MarkedFiles) (profile : Profile)
    (p : Path) : Prop where
  /-- Without a command that sets a mark there is no guard, and nothing is run. -/
  unsupported : profile.immutable = none → ∀ {σ : Type} (act : CommandLine → σ → σ) (s : σ),
    acquire act profile p s = (.error (.unsupported "read-only directories" profile.platform), s)
  /-- With one there is a guard for every tree that has no mark in it.  All commands succeed, and
  the tree is protected until the guard is ended, which gives it back, in whatever way that happens.
  -/ guarded : ∀ command, profile.immutable = some command → ∀ s l x,
    s.files.lookup .entry p = .ok (l, x) → s.blocks l = false → ∃ g inside,
      acquire (anyway run) profile p s = (.ok g, inside) ∧
      succeed run (protection command p) s = some inside ∧
      s.Protected p l inside ∧
      ∀ {β : Type} (guardEnd : GuardEnd)
        (body : Guard MarkedFiles Path → MarkedFiles → Ending β × MarkedFiles),
        inside.Undisturbed p l (body g inside).2 → ∃ final,
          bracket (acquire (anyway run) profile p) guardEnd body s =
            (.ok (body g inside).1, final) ∧
          succeed run (restoration command p) (body g inside).2 = some final ∧
          s.GivenBack l (body g inside).2 final

/-- **A guard protects a tree and gives it back**, with write permission for everyone. -/
theorem guards {run : CommandLine → MarkedFiles → Option MarkedFiles} {profile : Profile}
    (hobeyed : ∀ command, profile.immutable = some command → command.Obeyed run) (p : Path) :
    Guards run profile p where
  unsupported hnone σ act s := by rw [acquire, hnone]
  guarded command hcommand s l x hlookup hfree := by
    have hcommands := hobeyed command hcommand
    obtain ⟨hfind, hx⟩ := FileSystem.lookup_eq_ok_iff.1 hlookup
    have hplace : s.files.locate .entry p = .ok l := FileSystem.locate_eq_ok_iff.2 hfind
    obtain ⟨i, hi, -⟩ := Option.bind_eq_some_iff.1 hx
    have hprotect := succeed_protection hcommands hplace hfree
    have hacquire : acquire (anyway run) profile p s =
        (.ok (.new p fun p s => (restoration command p).foldl (fun s i => anyway run i s) s),
          (s.changeBelow l takeWrite).mark l) := by
      rw [acquire, hcommand]
      exact congrArg (Prod.mk _) (foldl_anyway hprotect)
    refine ⟨_, _, hacquire, hprotect, MarkedFiles.protected_mark hplace hi, ?_⟩
    intro β guardEnd body hbody
    have hrestore := succeed_restoration hcommands hbody.place
      (MarkedFiles.blocks_unmark_of_undisturbed hi hfree hbody)
    refine ⟨_, ?_, hrestore, MarkedFiles.givenBack_of_undisturbed hi hfree hbody⟩
    rw [bracket_of_acquire hacquire]
    exact congrArg (Prod.mk _) (foldl_anyway hrestore)

end ReadOnly

/-! ### Commands that do as they are told -/

/-- Does what a command is told to do. -/
def SealCommand.perform (command : SealCommand) (i : CommandLine) (s : MarkedFiles) :
    Option MarkedFiles := do
  let p ← i.arguments.getLast?
  let l ← (s.files.locate .entry p).toOption
  if i = command.line command.set p then
    some (s.mark l)
  else if i = command.line command.clear p then
    some (s.unmark l)
  else if s.blocks l then
    none
  else if i = changeCommand "ugo-w" p then
    some (s.changeBelow l takeWrite)
  else if i = changeCommand "ugo+w" p then
    some (s.changeBelow l giveWrite)
  else
    none

theorem SealCommand.line_ne_changeCommand (command : SealCommand) (mark change : String)
    (p : Path) : changeCommand change p ≠ command.line mark p := by
  intro h
  have hlength := congrArg (List.length ∘ CommandLine.arguments) h
  simp [changeCommand, SealCommand.line] at hlength

theorem SealCommand.obeyed_perform {command : SealCommand}
    (h : Bytes.ofString command.clear ≠ .ofString command.set) :
    command.Obeyed command.perform where
  takes {p l s} hplace hfree := by
    have hlast : (changeCommand "ugo-w" p).arguments.getLast? = some p := rfl
    simp [perform, hlast, hplace, hfree, command.line_ne_changeCommand, Except.toOption]
  gives {p l s} hplace hfree := by
    have hlast : (changeCommand "ugo+w" p).arguments.getLast? = some p := rfl
    have hother : changeCommand "ugo+w" p ≠ changeCommand "ugo-w" p := by
      intro h
      have hchange : Bytes.ofString "ugo+w" = .ofString "ugo-w" := by
        simpa [changeCommand] using h
      exact absurd hchange (by decide)
    simp [perform, hlast, hplace, hfree, command.line_ne_changeCommand, hother, Except.toOption]
  blocked {p l s} change hplace hblocked := by
    have hlast : (changeCommand change p).arguments.getLast? = some p := rfl
    simp [perform, hlast, hplace, hblocked, command.line_ne_changeCommand, Except.toOption]
  marks {p l s} hplace := by
    have hlast : (command.line command.set p).arguments.getLast? = some p := rfl
    simp [perform, hlast, hplace, Except.toOption]
  unmarks {p l s} hplace := by
    have hlast : (command.line command.clear p).arguments.getLast? = some p := rfl
    have hother : command.line command.clear p ≠ command.line command.set p := by
      simp [SealCommand.line, h]
    simp [perform, hlast, hplace, hother, Except.toOption]

namespace ReadOnly

/-- The commands of one platform, which do as they are told. -/
def performed : CommandLine → MarkedFiles → Option MarkedFiles :=
  SealCommand.perform ⟨"chattr", "+i", "-i"⟩

theorem obeyed_performed : ∀ command, Platform.linux.profile.immutable = some command →
    command.Obeyed performed := by
  rintro _ ⟨⟩
  exact SealCommand.obeyed_perform (by decide)

/-- The directories of `FileSystem.trio`, with a file in each that has some permissions. -/
def threeFiles (permissions : UInt32) : MarkedFiles :=
  let x : Node := { FileSystem.plain (.file 0 (.ok [])) with permissions }
  ⟨FileSystem.trio 0o777 x x x, []⟩

/-- A file that everyone can write comes back as it was. -/
theorem guards_threeFiles :
    let s := threeFiles 0o666
    let a : Name := .letter 0x61 (by decide)
    let f : Name := .letter 0x66 (by decide)
    (∀ command, Platform.linux.profile.immutable = some command → command.Obeyed performed) ∧
      ∃ final, bracket (acquire (anyway performed) Platform.linux.profile [0x61]) .dropped
          (fun _ s => (Ending.finished (), s)) s = (.ok (.finished ()), final) ∧
        final.files.permissionsAt [f, a] = some 0o666 := by
  intro s a f
  refine ⟨obeyed_performed, ?_⟩
  have hlookup : s.files.lookup .entry [0x61] =
      .ok ([a], { FileSystem.plain .directory with permissions := 0o777 }) := by cbv
  have hfree : s.blocks [a] = false := by cbv
  have hbefore : s.files.permissionsAt [f, a] = some 0o666 := by cbv
  obtain ⟨g, inside, -, -, hprotected, hends⟩ :=
    (guards obeyed_performed [0x61]).guarded _ rfl s _ _ hlookup hfree
  obtain ⟨final, hfinal, -, hback⟩ :=
    hends .dropped (fun _ s => (Ending.finished (), s)) (.refl hprotected.place)
  refine ⟨final, hfinal, ?_⟩
  rw [hback.permissions _ (List.suffix_cons f [a]), hbefore]
  rfl

/-- **A file that only its owner can write** can be written by everyone when the guard has ended. -/
theorem guard_widens :
    let s := threeFiles 0o644
    let a : Name := .letter 0x61 (by decide)
    let f : Name := .letter 0x66 (by decide)
    (∀ command, Platform.linux.profile.immutable = some command → command.Obeyed performed) ∧
      (∃ x, s.files.lookup .entry [0x61] = .ok ([a], x)) ∧ s.blocks [a] = false ∧
      s.files.permissionsAt [f, a] = some 0o644 ∧
      (bracket (acquire (anyway performed) Platform.linux.profile [0x61]) .dropped
        (fun _ s => (Ending.finished (), s)) s).2.files.permissionsAt [f, a] = some 0o666 :=
  ⟨obeyed_performed, ⟨_, by cbv⟩, by cbv, by cbv, by cbv⟩

end ReadOnly

end RestoreCheck
