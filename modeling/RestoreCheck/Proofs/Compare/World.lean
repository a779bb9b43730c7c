import RestoreCheck.Compare.Inspectors
import RestoreCheck.Proofs.Actions

/-!
# Worlds that stand still

Most properties of a comparison are about files that do not change while it runs, and about an
inspector whose answers depend on nothing but the question.  `World` is what can be learned of the
two together.  An inspector that no question changes (`Inspector.IsSteady`) shows one world as long
as a comparison lasts (`Inspector.world`), and every world is shown by some steady inspector
(`World.inspector`), so that a statement on all steady inspectors is one on all worlds.
-/

namespace RestoreCheck

variable {σ α β : Type}

/-- What can be learned about files that do not change. -/
structure World where
  /-- the files -/
  view : View
  /-- the flags of an entry -/
  flags : Path → Meta → UInt64
  /-- the extended attributes of an entry, or why they cannot be read -/
  xattrs : Path → Except Fault Xattrs

/-- **A steady inspector**: questions change neither the files nor later answers. -/
structure Inspector.IsSteady (i : Inspector σ) : Prop where
  /-- asking for flags changes nothing -/
  flags_snd : ∀ path m s, (i.flags path m s).2 = s
  /-- asking for extended attributes changes nothing -/
  xattrs_snd : ∀ path s, (i.xattrs path s).2 = s

/-- The world that an inspector shows in a state. -/
def Inspector.world (i : Inspector σ) (s : σ) : World where
  view := i.view s
  flags path m := (i.flags path m s).1
  xattrs path := (i.xattrs path s).1

/-- The inspector that shows a world. -/
def World.inspector (w : World) : Inspector Unit where
  view _ := w.view
  flags path m s := (w.flags path m, s)
  xattrs path s := (w.xattrs path, s)

theorem World.isSteady_inspector (w : World) : w.inspector.IsSteady :=
  ⟨fun _ _ _ => rfl, fun _ _ => rfl⟩

theorem World.world_inspector (w : World) : w.inspector.world () = w := rfl

/-- The inspector of a file system is steady. -/
theorem Inspector.isSteady_ofFiles : Inspector.ofFiles.IsSteady :=
  ⟨fun _ _ _ => rfl, fun _ _ => rfl⟩

/-! ### Answers -/

/-- **Two answers agree**: they are one fault, or values that are related. -/
inductive Agree (r : α → α → Prop) : Except Fault α → Except Fault α → Prop where
  /-- one fault -/
  | fault (cause : Fault) : Agree r (.error cause) (.error cause)
  /-- two values -/
  | value {a b : α} (related : r a b) : Agree r (.ok a) (.ok b)

theorem agree_ok_ok_iff {r : α → α → Prop} {a b : α} : Agree r (.ok a) (.ok b) ↔ r a b := by
  constructor
  · rintro ⟨⟩
    assumption
  · exact .value

theorem Agree.map_eq {r : α → α → Prop} {x y : Except Fault α} {f : α → β} (h : Agree r x y)
    (hf : ∀ a b, r a b → f a = f b) : x.map f = y.map f := by
  cases h with
  | fault cause => rfl
  | value related =>
    show Except.ok (f _) = Except.ok (f _)
    rw [hf _ _ related]

/-! ### What holds of all nodes -/

namespace FileSystem

variable {fs : FileSystem}

theorem mem_nodes_of_lookup {goal : Goal} {p : Path} {l : Location}
    {n : Node} (h : fs.lookup goal p = .ok (l, n)) : n ∈ fs.nodes := by
  unfold lookup at h
  cases hlocate : fs.locate goal p with
  | error f =>
    rw [hlocate] at h
    cases h
  | ok l' =>
    rw [hlocate] at h
    cases hnode : fs.node? l' with
    | none => simp [hnode] at h
    | some n' =>
      obtain ⟨-, rfl⟩ : l' = l ∧ n' = n := by simpa [hnode] using h
      obtain ⟨i, -, hi⟩ := Option.bind_eq_some_iff.1 hnode
      exact Array.mem_of_getElem? hi

theorem status_eq_ok {p : Path} {m : Meta} (h : fs.status p = .ok m) :
    ∃ l, ∃ n ∈ fs.nodes, m = fs.metaAt l n := by
  unfold status at h
  cases hlookup : fs.lookup .entry p with
  | error f =>
    rw [hlookup] at h
    cases h
  | ok r =>
    obtain ⟨l, n⟩ := r
    rw [hlookup] at h
    exact ⟨l, n, mem_nodes_of_lookup hlookup, (Except.ok.inj h).symm⟩

end FileSystem

/-! ### A small world -/

/-- A name of one letter. -/
def Name.letter (b : UInt8) (h : slash ≠ b) : Name :=
  ⟨[b], List.cons_ne_nil _ _, fun hmem => h (List.mem_singleton.1 hmem)⟩

namespace FileSystem

/-- The directories `a` and `b`, each with a symbolic link `l` in it. -/
def twoLinks (leftTarget rightTarget : Path) : FileSystem :=
  let a : Name := ⟨[0x61], by decide, by decide⟩
  let b : Name := ⟨[0x62], by decide, by decide⟩
  let l : Name := ⟨[0x6C], by decide, by decide⟩
  let node (kind : NodeKind) (number : UInt64) : Node :=
    { kind, device := 1, number, permissions := 0o755, uid := 0, gid := 0, accessed := ⟨0, 0⟩
      modified := ⟨0, 0⟩, born := ⟨0, 0⟩, xattrs := .empty, nodump := false }
  { names := [([], 0), ([a], 1), ([b], 2), ([l, a], 3), ([l, b], 4)]
    nodes := #[node .directory 1, node .directory 2, node .directory 3,
      node (.symlink leftTarget) 4, node (.symlink rightTarget) 5]
    cwd := some []
    now := ⟨0, 0⟩
    earliest := [] }

/-- A file of some kind, with nothing else particular to it. -/
def plain (kind : NodeKind) : Node :=
  { kind, device := 1, number := 1, permissions := 0o755, uid := 0, gid := 0, accessed := ⟨0, 0⟩
    modified := ⟨0, 0⟩, born := ⟨0, 0⟩, xattrs := .empty, nodump := false }

/-- The directories `a`, `b` and `c` with the same permissions, each with one entry `f` in it. -/
def trio (permissions : UInt32) (x y z : Node) : FileSystem :=
  let a : Name := ⟨[0x61], by decide, by decide⟩
  let b : Name := ⟨[0x62], by decide, by decide⟩
  let c : Name := ⟨[0x63], by decide, by decide⟩
  let f : Name := ⟨[0x66], by decide, by decide⟩
  let top := { plain .directory with permissions }
  { names := [([], 0), ([a], 1), ([b], 2), ([c], 3), ([f, a], 4), ([f, b], 5), ([f, c], 6)]
    nodes := #[plain .directory, top, top, top, x, y, z]
    cwd := some []
    now := ⟨0, 0⟩
    earliest := [] }

end FileSystem

/-- The comparator that looks at everything, on file systems that can do everything. -/
def Comparator.strict : Comparator FileSystem where
  options := .default
  capabilities := .ofAnswers (fun _ => true) .nanosecond
  inspector := .ofFiles

end RestoreCheck
