import RestoreCheck.Proofs.Compare.World
import RestoreCheck.Proofs.Entry.Xattrs

/-!
# Entries with the same attributes

`Seen` is what a comparison learns of one entry, and `Seen.attributes` the vector made of it.
`Seen.Alike` says field by field when two entries pass for the same: what is left out of it is noise
to a comparison.  Entries that are alike have one vector, or fail with one fault
(`attributes_eq_of_alike`), and entries with one vector are alike (`exists_attributes_iff`).
-/

namespace RestoreCheck

/-! ### Times -/

/-- **Two times pass for one** on a pair of entries: in one second if fractions are ignored, in
tens of microseconds on a mounted view that carries no nanoseconds, and else in the precision of the
platform.  Where times cannot be set, any two do. -/
def Options.SameTime (o : Options) (k : Capabilities) (mounted : Bool) (t u : Stamp) : Prop :=
  k.utime = true →
    if o.ignoreNanos = true then t.SameSecond u
    else if mounted = true ∧ o.mountHasNanos = false then
      Precision.coarse.round t = Precision.coarse.round u
    else k.precision.round t = k.precision.round u

theorem Options.map_timeRule?_eq_iff {o : Options} {k : Capabilities} {mounted : Bool}
    {t u : Stamp} :
    (o.timeRule? k mounted).map (·.apply t) = (o.timeRule? k mounted).map (·.apply u) ↔
      o.SameTime k mounted t u := by
  unfold Options.timeRule? Options.SameTime
  cases k.utime with
  | false => simp
  | true =>
    cases o.ignoreNanos with
    | true => simp [TimeRule.apply, Stamp.wholeSeconds_eq_iff]
    | false => cases mounted <;> cases o.mountHasNanos <;> simp [TimeRule.apply]

/-! ### What is seen of an entry -/

/-- What a comparison learns of an entry. -/
structure Seen where
  /-- its status -/
  status : Meta
  /-- its flags -/
  flags : UInt64
  /-- its extended attributes, or why they cannot be read -/
  xattrs : Except Fault Xattrs

/-- What is seen of an entry that has some status. -/
def World.seen (w : World) (path : Path) (m : Meta) : Seen :=
  ⟨m, w.flags path m, w.xattrs path⟩

namespace Seen

/-- The vector of an entry, but for its extended attributes. -/
def vector (o : Options) (k : Capabilities) (mounted : Bool) (name : Bytes) (e : Seen)
    (xattrs : Option Xattrs) : Attributes where
  name
  mode := Text.octal e.status.mode.toNat
  uid := e.status.uid
  gid := e.status.gid
  rdev := if e.status.isDevice then some e.status.rdev else none
  nlink := if mounted && e.status.isDirectory then none else some e.status.nlink
  flags := if o.ignoreFlags then none else some e.flags
  mtime := (o.timeRule? k mounted).map (·.apply e.status.mtime)
  xattrs

/-- The extended attributes that are compared, or why they cannot be read. -/
def comparedXattrs (o : Options) (e : Seen) : Except Fault (Option Xattrs) :=
  if o.ignoreXattrs then .ok none else e.xattrs.map fun m => some (dropLabel m)

/-- **The vector of an entry**, or why its extended attributes cannot be read. -/
def attributes (o : Options) (k : Capabilities) (mounted : Bool) (name : Bytes) (e : Seen) :
    Except Fault Attributes :=
  (e.comparedXattrs o).map (e.vector o k mounted name)

/-- Whether the extended attributes of an entry can be read, where they have to be. -/
def Readable (o : Options) (e : Seen) : Prop :=
  o.ignoreXattrs = false → ∃ m, e.xattrs = .ok m

/-- Two readings of extended attributes that differ in the security label at most. -/
def SameXattrs : Except Fault Xattrs → Except Fault Xattrs → Prop :=
  Agree fun m n => ∀ key, key ≠ securityLabel → m.get? key = n.get? key

/-- Two entries have the same status and flags as far as these are compared. -/
structure SameStatus (o : Options) (k : Capabilities) (mounted : Bool) (e f : Seen) : Prop where
  /-- they have one mode -/
  mode : e.status.mode = f.status.mode
  /-- they have one owner -/
  uid : e.status.uid = f.status.uid
  /-- they have one group -/
  gid : e.status.gid = f.status.gid
  /-- devices are the same device -/
  rdev : e.status.isDevice = true → e.status.rdev = f.status.rdev
  /-- links are as many, but for the directories of a mounted view -/
  nlink : (mounted && e.status.isDirectory) = false → e.status.nlink = f.status.nlink
  /-- flags are the same, unless they are ignored -/
  flags : o.ignoreFlags = false → e.flags = f.flags
  /-- their times pass for one -/
  mtime : o.SameTime k mounted e.status.mtime f.status.mtime

/-- **Two entries are alike**: nothing that is compared tells them apart. -/
structure Alike (o : Options) (k : Capabilities) (mounted : Bool) (e f : Seen) : Prop
    extends SameStatus o k mounted e f where
  /-- extended attributes are the same but for the label, unless they are ignored -/
  xattrs : o.ignoreXattrs = false → SameXattrs e.xattrs f.xattrs

variable {o : Options} {k : Capabilities} {mounted : Bool} {name : Bytes} {e f : Seen}

/-! ### Vectors -/

theorem vector_eq_base {x : Option Xattrs} :
    e.vector o k mounted name x =
      { Attributes.base name e.status (!(mounted && e.status.isDirectory)) with
        flags := if o.ignoreFlags then none else some e.flags
        mtime := (o.timeRule? k mounted).map (·.apply e.status.mtime)
        xattrs := x } := by
  unfold vector Attributes.base
  cases mounted && e.status.isDirectory with
  | true => rfl
  | false => rfl

/-- **Two vectors are equal** exactly if the statuses agree, and the extended attributes do. -/
theorem vector_eq_iff {x y : Option Xattrs} :
    e.vector o k mounted name x = f.vector o k mounted name y ↔
      SameStatus o k mounted e f ∧ x = y := by
  -- What a status is the status of stands in its mode.
  have hdevice : e.status.mode = f.status.mode → f.status.isDevice = e.status.isDevice := by
    intro hmode
    unfold Meta.isDevice Meta.type
    rw [hmode]
  have hdirectory : e.status.mode = f.status.mode →
      f.status.isDirectory = e.status.isDirectory := by
    intro hmode
    unfold Meta.isDirectory Meta.type
    rw [hmode]
  unfold vector
  rw [Attributes.mk.injEq]
  constructor
  · rintro ⟨-, hmode, huid, hgid, hrdev, hnlink, hflags, hmtime, hxattrs⟩
    have hm : e.status.mode = f.status.mode := UInt32.toNat_inj.1 (Text.octal_injective hmode)
    rw [hdevice hm] at hrdev
    rw [hdirectory hm] at hnlink
    refine ⟨⟨hm, huid, hgid, ?_, ?_, ?_, Options.map_timeRule?_eq_iff.1 hmtime⟩, hxattrs⟩
    · intro hd
      simpa [hd] using hrdev
    · intro hd
      simpa [hd] using hnlink
    · intro hd
      simpa [hd] using hflags
  · rintro ⟨h, hxattrs⟩
    rw [hdevice h.mode, hdirectory h.mode, h.mode, h.uid, h.gid]
    refine ⟨rfl, rfl, rfl, rfl, ?_, ?_, ?_, Options.map_timeRule?_eq_iff.2 h.mtime, hxattrs⟩
    · cases hd : e.status.isDevice with
      | false => rfl
      | true => rw [h.rdev hd]
    · cases hd : mounted && e.status.isDirectory with
      | true => rfl
      | false => rw [h.nlink hd]
    · cases hd : o.ignoreFlags with
      | true => rfl
      | false => rw [h.flags hd]

/-! ### Extended attributes -/

theorem comparedXattrs_eq_of_same (h : o.ignoreXattrs = false → SameXattrs e.xattrs f.xattrs) :
    e.comparedXattrs o = f.comparedXattrs o := by
  unfold comparedXattrs
  cases hignore : o.ignoreXattrs with
  | true => rfl
  | false =>
    show e.xattrs.map _ = f.xattrs.map _
    refine (h hignore).map_eq fun m n hmn => ?_
    rw [dropLabel_eq_iff.2 hmn]

/-- The same extended attributes are compared on both sides exactly if they can be read on both
sides and differ in the label at most. -/
theorem exists_comparedXattrs_iff :
    (∃ x, e.comparedXattrs o = .ok x ∧ f.comparedXattrs o = .ok x) ↔
      e.Readable o ∧ f.Readable o ∧ (o.ignoreXattrs = false → SameXattrs e.xattrs f.xattrs) := by
  unfold comparedXattrs Readable
  cases o.ignoreXattrs with
  | true => simp
  | false =>
    cases he : e.xattrs with
    | error g => simp [Except.map]
    | ok m =>
      cases hf : f.xattrs with
      | error g' => simp [Except.map]
      | ok n => simp [Except.map, SameXattrs, agree_ok_ok_iff, ← dropLabel_eq_iff, eq_comm]

/-! ### Both together -/

/-- **Entries that are alike have one vector**, or fail with one fault. -/
theorem attributes_eq_of_alike (h : Alike o k mounted e f) :
    e.attributes o k mounted name = f.attributes o k mounted name := by
  unfold attributes
  rw [comparedXattrs_eq_of_same h.xattrs]
  cases f.comparedXattrs o with
  | error g => rfl
  | ok x =>
    show Except.ok (e.vector o k mounted name x) = Except.ok (f.vector o k mounted name x)
    rw [vector_eq_iff.2 ⟨h.toSameStatus, rfl⟩]

theorem attributes_eq_ok_iff {v : Attributes} :
    e.attributes o k mounted name = .ok v ↔
      ∃ x, e.comparedXattrs o = .ok x ∧ e.vector o k mounted name x = v := by
  unfold attributes
  cases e.comparedXattrs o <;> simp [Except.map]

theorem readable_iff (k : Capabilities) (mounted : Bool) (name : Bytes) :
    e.Readable o ↔ ∃ v, e.attributes o k mounted name = .ok v := by
  unfold Readable attributes comparedXattrs
  cases o.ignoreXattrs with
  | true => simp [Except.map]
  | false => cases e.xattrs <;> simp [Except.map]

/-- There is no vector exactly if extended attributes are compared and cannot be read. -/
theorem attributes_eq_error_iff {name : Bytes} {cause : Fault} :
    e.attributes o k mounted name = .error cause ↔
      o.ignoreXattrs = false ∧ e.xattrs = .error cause := by
  unfold attributes comparedXattrs
  cases o.ignoreXattrs with
  | true => simp [Except.map]
  | false => cases e.xattrs <;> simp [Except.map]

/-- **Two entries have one vector** exactly if both can be read and they are alike. -/
theorem exists_attributes_iff (name : Bytes) :
    (∃ v, e.attributes o k mounted name = .ok v ∧ f.attributes o k mounted name = .ok v) ↔
      e.Readable o ∧ f.Readable o ∧ Alike o k mounted e f := by
  constructor
  · rintro ⟨v, he, hf⟩
    obtain ⟨x, hx, hex⟩ := attributes_eq_ok_iff.1 he
    obtain ⟨y, hy, hfy⟩ := attributes_eq_ok_iff.1 hf
    obtain ⟨hstatus, rfl⟩ := vector_eq_iff.1 (hex.trans hfy.symm)
    obtain ⟨hre, hrf, hxattrs⟩ := exists_comparedXattrs_iff.1 ⟨x, hx, hy⟩
    exact ⟨hre, hrf, hstatus, hxattrs⟩
  · rintro ⟨hre, hrf, h⟩
    obtain ⟨x, hx, hy⟩ := exists_comparedXattrs_iff.2 ⟨hre, hrf, h.xattrs⟩
    refine ⟨_, attributes_eq_ok_iff.2 ⟨x, hx, rfl⟩, ?_⟩
    exact attributes_eq_ok_iff.2 ⟨x, hy, (vector_eq_iff.2 ⟨h.toSameStatus, rfl⟩).symm⟩

end Seen

end RestoreCheck
