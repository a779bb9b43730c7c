import Mathlib
import RestoreCheck.Proofs.Compare.Equivalence

/-!
# Trees that compare equal

A tree compares equal to itself exactly if all of it can be read: its directories listed, its
entries described, and its regular files and extended attributes read (`World.Legible`).  What its
links lead to, and how long its files say that they are, does not matter.  And where one verdict on
mounted views holds for all pairs, trees that compare equal to one tree compare equal to each other
(`Comparator.run_self_iff_and_trans`).

That the root can be listed, and files and extended attributes below it be read, is not enough for
the first (`Comparator.rejects_illegible`).
-/

namespace RestoreCheck

/-! ### The directories of a tree -/

namespace View

variable {v : View} {root a b c x y z : Path} {n : Name}

/-- **The directories of a tree**: its root, and those that are reached from it through
directories. -/
inductive Within (v : View) (root : Path) : Path → Prop where
  | root : Within v root root
  | descend {d : Path} {n : Name} (above : Within v root d) (holds : v.Holds d n)
      (directory : v.isDirectory (d.join n.bytes) = true) : Within v root (d.join n.bytes)

theorem Within.entered (h : v.Within root x) : v.Entered root root x x := by
  induction h with
  | root => exact .root
  | descend above holds directory ih => exact .descend ih ⟨holds, holds, directory, directory⟩

theorem Entered.within_left (h : v.Entered a b x y) : v.Within a x := by
  induction h with
  | root => exact .root
  | descend above step ih => exact .descend ih step.holds_left step.isDirectory_left

theorem Entered.within_right (h : v.Entered a b x y) : v.Within b y := by
  induction h with
  | root => exact .root
  | descend above step ih => exact .descend ih step.holds_right step.isDirectory_right

/-- In a tree and itself a place is one directory. -/
theorem Entered.eq_of_self (h : v.Entered root root x y) : x = y := by
  induction h with
  | root => rfl
  | descend above step ih => rw [ih]

/-- **All entries of a tree lie on one device**, as far as their statuses can be read. -/
def OnDevice (v : View) (root : Path) (device : UInt64) : Prop :=
  ∀ {d n m}, v.Within root d → v.Holds d n → v.status (d.join n.bytes) = .ok m → m.device = device

theorem SameContent.trans (h : v.SameContent a b) (h' : v.SameContent b c) :
    v.SameContent a c := by
  obtain ⟨s, t, hs, ht, hsf, -, hst⟩ := h
  obtain ⟨t', u, ht', hu, -, huf, htu⟩ := h'
  obtain rfl : t = t' := Except.ok.inj (ht.symm.trans ht')
  exact ⟨s, u, hs, hu, hsf, huf, hst.trans htu⟩

theorem LeadAlike.trans (h : v.LeadAlike a b) (h' : v.LeadAlike b c) : v.LeadAlike a c := by
  -- The path in the middle leads to one thing, so no other two cases go together.
  cases h with
  | directories ha hb =>
    cases h' with
    | directories hb' hc => exact .directories ha hc
    | files hb' _ _ | specials hb' _ | nowhere hb' _ => cases hb.symm.trans hb'
  | files ha hb content =>
    cases h' with
    | files hb' hc content' =>
      cases hb.symm.trans hb'
      exact .files ha hc (content.trans content')
    | directories hb' _ | specials hb' _ | nowhere hb' _ => cases hb.symm.trans hb'
  | specials ha hb =>
    cases h' with
    | specials hb' hc => exact .specials ha hc
    | directories hb' _ | files hb' _ _ | nowhere hb' _ => cases hb.symm.trans hb'
  | nowhere ha hb =>
    cases h' with
    | nowhere hb' hc => exact .nowhere ha hc
    | directories hb' _ | files hb' _ _ | specials hb' _ => cases hb.symm.trans hb'

/-- A path leads to the same thing as itself, unless that is a file that cannot be read. -/
theorem leadAlike_self_iff :
    v.LeadAlike a a ↔
      ∀ length, v.target a = .ok (.file length) → ∃ s, v.content a = .ok s ∧ s.failure = none := by
  constructor
  · intro h length ha
    cases h with
    | directories ha' _ => cases ha.symm.trans ha'
    | files _ _ content =>
      obtain ⟨s, -, hs, -, hfailure, -⟩ := content
      exact ⟨s, hs, hfailure⟩
    | specials ha' _ => cases ha.symm.trans ha'
    | nowhere ha' _ => cases ha.symm.trans ha'
  · intro h
    cases ha : v.target a with
    | error f => exact .nowhere ha ha
    | ok t =>
      cases t with
      | directory => exact .directories ha ha
      | special => exact .specials ha ha
      | file length =>
        obtain ⟨s, hs, hfailure⟩ := h length ha
        exact .files ha ha ⟨s, s, hs, hs, hfailure, hfailure, rfl⟩

end View

/-! ### Entries that are alike -/

namespace Seen

variable {o : Options} {k : Capabilities} {mounted : Bool} {e f g : Seen}

theorem Alike.refl (o : Options) (k : Capabilities) (mounted : Bool) (e : Seen) :
    e.Alike o k mounted e where
  mode := rfl
  uid := rfl
  gid := rfl
  rdev _ := rfl
  nlink _ := rfl
  flags _ := rfl
  mtime := Options.map_timeRule?_eq_iff.1 rfl
  xattrs _ := by
    cases e.xattrs with
    | error cause => exact .fault cause
    | ok m => exact .value fun _ _ => rfl

theorem SameXattrs.trans {x y z : Except Fault Xattrs} (h : SameXattrs x y)
    (h' : SameXattrs y z) : SameXattrs x z := by
  cases h with
  | fault cause => exact h'
  | value hxy =>
    cases h' with
    | value hyz => exact .value fun key hkey => (hxy key hkey).trans (hyz key hkey)

theorem Alike.trans (h : e.Alike o k mounted f) (h' : f.Alike o k mounted g) :
    e.Alike o k mounted g where
  mode := h.mode.trans h'.mode
  uid := h.uid.trans h'.uid
  gid := h.gid.trans h'.gid
  -- The kind of the entry in the middle stands in its mode.
  rdev hdevice := by
    have hmiddle : f.status.isDevice = true := by
      unfold Meta.isDevice Meta.type at hdevice ⊢
      rw [← h.mode]
      exact hdevice
    exact (h.rdev hdevice).trans (h'.rdev hmiddle)
  nlink hdirectory := by
    have hmiddle : (mounted && f.status.isDirectory) = false := by
      unfold Meta.isDirectory Meta.type at hdirectory ⊢
      rw [← h.mode]
      exact hdirectory
    exact (h.nlink hdirectory).trans (h'.nlink hmiddle)
  flags hignore := (h.flags hignore).trans (h'.flags hignore)
  mtime := by
    have hone := Options.map_timeRule?_eq_iff.2 h.mtime
    have hother := Options.map_timeRule?_eq_iff.2 h'.mtime
    exact Options.map_timeRule?_eq_iff.1 (hone.trans hother)
  xattrs hignore := (h.xattrs hignore).trans (h'.xattrs hignore)

end Seen

namespace World

variable {w : World} {o : Options} {k : Capabilities} {a b c x y z d p : Path}

/-! ### A tree and itself -/

/-- The files that the entries of a directory lead to, and their extended attributes unless these
are ignored, can be read. -/
structure ContentsLegible (w : World) (o : Options) (d : Path) : Prop where
  files : ∀ n length, w.view.Holds d n → w.view.target (d.join n.bytes) = .ok (.file length) →
    ∃ s, w.view.content (d.join n.bytes) = .ok s ∧ s.failure = none
  xattrs : o.ignoreXattrs = false → ∀ n, w.view.Holds d n → ∃ m, w.xattrs (d.join n.bytes) = .ok m

/-- **A directory can be read**, as far as its own entries go. -/
structure Legible (w : World) (o : Options) (d : Path) : Prop
    extends ContentsLegible w o d where
  list : ∃ names, w.view.list d = .ok names
  status : ∀ n, w.view.Holds d n → ∃ m, w.view.status (d.join n.bytes) = .ok m

theorem sameLevel_self_iff : w.SameLevel o k d d ↔ w.Legible o d := by
  constructor
  · intro h
    have hentry {n : Name} (hn : w.view.Holds d n) := h.entries n hn hn
    refine ⟨⟨fun n length hn => ?_, fun hignore n hn => ?_⟩, h.list_left, fun n hn => ?_⟩
    · exact View.leadAlike_self_iff.1 (hentry hn).lead length
    · obtain ⟨m, -, -, -, hread, -⟩ := (hentry hn).seen
      exact hread hignore
    · obtain ⟨m, -, hm, -⟩ := (hentry hn).seen
      exact ⟨m, hm⟩
  · intro h
    refine ⟨h.list, h.list, fun n => Iff.rfl, fun n hn _ => ⟨?_, ?_⟩⟩
    · exact View.leadAlike_self_iff.2 fun length => h.files n length hn
    · obtain ⟨m, hm⟩ := h.status n hn
      have hread : (w.seen (d.join n.bytes) m).Readable o := fun hignore => h.xattrs hignore n hn
      exact ⟨m, m, hm, hm, hread, hread, .refl o k _ _⟩

/-- **A tree is equivalent to itself** exactly if all its directories can be read. -/
theorem equivalent_self_iff :
    w.Equivalent o k p p ↔ ∀ d, w.view.Within p d → w.Legible o d := by
  rw [equivalent_iff_forall_entered]
  constructor
  · intro h d hd
    exact sameLevel_self_iff.1 (h d d hd.entered)
  · intro h x y hxy
    obtain rfl := hxy.eq_of_self
    exact sameLevel_self_iff.2 (h x hxy.within_left)

/-! ### Three trees -/

theorem Matching.isDirectory_eq (h : w.Matching o k a b) :
    w.view.isDirectory a = w.view.isDirectory b := by
  obtain ⟨m, m', hm, hm', -, -, halike⟩ := h.seen
  have hmode : m.mode = m'.mode := halike.mode
  unfold View.isDirectory
  rw [hm, hm']
  dsimp only
  unfold Meta.isDirectory Meta.type
  rw [hmode]

/-- Entries that match one entry match each other, under one verdict on mounted views. -/
theorem Matching.trans (mounted : Bool) (h : w.Matching o k a b) (h' : w.Matching o k b c)
    (hab : ∀ m m', w.view.status a = .ok m → w.view.status b = .ok m' →
      o.mountedView.applies m m' = mounted)
    (hbc : ∀ m m', w.view.status b = .ok m → w.view.status c = .ok m' →
      o.mountedView.applies m m' = mounted)
    (hac : ∀ m m', w.view.status a = .ok m → w.view.status c = .ok m' →
      o.mountedView.applies m m' = mounted) : w.Matching o k a c := by
  refine ⟨h.lead.trans h'.lead, ?_⟩
  obtain ⟨m, m', hm, hm', hreada, -, hone⟩ := h.seen
  obtain ⟨n', m'', hn', hm'', -, hreadc, hother⟩ := h'.seen
  obtain rfl : m' = n' := Except.ok.inj (hm'.symm.trans hn')
  refine ⟨m, m'', hm, hm'', hreada, hreadc, ?_⟩
  rw [hab m m' hm hm'] at hone
  rw [hbc m' m'' hm' hm''] at hother
  rw [hac m m'' hm hm'']
  exact hone.trans hother

/-- **Between two directories at one place of the outer trees** stands one of the middle tree. -/
theorem exists_entered_between (hab : ∀ x y, w.view.Entered a b x y → w.SameLevel o k x y)
    (h : w.view.Entered a c x z) :
    ∃ y, w.view.Entered a b x y ∧ w.view.Entered b c y z := by
  induction h with
  | root => exact ⟨b, .root, .root⟩
  | @descend x z n above step ih =>
    obtain ⟨y, hxy, hyz⟩ := ih
    have hlevel := hab x y hxy
    have hn : w.view.Holds y n := (hlevel.names n).1 step.holds_left
    have hdirectory : w.view.isDirectory (y.join n.bytes) = true := by
      rw [← (hlevel.entries n step.holds_left hn).isDirectory_eq]
      exact step.isDirectory_left
    refine ⟨y.join n.bytes, .descend hxy ?_, .descend hyz ?_⟩
    · exact ⟨step.holds_left, hn, step.isDirectory_left, hdirectory⟩
    · exact ⟨hn, step.holds_right, hdirectory, step.isDirectory_right⟩

end World

/-- All entries of two trees on one device are seen through a mount, or none is, by a rule that does
not go by devices. -/
theorem ViewRule.exists_verdict (rule : ViewRule) (device : UInt64) :
    ∃ mounted, ∀ m n : Meta, (rule = .detect → m.device = device ∧ n.device = device) →
      rule.applies m n = mounted := by
  cases rule with
  | detect =>
    refine ⟨false, fun m n h => ?_⟩
    obtain ⟨hm, hn⟩ := h rfl
    show decide (m.device ≠ n.device) = false
    rw [hm, hn]
    exact decide_eq_false (not_not_intro rfl)
  | right => exact ⟨true, fun _ _ _ => rfl⟩
  | never => exact ⟨false, fun _ _ _ => rfl⟩

namespace World

variable {w : World} {o : Options} {k : Capabilities} {a b c : Path}

/-- **Trees that are equivalent to one tree are equivalent**, if all three lie on one device or the
rule for mounted views does not go by devices. -/
theorem Equivalent.trans {device : UInt64}
    (hdevice : o.mountedView = .detect → w.view.OnDevice a device ∧ w.view.OnDevice b device ∧
      w.view.OnDevice c device)
    (h : w.Equivalent o k a b) (h' : w.Equivalent o k b c) : w.Equivalent o k a c := by
  rw [equivalent_iff_forall_entered] at h h' ⊢
  intro x z hxz
  obtain ⟨y, hxy, hyz⟩ := exists_entered_between h hxz
  have hone := h x y hxy
  have hother := h' y z hyz
  obtain ⟨mounted, hmounted⟩ := o.mountedView.exists_verdict device
  refine ⟨hone.list_left, hother.list_right, fun n => (hone.names n).trans (hother.names n), ?_⟩
  intro n hxn hzn
  have hyn : w.view.Holds y n := (hone.names n).1 hxn
  refine Matching.trans mounted (hone.entries n hxn hyn) (hother.entries n hyn hzn) ?_ ?_ ?_
  · intro m m' hm hm'
    refine hmounted m m' fun hdetect => ?_
    obtain ⟨ha, hb, -⟩ := hdevice hdetect
    exact ⟨ha hxy.within_left hxn hm, hb hxy.within_right hyn hm'⟩
  · intro m m' hm hm'
    refine hmounted m m' fun hdetect => ?_
    obtain ⟨-, hb, hc⟩ := hdevice hdetect
    exact ⟨hb hyz.within_left hyn hm, hc hyz.within_right hzn hm'⟩
  · intro m m' hm hm'
    refine hmounted m m' fun hdetect => ?_
    obtain ⟨ha, -, hc⟩ := hdevice hdetect
    exact ⟨ha hxz.within_left hxn hm, hc hxz.within_right hzn hm'⟩

end World

/-- **Equality of trees is reflexive and transitive.**  A tree compares equal to itself exactly if
all its directories can be read.  Trees that compare equal to one tree compare equal to each other,
unless the rule for mounted views goes by devices and the three lie on several. -/
theorem Comparator.run_self_iff_and_trans {σ : Type} (c : Comparator σ) (h : c.inspector.IsSteady)
    (s : σ) :
    (∀ p, (c.run p p s).1 = .ok () ↔
      ∀ d, (c.inspector.view s).Within p d → (c.inspector.world s).Legible c.options d) ∧
    ∀ x y z device,
      (c.options.mountedView = .detect → (c.inspector.view s).OnDevice x device ∧
        (c.inspector.view s).OnDevice y device ∧ (c.inspector.view s).OnDevice z device) →
      (c.run x y s).1 = .ok () → (c.run y z s).1 = .ok () → (c.run x z s).1 = .ok () := by
  have hrun (p q : Path) : (c.run p q s).1 = .ok () ↔
      (c.inspector.world s).Equivalent c.options c.capabilities p q := by
    rw [c.run_eq_traversal h]
    exact World.outcome_traversal_eq_ok_iff_equivalent
  refine ⟨fun p => (hrun p p).trans World.equivalent_self_iff, ?_⟩
  intro x y z device hdevice hxy hyz
  rw [hrun] at hxy hyz ⊢
  exact hxy.trans hdevice hyz

/-- Below a directory with one entry that is no file and cannot be listed, there are no contents to
read. -/
theorem World.contentsLegible_of_within {w : World} {o : Options} {root d : Path} {n : Name}
    (hlist : w.view.list root = .ok [n])
    (hbelow : ∃ cause, w.view.list (root.join n.bytes) = .error cause)
    (htarget : ∀ length, w.view.target (root.join n.bytes) ≠ .ok (.file length))
    (hxattrs : o.ignoreXattrs = false → ∃ m, w.xattrs (root.join n.bytes) = .ok m)
    (hd : w.view.Within root d) : w.ContentsLegible o d := by
  have hroot {m : Name} (hm : w.view.Holds root m) : m = n :=
    List.mem_singleton.1 ((View.holds_iff_mem hlist).1 hm)
  have hnone (m : Name) : ¬ w.view.Holds (root.join n.bytes) m := by
    rintro ⟨names, hnames, -⟩
    obtain ⟨cause, hcause⟩ := hbelow
    cases hnames.symm.trans hcause
  have heq : d = root ∨ d = root.join n.bytes := by
    induction hd with
    | root => exact .inl rfl
    | descend above holds _ ih =>
      rcases ih with rfl | rfl
      · rw [hroot holds]
        exact .inr rfl
      · exact absurd holds (hnone _)
  rcases heq with rfl | rfl
  · refine ⟨fun m length hm ht => ?_, fun hignore m hm => ?_⟩
    · rw [hroot hm] at ht
      exact absurd ht (htarget length)
    · rw [hroot hm]
      exact hxattrs hignore
  · exact ⟨fun m _ hm => absurd hm (hnone m), fun _ m hm => absurd hm (hnone m)⟩

/-- **A tree need not compare equal to itself** although its root can be listed and all files and
extended attributes in it be read: a directory in it may be closed to listing, or the root to
looking at its entries. -/
theorem Comparator.rejects_illegible :
    let a : Path := [0x61]
    let directory := FileSystem.plain .directory
    let closed := FileSystem.trio 0o755 { directory with permissions := 0 } directory directory
    let locked := FileSystem.trio 0o400 directory directory directory
    let noXattrs := { Options.default with ignoreXattrs := true }
    let fault := Failure.unreadable [0x61, 0x2F, 0x66] (.system .denied)
    ((∃ names, closed.view.list a = .ok names) ∧
      (∀ d, closed.view.Within a d →
        (strict.inspector.world closed).ContentsLegible strict.options d) ∧
      (strict.run a a closed).1 = .error fault) ∧
    (∃ names, locked.view.list a = .ok names) ∧
      (∀ d, locked.view.Within a d →
        (strict.inspector.world locked).ContentsLegible noXattrs d) ∧
      (Comparator.run { strict with options := noXattrs } a a locked).1 = .error fault := by
  intro a directory closed locked noXattrs fault
  let f : Name := ⟨[0x66], by decide, by decide⟩
  have hclosed : closed.view.list a = .ok [f] := by cbv
  have hlocked : locked.view.list a = .ok [f] := by cbv
  refine ⟨⟨⟨_, hclosed⟩, fun d hd => ?_, by cbv⟩, ⟨_, hlocked⟩, fun d hd => ?_, by cbv⟩
  · have htarget : closed.target [0x61, 0x2F, 0x66] = .ok .directory := by cbv
    refine World.contentsLegible_of_within hclosed ⟨.system .denied, by cbv⟩ ?_ ?_ hd
    · intro length hfile
      cases htarget.symm.trans hfile
    · exact fun _ => ⟨.empty, by cbv⟩
  · have htarget : locked.target [0x61, 0x2F, 0x66] = .error (.system .denied) := by cbv
    refine World.contentsLegible_of_within hlocked ⟨.system .denied, by cbv⟩ ?_ ?_ hd
    · intro length hfile
      cases htarget.symm.trans hfile
    · exact fun hxattrs => absurd hxattrs Bool.noConfusion

/-- Three files with one content, dated within a microsecond, on a platform that keeps no more. -/
theorem Comparator.micro_run_self_iff_and_trans :
    let file (nanos : Nat) : Node :=
      { FileSystem.plain (.file 1 (.ok [0x30])) with modified := ⟨7, nanos⟩ }
    let fs := FileSystem.trio 0o755 (file 0) (file 300) (file 400)
    let c : Comparator FileSystem :=
      { strict with capabilities := .ofAnswers (fun _ => true) .microsecond }
    c.inspector.IsSteady ∧
      ((c.run [0x61] [0x61] fs).1 = .ok () ↔
        ∀ d, fs.view.Within [0x61] d → (c.inspector.world fs).Legible c.options d) ∧
      (c.options.mountedView = .detect → fs.view.OnDevice [0x61] 1 ∧ fs.view.OnDevice [0x62] 1 ∧
        fs.view.OnDevice [0x63] 1) ∧
      (c.run [0x61] [0x62] fs).1 = .ok () ∧ (c.run [0x62] [0x63] fs).1 = .ok () ∧
      (c.run [0x61] [0x63] fs).1 = .ok () := by
  intro file fs c
  have hdevice (root : Path) : fs.view.OnDevice root 1 := by
    intro d n m _ _ hm
    obtain ⟨l, node, hnode, rfl⟩ := FileSystem.status_eq_ok hm
    have hall : fs.nodes.all (fun node => node.device = 1) = true := by cbv
    exact of_decide_eq_true (Array.all_eq_true_iff_forall_mem.1 hall node hnode)
  have hab : (c.run [0x61] [0x62] fs).1 = .ok () := by cbv
  have hbc : (c.run [0x62] [0x63] fs).1 = .ok () := by cbv
  obtain ⟨hself, htrans⟩ := c.run_self_iff_and_trans Inspector.isSteady_ofFiles fs
  exact ⟨Inspector.isSteady_ofFiles, hself [0x61], fun _ => ⟨hdevice _, hdevice _, hdevice _⟩,
    hab, hbc, htrans [0x61] [0x62] [0x63] 1 (fun _ => ⟨hdevice _, hdevice _, hdevice _⟩) hab hbc⟩

end RestoreCheck
