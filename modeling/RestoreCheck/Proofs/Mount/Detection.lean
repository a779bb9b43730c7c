import Mathlib
import RestoreCheck.Mount.Detection
import RestoreCheck.Proofs.Compare.World
import RestoreCheck.Proofs.Files.Entries

/-!
# Mount points are detected

In a tree of devices a directory is known by its device and its number, so the two questions of
`FileSystem.isMountPoint` come to one: whether the directory that a path leads to is the root or
lies on another device than the one above it (`FileSystem.detectsMounts`).  Links on the way to it
do not matter, since the directory above is that of the place they lead to.

The answer needs the path of the directory above, though.  It is longer, and it leads through the
directory itself.  So a mount point that cannot be searched, or whose path is almost as long as
paths can be, is not detected (`FileSystem.isMountPoint_misses`).
-/

namespace RestoreCheck.FileSystem

variable {fs : FileSystem} {p : Path} {k l : Location} {x y : Node}

/-! ### Trees of devices -/

theorem deviceAt_of_node (h : fs.node? l = some x) : fs.deviceAt l = some x.device := by
  rw [deviceAt, h]
  rfl

/-- **A tree of devices**: everything stands in a directory, and different directories on one device
have different numbers. -/
structure IsDeviceTree (fs : FileSystem) : Prop where
  inDirectory : ∀ {n k x}, fs.node? (n :: k) = some x → fs.isDirectoryAt k = true
  distinct : ∀ {k l x y}, fs.node? k = some x → fs.node? l = some y → x.isDirectory = true →
    y.isDirectory = true → x.device = y.device → x.number = y.number → k = l

/-- A file system is a tree of devices if the names in its table are those of one. -/
theorem IsDeviceTree.of_names
    (habove : (fs.names.all fun e => e.1 = [] || fs.isDirectoryAt e.1.tail) = true)
    (hapart : (fs.names.all fun e => fs.names.all fun e' =>
      e.1 = e'.1 || !fs.isDirectoryAt e.1 || !fs.isDirectoryAt e'.1 ||
        fs.deviceAt e.1 ≠ fs.deviceAt e'.1 ||
        (fs.node? e.1).map Node.number ≠ (fs.node? e'.1).map Node.number) = true) :
    fs.IsDeviceTree where
  inDirectory {n k x} hx := by
    obtain ⟨e, he, hl⟩ := exists_mem_names_of_node hx
    have hdirectory := List.all_eq_true.1 habove e he
    rw [hl] at hdirectory
    simpa using hdirectory
  distinct {k l x y} hx hy hkind hkind' hdevice hnumber := by
    obtain ⟨e, he, rfl⟩ := exists_mem_names_of_node hx
    obtain ⟨e', he', rfl⟩ := exists_mem_names_of_node hy
    have h := List.all_eq_true.1 (List.all_eq_true.1 hapart e he) e' he'
    simpa [isDirectoryAt, deviceAt, hx, hy, hkind, hkind', hdevice, hnumber] using h

/-! ### The path of the directory above -/

theorem enterable_iff :
    fs.enterable l = .ok () ↔
      ∃ x, fs.node? l = some x ∧ x.isDirectory = true ∧ x.grants .search = true := by
  unfold enterable
  cases fs.node? l with
  | none => simp
  | some x => cases hd : x.isDirectory <;> cases hs : x.grants .search <;> simp [hd, hs]

theorem checkPath_eq_ok_iff : checkPath p = .ok () ↔ 0 ∉ p ∧ p ≠ [] ∧ p.length < Path.limit := by
  unfold checkPath
  by_cases hzero : 0 ∈ p
  · simp [hzero]
  · by_cases hnil : p = []
    · simp [hnil]
    · by_cases hlong : Path.limit ≤ p.length
      · simp [hzero, hnil, hlong]
      · simp [hzero, hnil, hlong, Nat.lt_of_not_le hlong]

theorem checkPath_join_above_iff (hp : checkPath p = .ok ()) :
    checkPath (p.join above) = .ok () ↔ (p.join above).length < Path.limit := by
  obtain ⟨hzero, hnil, -⟩ := checkPath_eq_ok_iff.1 hp
  obtain ⟨added, hadded, hjoin⟩ : ∃ added, 0 ∉ added ∧ p.join above = p ++ added := by
    unfold Path.join
    rw [if_neg (show ¬above.isAbsolute = true by decide)]
    split
    · exact ⟨above, by decide, rfl⟩
    · exact ⟨slash :: above, by decide, rfl⟩
  have hzero' : 0 ∉ p.join above := by
    rw [hjoin, List.mem_append]
    exact fun hmem => hmem.elim hzero hadded
  have hnil' : p.join above ≠ [] := by
    rw [hjoin]
    exact List.append_ne_nil_of_left_ne_nil hnil _
  rw [checkPath_eq_ok_iff]
  exact ⟨fun h => h.2.2, fun hshort => ⟨hzero', hnil', hshort⟩⟩

/-- **The path of the directory above** leads there if the directory can be searched and the path is
short enough. -/
theorem find_join_above_iff (hp : fs.locate .target p = .ok l) :
    fs.find .entry (p.join above) = .ok (.existing k) ↔
      fs.enterable l = .ok () ∧ (p.join above).length < Path.limit ∧ k = l.tail := by
  have hne : p ≠ [] := ne_nil_of_locate hp
  have hcheck : checkPath p = .ok () :=
    ((find_eq_ok_iff (by decide)).1 (locate_eq_ok_iff.1 hp)).1
  have hsteps : Goal.entry.steps (p.join above) = p.namedSteps ++ [.up] :=
    Path.steps_join hne .dotDot
  constructor
  · intro h
    have hlong := ((find_eq_ok_iff (by decide)).1 h).1
    obtain ⟨links, hup⟩ := leads_join (n := .dotDot) hp (by decide) (by decide) h
    generalize hf : Found.existing k = f at hup
    cases hup with
    | up henter hnext =>
      cases hnext with
      | here =>
        exact ⟨henter, (checkPath_join_above_iff hcheck).1 hlong, Found.existing.inj hf⟩
  · rintro ⟨henter, hshort, rfl⟩
    obtain ⟨s, hstart, hleads⟩ := exists_leads_of_locate hp
    have habove : fs.Leads .entry linkLimit s (p.namedSteps ++ [.up]) (.existing l.tail) :=
      hleads.append (List.cons_ne_nil _ _) fun _ => .up henter .here
    refine (find_eq_ok_iff (by decide)).2 ⟨(checkPath_join_above_iff hcheck).2 hshort, s, ?_, ?_⟩
    · exact (start_join hne .dotDot).trans hstart
    · rw [hsteps]
      exact habove

/-! ### Which paths are detected -/

/-- What the answer is made of: the entry, which must be no link, and the entry above it. -/
theorem isMountPoint_eq_true_iff :
    fs.isMountPoint p = true ↔ ∃ l x k y, fs.lookup .entry p = .ok (l, x) ∧
      (∀ target, x.kind ≠ .symlink target) ∧ fs.lookup .entry (p.join above) = .ok (k, y) ∧
      (x.device ≠ y.device ∨ x.number = y.number) := by
  unfold isMountPoint
  cases hp : fs.lookup .entry p with
  | error e => simp
  | ok r =>
    obtain ⟨l, x⟩ := r
    cases hk : x.kind with
    | symlink target => simp [hk]
    | _ =>
      cases habove : fs.lookup .entry (p.join above) with
      | error e => simp [hk]
      | ok r' =>
        obtain ⟨k, y⟩ := r'
        simp [hk]

/-- **Where the two entries stand**: one in a directory that can be searched, the other above it. -/
theorem lookup_join_above_iff (hp : fs.lookup .entry p = .ok (l, x))
    (hkind : ∀ target, x.kind ≠ .symlink target) :
    fs.lookup .entry (p.join above) = .ok (k, y) ↔
      (x.isDirectory = true ∧ x.grants .search = true) ∧ (p.join above).length < Path.limit ∧
        k = l.tail ∧ fs.node? k = some y := by
  have htarget := lookup_target_of_entry hp hkind
  obtain ⟨hfind, hx⟩ := lookup_eq_ok_iff.1 htarget
  have henter : fs.enterable l = .ok () ↔ x.isDirectory = true ∧ x.grants .search = true := by
    rw [enterable_iff, hx]
    simp
  rw [lookup_eq_ok_iff, find_join_above_iff (locate_eq_ok_iff.2 hfind), henter]
  simp only [and_assoc]

/-- **The directory above** is another one, unless it is the root. -/
theorem IsDeviceTree.device_or_number_iff (htree : fs.IsDeviceTree) (hx : fs.node? l = some x)
    (hy : fs.node? l.tail = some y) (hdirectory : x.isDirectory = true) :
    x.device ≠ y.device ∨ x.number = y.number ↔ l = [] ∨ fs.isMountedAt l = true := by
  have hmounted : fs.isMountedAt l = true ↔ x.device ≠ y.device := by
    rw [isMountedAt, deviceAt_of_node hx, deviceAt_of_node hy]
    simp
  rw [hmounted]
  cases l with
  | nil =>
    obtain rfl : x = y := Option.some.inj (hx.symm.trans hy)
    exact iff_of_true (.inr rfl) (.inl rfl)
  | cons n k =>
    obtain ⟨y', hy', hkind⟩ := (Option.any_eq_true _ _).1 (htree.inDirectory hx)
    obtain rfl : y' = y := Option.some.inj (hy'.symm.trans hy)
    have hapart : x.device = y'.device → x.number ≠ y'.number := fun hdevice hnumber =>
      List.cons_ne_self n k (htree.distinct hx hy hdirectory hkind hdevice hnumber)
    by_cases hdevice : x.device = y'.device
    · simp [hdevice, hapart hdevice]
    · simp [hdevice]

theorem IsDeviceTree.exists_node_tail (htree : fs.IsDeviceTree) (hx : fs.node? l = some x) :
    ∃ y, fs.node? l.tail = some y := by
  cases l with
  | nil => exact ⟨x, hx⟩
  | cons n k =>
    obtain ⟨y, hy, -⟩ := (Option.any_eq_true _ _).1 (htree.inDirectory hx)
    exact ⟨y, hy⟩

theorem kind_ne_symlink_of_directory {target : Path} (h : x.isDirectory = true) :
    x.kind ≠ .symlink target := by
  intro hkind
  rw [Node.isDirectory, hkind] at h
  cases h

/-- **A path is a mount point** if it leads to a directory that is the root or lies on another
device than the one above it, and the one above is found. -/
theorem IsDeviceTree.isMountPoint_eq_true_iff (htree : fs.IsDeviceTree) (p : Path) :
    fs.isMountPoint p = true ↔ ∃ l x, fs.lookup .entry p = .ok (l, x) ∧ x.isDirectory = true ∧
      (l = [] ∨ fs.isMountedAt l = true) ∧ x.grants .search = true ∧
      (p.join above).length < Path.limit := by
  rw [FileSystem.isMountPoint_eq_true_iff]
  constructor
  · rintro ⟨l, x, k, y, hp, hkind, habove, hanswer⟩
    obtain ⟨⟨hdirectory, hsearch⟩, hshort, rfl, hy⟩ := (lookup_join_above_iff hp hkind).1 habove
    have hx := (lookup_eq_ok_iff.1 hp).2
    have hplace := (htree.device_or_number_iff hx hy hdirectory).1 hanswer
    exact ⟨l, x, hp, hdirectory, hplace, hsearch, hshort⟩
  · rintro ⟨l, x, hp, hdirectory, hplace, hsearch, hshort⟩
    have hx := (lookup_eq_ok_iff.1 hp).2
    have hkind : ∀ target, x.kind ≠ .symlink target := fun _ =>
      kind_ne_symlink_of_directory hdirectory
    obtain ⟨y, hy⟩ := htree.exists_node_tail hx
    have habove : fs.lookup .entry (p.join above) = .ok (l.tail, y) :=
      (lookup_join_above_iff hp hkind).2 ⟨⟨hdirectory, hsearch⟩, hshort, rfl, hy⟩
    have hanswer := (htree.device_or_number_iff hx hy hdirectory).2 hplace
    exact ⟨l, x, l.tail, y, hp, hkind, habove, hanswer⟩

/-- **Which paths are mount points.** -/
structure DetectsMounts (fs : FileSystem) (p : Path) : Prop where
  /-- Exactly those that lead to a directory that is the root or lies on another device than the one
  above it, if it can be searched and the path of the one above is short enough. -/
  iff_mounted : fs.isMountPoint p = true ↔ ∃ l x, fs.lookup .entry p = .ok (l, x) ∧
    x.isDirectory = true ∧ (l = [] ∨ fs.isMountedAt l = true) ∧ x.grants .search = true ∧
    (p.join above).length < Path.limit
  /-- No link is one, wherever it leads. -/
  link : ∀ l x target, fs.lookup .entry p = .ok (l, x) → x.kind = .symlink target →
    fs.isMountPoint p = false
  /-- Nothing else that is no directory is one. -/
  other : ∀ l x, fs.lookup .entry p = .ok (l, x) → x.isDirectory = false →
    fs.isMountPoint p = false
  /-- A path that leads nowhere is none. -/
  unresolved : ∀ f, fs.lookup .entry p = .error f → fs.isMountPoint p = false

/-- **Mount points are detected** in a tree of devices. -/
theorem detectsMounts (htree : fs.IsDeviceTree) (p : Path) : fs.DetectsMounts p := by
  have hother : ∀ l x, fs.lookup .entry p = .ok (l, x) → x.isDirectory = false →
      fs.isMountPoint p = false := by
    intro l x hp hdirectory
    rw [← Bool.not_eq_true, htree.isMountPoint_eq_true_iff]
    rintro ⟨l', x', hp', hdirectory', -⟩
    cases hp.symm.trans hp'
    exact absurd (hdirectory.symm.trans hdirectory') Bool.false_ne_true
  refine ⟨htree.isMountPoint_eq_true_iff p, fun l x target hp hkind => ?_, hother, fun f hp => ?_⟩
  · have hdirectory : x.isDirectory = false :=
      Bool.eq_false_iff.2 fun h => kind_ne_symlink_of_directory h hkind
    exact hother l x hp hdirectory
  · rw [← Bool.not_eq_true, htree.isMountPoint_eq_true_iff]
    rintro ⟨l, x, hp', -⟩
    cases hp.symm.trans hp'

/-! ### A second device -/

/-- The topmost directory of a second device, with some permissions. -/
def secondTop (permissions : UInt32) : Node :=
  { plain .directory with device := 2, permissions }

/-- A second device is mounted on the directory `m`, and holds a directory `d`.  Its topmost
directory has the number that the root has on the first device.  The link `l` leads to `m`. -/
def twoDevices (permissions : UInt32) : FileSystem where
  names := [([], 0), ([Name.letter 0x6D (by decide)], 1),
    ([Name.letter 0x64 (by decide), Name.letter 0x6D (by decide)], 2),
    ([Name.letter 0x6C (by decide)], 3)]
  nodes := #[plain .directory, secondTop permissions,
    { plain .directory with device := 2, number := 2 },
    { plain (.symlink [0x6D]) with number := 2 }]
  cwd := some []
  now := ⟨0, 0⟩
  earliest := []

/-- A slash after a link stands for the directory that the link leads to. -/
theorem detectsMounts_twoDevices :
    (twoDevices 0o755).IsDeviceTree ∧ (twoDevices 0o755).isMountPoint [0x6C, slash] = true ∧
      (twoDevices 0o755).isMountPoint [0x6C] = false := by
  have htree : (twoDevices 0o755).IsDeviceTree := .of_names (by cbv) (by cbv)
  have htop : (twoDevices 0o755).lookup .entry [0x6C, slash] =
      .ok ([Name.letter 0x6D (by decide)], secondTop 0o755) := by cbv
  have hlink : (twoDevices 0o755).lookup .entry [0x6C] =
      .ok ([Name.letter 0x6C (by decide)], { plain (.symlink [0x6D]) with number := 2 }) := by cbv
  refine ⟨htree, (detectsMounts htree _).iff_mounted.2 ⟨_, _, htop, rfl, .inr ?_, ?_, ?_⟩,
    (detectsMounts htree _).link _ _ _ hlink rfl⟩
  · cbv
  · cbv
  · cbv

/-! ### Mount points that are not detected -/

theorem isMountPoint_of_long (hlong : Path.limit ≤ (p.join above).length) :
    fs.isMountPoint p = false := by
  rw [← Bool.not_eq_true, isMountPoint_eq_true_iff]
  rintro ⟨l, x, k, y, -, -, habove, -⟩
  have hshort := length_lt_of_lookup habove
  omega

/-- Any number of slashes leads to the root. -/
theorem locate_slashes {n : Nat} (hpos : 0 < n) (hshort : n < Path.limit) :
    fs.locate .entry (List.replicate n slash) = .ok [] := by
  have hparts : Path.parts (List.replicate n slash) = [] := by
    clear hpos hshort
    induction n with
    | zero => rw [List.replicate_zero, Path.parts]
    | succ n ih => rw [List.replicate_succ, Path.parts, dif_pos rfl, ih]
  have hsteps : Goal.entry.steps (List.replicate n slash) = [] := by
    show Path.steps _ = []
    rw [Path.steps, Path.namedSteps, Path.endsInSlash, hparts]
    simp
  have hcheck : checkPath (List.replicate n slash) = .ok () := by
    refine checkPath_eq_ok_iff.2 ⟨fun hzero => ?_, ?_, ?_⟩
    · exact absurd (List.eq_of_mem_replicate hzero) (by decide)
    · rw [Ne, List.replicate_eq_nil_iff]
      omega
    · rwa [List.length_replicate]
  have hstart : fs.start (List.replicate n slash) = .ok [] := by
    obtain ⟨n, rfl⟩ := Nat.exists_eq_succ_of_ne_zero (Nat.pos_iff_ne_zero.1 hpos)
    rfl
  refine locate_eq_ok_iff.2 ((find_eq_ok_iff (by decide)).2 ⟨hcheck, [], hstart, ?_⟩)
  rw [hsteps]
  exact .here

/-- **The root is not detected** by a path of as many slashes as a path can hold, and a mount point
is not that cannot be searched. -/
theorem isMountPoint_misses :
    ((twoDevices 0o600).IsDeviceTree ∧
      (twoDevices 0o600).lookup .entry (List.replicate 4095 slash) = .ok ([], plain .directory) ∧
      (twoDevices 0o600).isMountPoint (List.replicate 4095 slash) = false) ∧
    (twoDevices 0o600).lookup .entry [0x6D] =
        .ok ([Name.letter 0x6D (by decide)], secondTop 0o600) ∧
      (twoDevices 0o600).isMountedAt [Name.letter 0x6D (by decide)] = true ∧
      (twoDevices 0o600).isMountPoint [0x6D] = false := by
  refine ⟨⟨.of_names (by cbv) (by cbv), ?_, ?_⟩, by cbv, by cbv, by cbv⟩
  · refine lookup_eq_ok_iff.2 ⟨locate_eq_ok_iff.1 (locate_slashes (by decide) (by decide)), ?_⟩
    cbv
  · refine isMountPoint_of_long ?_
    have hlast : (List.replicate 4095 slash).getLast? = some slash := List.getLast?_replicate
    have hjoin : Path.join (List.replicate 4095 slash) above =
        List.replicate 4095 slash ++ above := by
      rw [Path.join, if_neg (show ¬above.isAbsolute = true by decide), if_pos (.inr hlast)]
    rw [hjoin, List.length_append, List.length_replicate]
    decide

end RestoreCheck.FileSystem
