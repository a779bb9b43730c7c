import Mathlib.Data.List.Basic
import Mathlib.Data.List.TakeWhile
import RestoreCheck.Proofs.Compare.Level
import RestoreCheck.Proofs.Files.Paths

/-!
# Entries of directories, by their paths

A path that is joined with a name enters that name last (`Path.steps_join`), so an entry stands
under its name where the path of its directory leads (`FileSystem.eq_of_locate_join`), and if it is
no link its path leads there too (`FileSystem.locate_join`).

After an entry was removed, a directory that can still be listed holds what it held before, but for
that entry (`FileSystem.holds_removeNames_iff`), and an entry that can still be described is of the
kind that it was before (`FileSystem.isDirectory_removeNames`).
-/

namespace RestoreCheck

namespace Path

variable {p : Path}

theorem isAbsolute_name (n : Name) : isAbsolute n.bytes = false := by
  cases hn : n.bytes with
  | nil => rfl
  | cons b bs =>
    have hb : b ≠ slash := by
      rintro rfl
      exact n.slash_notMem (by simp [hn])
    simp [isAbsolute, hb]

theorem parts_name (n : Name) : parts n.bytes = [n] := by
  have hall : ∀ b ∈ n.bytes, decide (b ≠ slash) = true := by
    intro b hb
    exact decide_eq_true fun heq => n.slash_notMem (heq ▸ hb)
  cases hn : n.bytes with
  | nil => exact absurd hn n.bytes_ne_nil
  | cons b bs =>
    rw [hn, List.forall_mem_cons] at hall
    have hb : b ≠ slash := of_decide_eq_true hall.1
    rw [parts, dif_neg hb, List.dropWhile_eq_nil_iff.2 hall.2, parts]
    congr 1
    apply Name.ext
    rw [hn]
    exact congrArg _ (List.takeWhile_eq_self_iff.2 hall.2)

theorem steps_name (n : Name) : steps n.bytes = [Step.ofName n] := by
  have hslash : endsInSlash n.bytes = false := by
    have hlast : n.bytes.getLast? ≠ some slash := fun h => n.slash_notMem (List.mem_of_getLast? h)
    simp [endsInSlash, hlast]
  unfold steps namedSteps
  rw [hslash, parts_name]
  rfl

/-- The names before a slash and those after it. -/
theorem parts_append_slash (p q : Path) : parts (p ++ slash :: q) = parts p ++ parts q := by
  induction p using parts.induct with
  | case1 =>
    have hnil : parts [] = [] := by rw [parts]
    rw [List.nil_append, hnil, List.nil_append, parts, dif_pos rfl]
  | case2 rest ih => rw [List.cons_append, parts, dif_pos rfl, parts, dif_pos rfl, ih]
  | case3 b rest hb ih =>
    have htake : (rest ++ slash :: q).takeWhile (· ≠ slash) = rest.takeWhile (· ≠ slash) := by
      rw [List.takeWhile_append]
      split
      next h =>
        rw [List.takeWhile_cons_of_neg (by simp), List.append_nil]
        exact ((List.takeWhile_prefix _).eq_of_length h).symm
      next => rfl
    have hdrop : (rest ++ slash :: q).dropWhile (· ≠ slash) =
        rest.dropWhile (· ≠ slash) ++ slash :: q := by
      rw [List.dropWhile_append]
      split
      next h =>
        rw [List.isEmpty_iff.1 h, List.dropWhile_cons_of_neg (by simp), List.nil_append]
      next => rfl
    rw [List.cons_append, parts, dif_neg hb, parts, dif_neg hb, hdrop, ih, List.cons_append]
    congr 1
    exact Name.ext (congrArg (b :: ·) htake)

/-- A path joined with a name is the path, a slash if it does not end in one, and the name. -/
theorem exists_join_eq (hp : p ≠ []) (n : Name) :
    ∃ q, p.join n.bytes = q ++ slash :: n.bytes ∧ parts p = parts q ∧
      isAbsolute (p.join n.bytes) = isAbsolute p := by
  have habsolute (r : Path) : isAbsolute (p ++ r) = isAbsolute p := by
    unfold isAbsolute
    rw [List.head?_append_of_ne_nil _ hp]
  unfold join
  rw [isAbsolute_name, if_neg Bool.false_ne_true]
  split
  next h =>
    obtain ⟨q, rfl⟩ := List.getLast?_eq_some_iff.1 (h.resolve_left hp)
    refine ⟨q, by simp, ?_, habsolute _⟩
    rw [parts_append_slash, show parts [] = [] by rw [parts], List.append_nil]
  next => exact ⟨p, rfl, rfl, habsolute _⟩

/-- **A path joined with a name enters that name last**, and does not end in a slash. -/
theorem steps_join (hp : p ≠ []) (n : Name) :
    steps (p.join n.bytes) = namedSteps p ++ [Step.ofName n] := by
  obtain ⟨q, hjoin, hparts, -⟩ := exists_join_eq hp n
  have hslash : endsInSlash (p.join n.bytes) = false := by
    have hlast : (p.join n.bytes).getLast? ≠ some slash := by
      rw [hjoin, List.getLast?_append_of_ne_nil _ (List.cons_ne_nil _ _),
        List.getLast?_cons_of_ne_nil n.bytes_ne_nil]
      exact fun h => n.slash_notMem (List.mem_of_getLast? h)
    simp [endsInSlash, hlast]
  unfold steps namedSteps
  rw [hslash, hjoin, parts_append_slash, parts_name, hparts]
  simp

end Path

namespace FileSystem

variable {fs : FileSystem} {p : Path} {n : Name} {k l : Location} {goal : Goal}

/-! ### Where entries stand -/

theorem ne_nil_of_locate (h : fs.locate goal p = .ok k) : p ≠ [] := by
  rintro rfl
  have hnil : fs.locate goal [] = .error (.system .noEntry) := rfl
  rw [hnil] at h
  cases h

/-- A slash at the end of a path to a directory leads no further. -/
theorem exists_leads_of_locate (h : fs.locate .target p = .ok k) :
    ∃ s, fs.start p = .ok s ∧ fs.Leads .target linkLimit s p.namedSteps (.existing k) := by
  obtain ⟨-, s, hstart, hleads⟩ := (find_eq_ok_iff (by decide)).1 (locate_eq_ok_iff.1 h)
  refine ⟨s, hstart, ?_⟩
  change fs.Leads .target linkLimit s (p.namedSteps ++ _) _ at hleads
  cases hslash : p.endsInSlash with
  | false =>
    rw [hslash, if_neg Bool.false_ne_true, List.append_nil] at hleads
    exact hleads
  | true =>
    rw [hslash, if_pos rfl] at hleads
    obtain ⟨k', links, hfirst, hlast⟩ := hleads.split (List.cons_ne_nil _ _)
    cases hlast with
    | directory _ next =>
      cases next with
      | here => exact hfirst

theorem start_join (hp : p ≠ []) (n : Name) : fs.start (p.join n.bytes) = fs.start p := by
  obtain ⟨-, -, -, habsolute⟩ := Path.exists_join_eq hp n
  unfold start
  rw [habsolute]

theorem leads_join (hp : fs.locate .target p = .ok k) (hgoal : goal ≠ .file)
    (hname : goal ≠ .name) {f : Found} (hfind : fs.find goal (p.join n.bytes) = .ok f) :
    ∃ links, fs.Leads goal links k [Path.Step.ofName n] f := by
  have hne := ne_nil_of_locate hp
  obtain ⟨-, s, hstart, hleads⟩ := (find_eq_ok_iff hgoal).1 hfind
  obtain ⟨s', hstart', hleads'⟩ := exists_leads_of_locate hp
  obtain rfl : s = s' :=
    Except.ok.inj (hstart.symm.trans ((start_join hne n).trans hstart'))
  have hsteps : goal.steps (p.join n.bytes) = p.namedSteps ++ [Path.Step.ofName n] := by
    rw [← Path.steps_join hne]
    cases goal with
    | name => exact absurd rfl hname
    | entry | target | file => rfl
  rw [hsteps] at hleads
  obtain ⟨k', links, hfirst, hlast⟩ := hleads.split (List.cons_ne_nil _ _)
  obtain rfl := Found.existing.inj (hfirst.found_eq (by decide) hleads')
  exact ⟨links, hlast⟩

/-- **An entry stands under its name** where the path of its directory leads. -/
theorem eq_of_locate_join (hp : fs.locate .target p = .ok k) (hn : Path.Step.ofName n = .enter n)
    (hl : fs.locate .entry (p.join n.bytes) = .ok l) : l = n :: k := by
  obtain ⟨links, hleads⟩ := leads_join hp (by decide) (by decide) (locate_eq_ok_iff.1 hl)
  rw [hn] at hleads
  generalize hf : Found.existing l = f at hleads
  cases hleads with
  | missing => cases hf
  | kept => exact Found.existing.inj hf
  | link _ _ _ _ follows _ => exact absurd follows (by decide)
  | enter _ _ _ _ next =>
    cases next with
    | here => exact Found.existing.inj hf

/-- An entry that is no link stands where its path leads. -/
theorem locate_join (hp : fs.locate .target p = .ok k) (hn : Path.Step.ofName n = .enter n)
    {x : Node} (hx : fs.lookup .entry (p.join n.bytes) = .ok (l, x))
    (hkind : ∀ target, x.kind ≠ .symlink target) :
    fs.locate .target (p.join n.bytes) = .ok (n :: k) := by
  obtain rfl := eq_of_locate_join hp hn (locate_eq_ok_iff.2 (lookup_eq_ok_iff.1 hx).1)
  exact locate_eq_ok_iff.2 (lookup_eq_ok_iff.1 (lookup_target_of_entry hx hkind)).1

/-! ### What directories hold -/

theorem mem_children_iff : n ∈ fs.children k ↔ ∃ i, (n :: k, i) ∈ fs.names := by
  unfold children
  rw [List.mem_filterMap]
  constructor
  · rintro ⟨⟨l, i⟩, he, hl⟩
    cases l with
    | nil => cases hl
    | cons m l =>
      by_cases hlk : l = k
      · subst hlk
        simp only [if_pos, Option.some.injEq] at hl
        exact ⟨i, hl ▸ he⟩
      · simp [hlk] at hl
  · rintro ⟨i, hi⟩
    exact ⟨_, hi, by simp⟩

theorem mem_names_of_index? {i : Nat} (h : fs.index? l = some i) : (l, i) ∈ fs.names := by
  obtain ⟨e, he, rfl⟩ := Option.map_eq_some_iff.1 h
  have hplace : e.1 = l := by simpa using List.find?_some he
  rw [← hplace]
  exact List.mem_of_find?_eq_some he

/-- What stands somewhere is listed in the table of names. -/
theorem exists_mem_names_of_node {x : Node} (h : fs.node? l = some x) :
    ∃ e ∈ fs.names, e.1 = l := by
  obtain ⟨i, hi, -⟩ := Option.bind_eq_some_iff.1 h
  exact ⟨(l, i), mem_names_of_index? hi, rfl⟩

/-- What a directory of a tree holds exists. -/
theorem IsTree.exists_node_of_mem_children (h : IsTree fs) (hn : n ∈ fs.children k) :
    ∃ x, fs.node? (n :: k) = some x := by
  obtain ⟨i, hi⟩ := mem_children_iff.1 hn
  obtain ⟨j, hj⟩ : ∃ j, fs.index? (n :: k) = some j := by
    unfold index?
    rw [← Option.isSome_iff_exists, Option.isSome_map, List.find?_isSome]
    exact ⟨_, hi, by simp⟩
  unfold node?
  rw [hj]
  exact ⟨_, Array.getElem?_eq_getElem (h.stored hj)⟩

theorem IsTree.ofName_of_mem_children (h : IsTree fs) (hn : n ∈ fs.children k) :
    Path.Step.ofName n = .enter n := by
  obtain ⟨x, hx⟩ := h.exists_node_of_mem_children hn
  exact h.named hx

theorem list_eq_ok_iff {names : List Name} :
    fs.list p = .ok names ↔ ∃ l x, fs.lookup .target p = .ok (l, x) ∧ x.isDirectory = true ∧
      x.grants .read = true ∧ fs.children l = names := by
  unfold list
  cases fs.lookup .target p with
  | error f => simp
  | ok r =>
    obtain ⟨l, x⟩ := r
    dsimp only
    cases hdirectory : x.isDirectory <;> cases hgrants : x.grants .read <;>
      simp [hdirectory, hgrants]

theorem exists_locate_of_list {names : List Name} (h : fs.list p = .ok names) :
    ∃ k, fs.locate .target p = .ok k ∧ names = fs.children k := by
  obtain ⟨k, x, hlookup, -, -, hnames⟩ := list_eq_ok_iff.1 h
  exact ⟨k, locate_eq_ok_iff.2 (lookup_eq_ok_iff.1 hlookup).1, hnames.symm⟩

/-- **A directory holds** what stands where its path leads. -/
theorem holds_iff_mem_children {names : List Name} (h : fs.list p = .ok names)
    (hp : fs.locate .target p = .ok k) : fs.view.Holds p n ↔ n ∈ fs.children k := by
  obtain ⟨k', hk', rfl⟩ := exists_locate_of_list h
  obtain rfl := Except.ok.inj (hp.symm.trans hk')
  exact View.holds_iff_mem h

theorem mem_children_of_holds (hp : fs.locate .target p = .ok k) (hn : fs.view.Holds p n) :
    n ∈ fs.children k := by
  obtain ⟨names, hnames, hmem⟩ := hn
  exact (holds_iff_mem_children hnames hp).1 ⟨names, hnames, hmem⟩

/-- **What is described as a directory is one**: every other type has a bit that this one has
not. -/
theorem kind_eq_directory_of_isDirectory {x : Node} (h : (fs.metaAt l x).isDirectory = true) :
    x.kind = .directory := by
  have htype : (x.kind.typeBits ||| x.permissions) &&& Meta.typeMask = Meta.directoryType :=
    of_decide_eq_true h
  have hbit (i : Nat) := congrArg (fun u : UInt32 => u.toBitVec.getLsbD i) htype
  cases hkind : x.kind with
  | directory => rfl
  | file length content =>
    have h15 := hbit 15
    simp [hkind, NodeKind.typeBits, Meta.fileType, Meta.typeMask, Meta.directoryType] at h15
  | symlink target =>
    have h15 := hbit 15
    simp [hkind, NodeKind.typeBits, Meta.symlinkType, Meta.typeMask, Meta.directoryType] at h15
  | fifo =>
    have h12 := hbit 12
    simp [hkind, NodeKind.typeBits, Meta.fifoType, Meta.typeMask, Meta.directoryType] at h12
  | socket =>
    have h15 := hbit 15
    simp [hkind, NodeKind.typeBits, Meta.socketType, Meta.typeMask, Meta.directoryType] at h15
  | charDevice number =>
    have h13 := hbit 13
    simp [hkind, NodeKind.typeBits, Meta.charType, Meta.typeMask, Meta.directoryType] at h13
  | blockDevice number =>
    have h13 := hbit 13
    simp [hkind, NodeKind.typeBits, Meta.blockType, Meta.typeMask, Meta.directoryType] at h13

theorem kind_ne_symlink_of_isDirectory {x : Node} {target : Path}
    (h : (fs.metaAt l x).isDirectory = true) : x.kind ≠ .symlink target := by
  rw [kind_eq_directory_of_isDirectory h]
  nofun

theorem exists_lookup_of_status {m : Meta} (h : fs.status p = .ok m) :
    ∃ l x, fs.lookup .entry p = .ok (l, x) ∧ m = fs.metaAt l x := by
  unfold status at h
  cases hlookup : fs.lookup .entry p with
  | error f =>
    rw [hlookup] at h
    cases h
  | ok r =>
    rw [hlookup] at h
    exact ⟨r.1, r.2, rfl, (Except.ok.inj h).symm⟩

theorem readLink_eq_ok_iff {t : Path} :
    fs.readLink p = .ok t ↔ ∃ l x, fs.lookup .entry p = .ok (l, x) ∧ x.kind = .symlink t := by
  unfold readLink
  cases fs.lookup .entry p with
  | error f => simp
  | ok r =>
    obtain ⟨l, x⟩ := r
    dsimp only
    cases hkind : x.kind <;> simp [hkind]

/-- What has a status under the name of an entry is in the directory. -/
theorem mem_children_of_status (hp : fs.locate .target p = .ok k)
    (hn : Path.Step.ofName n = .enter n) {m : Meta} (h : fs.status (p.join n.bytes) = .ok m) :
    n ∈ fs.children k := by
  obtain ⟨l, x, hlookup, -⟩ := exists_lookup_of_status h
  obtain ⟨hfind, hx⟩ := lookup_eq_ok_iff.1 hlookup
  obtain rfl := eq_of_locate_join hp hn (locate_eq_ok_iff.2 hfind)
  obtain ⟨⟨l, i⟩, hi, rfl⟩ := exists_mem_names_of_node hx
  exact mem_children_iff.2 ⟨i, hi⟩

theorem isDirectory_iff :
    fs.view.isDirectory p = true ↔ ∃ m, fs.status p = .ok m ∧ m.isDirectory = true := by
  have hstatus : fs.view.status p = fs.status p := rfl
  unfold View.isDirectory
  rw [hstatus]
  cases fs.status p <;> simp

/-- **A directory is what its path leads to.** -/
theorem target_of_isDirectory (h : fs.view.isDirectory p = true) :
    fs.target p = .ok .directory := by
  obtain ⟨m, hm, hdirectory⟩ := isDirectory_iff.1 h
  obtain ⟨l, x, hlookup, rfl⟩ := exists_lookup_of_status hm
  have hkind := kind_eq_directory_of_isDirectory hdirectory
  have htarget := lookup_target_of_entry hlookup fun _ =>
    kind_ne_symlink_of_isDirectory hdirectory
  unfold target
  rw [htarget]
  dsimp only
  rw [hkind]

theorem locate_join_of_isDirectory (htree : fs.IsTree) (hp : fs.locate .target p = .ok k)
    (hn : fs.view.Holds p n) (hdirectory : fs.view.isDirectory (p.join n.bytes) = true) :
    fs.locate .target (p.join n.bytes) = .ok (n :: k) := by
  have hname := htree.ofName_of_mem_children (mem_children_of_holds hp hn)
  obtain ⟨m, hm, hkind⟩ := isDirectory_iff.1 hdirectory
  obtain ⟨l, x, hlookup, rfl⟩ := exists_lookup_of_status hm
  exact locate_join hp hname hlookup fun target => kind_ne_symlink_of_isDirectory hkind

/-- **Two directories at one place below two roots** stand under the same names below those. -/
theorem exists_locate_of_entered (htree : fs.IsTree) {left right a b : Path} {kl kr : Location}
    (hleft : fs.locate .target left = .ok kl) (hright : fs.locate .target right = .ok kr)
    (h : fs.view.Entered left right a b) :
    ∃ names, fs.locate .target a = .ok (names ++ kl) ∧
      fs.locate .target b = .ok (names ++ kr) := by
  induction h with
  | root => exact ⟨[], hleft, hright⟩
  | @descend a b n above step ih =>
    obtain ⟨names, ha, hb⟩ := ih
    exact ⟨n :: names, locate_join_of_isDirectory htree ha step.holds_left step.isDirectory_left,
      locate_join_of_isDirectory htree hb step.holds_right step.isDirectory_right⟩

/-! ### After a directory was made -/

theorem names_addNode (fs : FileSystem) (l : Location) (kind : NodeKind) (permissions : UInt32) :
    (fs.addNode l kind permissions).names = fs.names ++ [(l, fs.nodes.size)] := by
  unfold addNode addName touchParent modifyAt
  dsimp only
  split <;> rfl

/-- **A new node** stands where it was made, on the device of its directory. -/
theorem exists_node?_addNode (htree : fs.IsTree) (hnone : fs.node? l = none) (kind : NodeKind)
    (permissions : UInt32) :
    ∃ x, (fs.addNode l kind permissions).node? l = some x ∧ x.kind = kind ∧
      x.device = ((fs.node? l.tail).map Node.device).getD 0 := by
  have hindex : fs.index? l = none := by
    cases hi : fs.index? l with
    | none => rfl
    | some i =>
      unfold node? at hnone
      rw [hi, Option.bind_some, Array.getElem?_eq_getElem (htree.stored hi)] at hnone
      cases hnone
  -- The name is the only one that stands for the new node.
  have hlast (nodes : Array Node) :
      FileSystem.index? { fs with nodes, names := fs.names ++ [(l, fs.nodes.size)] } l =
        some fs.nodes.size := by
    unfold index? at hindex ⊢
    simp [List.find?_append, Option.map_eq_none_iff.1 hindex]
  have hundated := undated_node?_touchParent
    { fs with
      nodes := fs.nodes.push
        { kind, device := ((fs.node? l.tail).map Node.device).getD 0
          number := fs.nodes.size.toUInt64 + 1, permissions, uid := 0, gid := 0, accessed := fs.now
          modified := fs.now, born := fs.now, xattrs := .empty, nodump := false }
      names := fs.names ++ [(l, fs.nodes.size)] } l l
  conv at hundated => rhs; unfold node?; rw [hlast, Option.bind_some, Array.getElem?_push_size]
  obtain ⟨x, hx, hundated⟩ := Option.map_eq_some_iff.1 hundated
  refine ⟨x, hx, Node.kind_eq_of_undated hundated, ?_⟩
  show x.undated.device = _
  rw [hundated]
  rfl

/-- **A directory that was made is vacant**, and nothing keeps it from being removed. -/
theorem removeDirectory_of_makeDirectory {made : FileSystem} (htree : fs.IsTree)
    (hmade : fs.makeDirectory p = .ok made) :
    ∃ d n, fs.find .name p = .ok (.missing d n) ∧
      made.removeDirectory p = .ok (made.removeNames (n :: d)) := by
  obtain ⟨m, hlast⟩ := lastStep_of_makeDirectory hmade
  obtain ⟨d, n, hfind, hchangeable, rfl⟩ := makeDirectory_eq_ok_iff.1 hmade
  obtain ⟨-, s, -, hleads⟩ := (find_eq_ok_iff (by decide)).1 hfind
  have hnone := hleads.node?_eq_none_of_missing
  have halike := alikeOutside_addNode htree (n :: d) .directory 0o755
  obtain ⟨x, hx, hkind, hdevice⟩ :=
    exists_node?_addNode htree hnone .directory 0o755
  obtain ⟨y, hy⟩ : ∃ y, fs.node? d = some y := by
    unfold changeable at hchangeable
    cases hd : fs.node? d with
    | none =>
      rw [hd] at hchangeable
      cases hchangeable
    | some y => exact ⟨y, rfl⟩
  refine ⟨d, n, hfind, removeDirectory_eq_ok_iff.2 ⟨n :: d, m, ?_, hlast,
    halike.changeable_eq.trans hchangeable, rfl⟩⟩
  constructor
  case leads =>
    refine (find_of_alikeOutside htree hfind halike (cwd_addNode fs _ _ _)).resolve_left ?_
    intro hmissing
    obtain ⟨-, s', -, hleads'⟩ := (find_eq_ok_iff (by decide)).1 hmissing
    cases hleads'.node?_eq_none_of_missing.symm.trans hx
  case isDirectory =>
    unfold isDirectoryAt
    rw [hx, Option.any_some]
    unfold Node.isDirectory
    rw [hkind]
    rfl
  case unmounted =>
    obtain ⟨y', hy', hundated⟩ := exists_node_of_undated (halike d (not_cons_suffix n d)) hy
    have hsame : y'.device = y.device := by
      show y'.undated.device = _
      rw [hundated]
      rfl
    rw [List.tail_cons, hy] at hdevice
    unfold isMountedAt deviceAt
    rw [List.tail_cons, hx, hy']
    simp [hdevice, hsame]
  case empty =>
    -- What the directory held would have stood in something before the directory was there.
    refine List.eq_nil_iff_forall_not_mem.2 fun c hc => ?_
    obtain ⟨i, hi⟩ := mem_children_iff.1 hc
    rw [names_addNode, List.mem_append, List.mem_singleton] at hi
    rcases hi with hi | hi
    · obtain ⟨z, hz⟩ := htree.exists_node_of_mem_children (mem_children_iff.2 ⟨i, hi⟩)
      obtain ⟨w, hw⟩ := htree.rooted hz
      cases hnone.symm.trans hw
    · exact absurd (congrArg Prod.fst hi) (List.cons_ne_self c _)

/-- **A directory that was made and removed again** leaves everything as it was, but for dates. -/
theorem undated_node?_of_makeDirectory {made last : FileSystem} (htree : fs.IsTree)
    (hmade : fs.makeDirectory p = .ok made) (hlast : made.removeDirectory p = .ok last)
    (k : Location) : (last.node? k).map Node.undated = (fs.node? k).map Node.undated := by
  obtain ⟨d, n, hfind, hremove⟩ := removeDirectory_of_makeDirectory htree hmade
  obtain rfl := Except.ok.inj (hremove.symm.trans hlast)
  obtain ⟨d', n', hfind', -, rfl⟩ := makeDirectory_eq_ok_iff.1 hmade
  obtain ⟨rfl, rfl⟩ := Found.missing.inj (Except.ok.inj (hfind.symm.trans hfind'))
  by_cases hk : n :: d <:+ k
  · rw [node?_removeNames_of_suffix _ hk]
    obtain ⟨-, s, -, hleads⟩ := (find_eq_ok_iff (by decide)).1 hfind
    cases hx : fs.node? k with
    | none => rfl
    | some x =>
      obtain ⟨y, hy⟩ := htree.exists_node_of_suffix hx hk
      cases hleads.node?_eq_none_of_missing.symm.trans hy
  · exact (alikeOutside_addNode htree (n :: d) .directory 0o755).trans
      (alikeOutside_removeNames (n :: d) _) k hk

/-! ### After an entry was removed -/

theorem mem_children_removeNames_iff :
    n ∈ (fs.removeNames l).children k ↔ n ∈ fs.children k ∧ ¬ l <:+ n :: k := by
  have hnames : (fs.removeNames l).names = fs.names.filter fun e => !(l.isSuffixOf e.1) := by
    rw [removeNames_eq]
    unfold touchParent modifyAt
    cases (fs.remaining l).index? l.tail <;> rfl
  rw [mem_children_iff, mem_children_iff, hnames]
  simp only [List.mem_filter, Bool.not_eq_true', ← Bool.not_eq_true,
    List.isSuffixOf_iff_suffix, exists_and_right]

theorem locate_of_removeNames {k' : Location} (hgoal : goal ≠ .file) (hl : l ≠ [])
    (hp : fs.locate goal p = .ok k) (hp' : (fs.removeNames l).locate goal p = .ok k') :
    ¬ l <:+ k ∧ k' = k := by
  rcases find_removeNames hgoal hl (locate_eq_ok_iff.1 hp) with ⟨hk, hfind⟩ | hgone
  · exact ⟨hk, Except.ok.inj (hp'.symm.trans (locate_eq_ok_iff.2 hfind))⟩
  · cases hp'.symm.trans hgone

/-- **A directory that can still be listed** holds what it held, but for what was removed. -/
theorem holds_removeNames_iff {names : List Name} (hl : l ≠ [])
    (hp : fs.locate .target p = .ok k) (h : (fs.removeNames l).list p = .ok names) :
    (fs.removeNames l).view.Holds p n ↔ n ∈ fs.children k ∧ ¬ l <:+ n :: k := by
  obtain ⟨k', hk', -⟩ := exists_locate_of_list h
  obtain ⟨-, rfl⟩ := locate_of_removeNames (by decide) hl hp hk'
  rw [holds_iff_mem_children h hk', mem_children_removeNames_iff]

/-- **What was removed** is described no more. -/
theorem status_removeNames_of_locate (hl : l ≠ []) (hp : fs.locate .entry p = .ok l) (m : Meta) :
    (fs.removeNames l).status p ≠ .ok m := by
  intro hm
  obtain ⟨l', x, hlookup, -⟩ := exists_lookup_of_status hm
  have hp' := locate_eq_ok_iff.2 (lookup_eq_ok_iff.1 hlookup).1
  exact (locate_of_removeNames (by decide) hl hp hp').1 List.suffix_rfl

/-- **A directory that can still be described** is still one. -/
theorem isDirectory_removeNames (hl : l ≠ []) (hp : fs.view.isDirectory p = true) {m : Meta}
    (hm : (fs.removeNames l).status p = .ok m) : (fs.removeNames l).view.isDirectory p = true := by
  obtain ⟨m₀, hm₀, hdirectory⟩ := isDirectory_iff.1 hp
  obtain ⟨k, x, hlookup, rfl⟩ := exists_lookup_of_status hm₀
  obtain ⟨k', x', hlookup', rfl⟩ := exists_lookup_of_status hm
  obtain ⟨hfind, hx⟩ := lookup_eq_ok_iff.1 hlookup
  obtain ⟨hfind', hx'⟩ := lookup_eq_ok_iff.1 hlookup'
  obtain ⟨hk, rfl⟩ := locate_of_removeNames (by decide) hl (locate_eq_ok_iff.2 hfind)
    (locate_eq_ok_iff.2 hfind')
  have hundated : x'.undated = x.undated := by
    obtain ⟨y, hy, hundated⟩ := exists_node_of_undated (alikeOutside_removeNames l fs _ hk) hx
    rwa [Option.some.inj (hx'.symm.trans hy)]
  have hmode : x'.mode = x.mode := by
    show x'.undated.mode = x.undated.mode
    rw [hundated]
  refine isDirectory_iff.2 ⟨_, hm, ?_⟩
  unfold Meta.isDirectory Meta.type at hdirectory ⊢
  show decide (x'.mode &&& Meta.typeMask = _) = true
  rw [hmode]
  exact hdirectory

/-! ### Discarding -/

theorem discard_eq_removeNames {x : Node} (h : fs.removable p = .ok (l, x)) :
    fs.discard p = fs.removeNames l := by
  unfold discard
  rw [h]

/-- What was removed is not there to be removed again. -/
theorem discard_removeNames (hl : l ≠ []) (hp : fs.locate .name p = .ok l) :
    (fs.removeNames l).discard p = fs.removeNames l := by
  unfold discard
  cases hremovable : (fs.removeNames l).removable p with
  | error f => rfl
  | ok r =>
    have hp' := locate_eq_ok_iff.2 (removable_eq_ok_iff.1 hremovable).1
    exact absurd List.suffix_rfl (locate_of_removeNames (by decide) hl hp hp').1

end FileSystem

end RestoreCheck
