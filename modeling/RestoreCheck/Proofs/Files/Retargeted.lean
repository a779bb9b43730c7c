import RestoreCheck.Proofs.Compare.SameAnswers
import RestoreCheck.Proofs.Files.Entries

/-!
# The targets of links that lead nowhere

A link dangles (`FileSystem.Dangles`) if nothing is found along its target, however many links may
still be followed on the way.  Nothing else can be found along it then, so a file system in which
such links have other targets, along which nothing is found either (`FileSystem.Retargeted`), leads
every walk to the same place (`Retargeted.leads`).  It gives the same answers to all questions but
the one for the target itself (`Retargeted.sameAnswers`).

A walk through a dangling link may fail for another reason than before, and a walk that ends with
one may end where something could be made.  So it is only asked where something exists.
-/

namespace RestoreCheck

namespace FileSystem

variable {fs fs' : FileSystem} {goal : Goal} {p : Path} {k l : Location} {x y : Node} {i : Nat}

/-- **A link dangles**: nothing is found along its target. -/
def Dangles (fs : FileSystem) (l : Location) (target : Path) : Prop :=
  ∀ links k, links < linkLimit →
    (fs.walk links .target (linkStart l.tail target) target.steps).found ≠ .ok (.existing k)

/-- **Two nodes at one location pass for one**: they are one node, or links that dangle. -/
inductive PassForOne (fs fs' : FileSystem) (l : Location) : Node → Node → Prop where
  | same (x : Node) : PassForOne fs fs' l x x
  | links {x y : Node} {s t : Path} (left : x.kind = .symlink s) (right : y.kind = .symlink t)
      (others : { x with kind := y.kind } = y) (dangles_left : fs.Dangles l s)
      (dangles_right : fs'.Dangles l t) : PassForOne fs fs' l x y

/-- **The targets of links that lead nowhere differ**, and nothing else does. -/
structure Retargeted (fs fs' : FileSystem) : Prop where
  names : fs.names = fs'.names
  cwd : fs.cwd = fs'.cwd
  nodes : ∀ l, Option.Rel (PassForOne fs fs' l) (fs.node? l) (fs'.node? l)

/-! ### Links that dangle -/

/-- A link to a name that is missing dangles. -/
theorem dangles_of_missing {target : Path} {n : Name} (hsteps : target.steps = [.enter n])
    (henter : fs.enterable (linkStart l.tail target) = .ok ())
    (hshort : n.bytes.length ≤ nameLimit)
    (hnode : fs.node? (n :: linkStart l.tail target) = none) : fs.Dangles l target := by
  intro links k _
  rw [hsteps, walk_enter_none (by decide) henter hshort hnode]
  nofun

/-- A link to a name that is too long dangles wherever it stands. -/
theorem dangles_of_long {n : Name} (hlong : nameLimit < n.bytes.length) :
    fs.Dangles l n.bytes := by
  have hname : Path.Step.ofName n = .enter n := by
    unfold Path.Step.ofName
    rw [if_neg, if_neg]
    · rintro rfl
      exact absurd hlong (by decide)
    · rintro rfl
      exact absurd hlong (by decide)
  intro links k _ hfound
  have hleads := leads_of_found_walk hfound
  rw [Path.steps_name, hname] at hleads
  cases hleads with
  | kept _ short | link _ short | enter _ short => omega

/-! ### Nodes that pass for one -/

namespace PassForOne

theorem symm (h : PassForOne fs fs' l x y) : PassForOne fs' fs l y x := by
  cases h with
  | same => exact .same x
  | links left right others dangles_left dangles_right =>
    have hback := congrArg (fun z : Node => { z with kind := x.kind }) others
    exact .links right left hback.symm dangles_right dangles_left

variable (h : PassForOne fs fs' l x y)
include h

/-- Whatever does not depend on the kind is the same. -/
theorem congr_others {α : Type} (f : Node → α)
    (hf : ∀ (z : Node) kind, f { z with kind := kind } = f z) : f x = f y := by
  cases h with
  | same => rfl
  | links _ _ others =>
    rw [← others]
    exact (hf x y.kind).symm

theorem grants_eq (a : Access) : x.grants a = y.grants a :=
  h.congr_others (·.grants a) fun _ _ => rfl

/-- What the kind says is the same too, but for the target of a link. -/
theorem congr_kind {α : Type} (f : NodeKind → α)
    (hf : ∀ s t, f (.symlink s) = f (.symlink t)) : f x.kind = f y.kind := by
  cases h with
  | same => rfl
  | links left right => rw [left, right, hf]

theorem isDirectory_eq : x.isDirectory = y.isDirectory :=
  h.congr_kind NodeKind.isDirectory fun _ _ => rfl

end PassForOne

/-! ### Walks -/

namespace Retargeted

theorem symm (h : fs.Retargeted fs') : fs'.Retargeted fs where
  names := h.names.symm
  cwd := h.cwd.symm
  nodes l := by
    have hl := h.nodes l
    generalize fs.node? l = x at hl ⊢
    generalize fs'.node? l = y at hl ⊢
    cases hl with
    | none => exact .none
    | some hxy => exact .some hxy.symm

variable (h : fs.Retargeted fs')
include h

theorem exists_node (hx : fs.node? l = some x) :
    ∃ y, fs'.node? l = some y ∧ PassForOne fs fs' l x y := by
  have hl := h.nodes l
  rw [hx] at hl
  generalize hy : fs'.node? l = y at hl
  cases hl with
  | some hxy => exact ⟨_, rfl, hxy⟩

theorem isDirectoryAt_eq (l : Location) : fs.isDirectoryAt l = fs'.isDirectoryAt l := by
  have hl := h.nodes l
  unfold isDirectoryAt
  generalize fs.node? l = x at hl ⊢
  generalize fs'.node? l = y at hl ⊢
  cases hl with
  | none => rfl
  | some hxy => exact hxy.isDirectory_eq

theorem enterable_eq (l : Location) : fs.enterable l = fs'.enterable l := by
  have hl := h.nodes l
  unfold enterable
  generalize fs.node? l = x at hl ⊢
  generalize fs'.node? l = y at hl ⊢
  cases hl with
  | none => rfl
  | some hxy =>
    dsimp only
    rw [hxy.isDirectory_eq, hxy.grants_eq]

/-- **Walks lead to the same places.**  None that leads to something follows a link that dangles. -/
theorem leads {links : Nat} {steps : List Path.Step} {f : Found} (hlinks : links ≤ linkLimit)
    (hleads : fs.Leads goal links l steps f) (hf : f = .existing k) :
    fs'.Leads goal links l steps f := by
  induction hleads with
  | here => exact .here
  | directory isDirectory next ih =>
    exact .directory (h.isDirectoryAt_eq _ ▸ isDirectory) (ih hlinks hf)
  | stay enterable next ih => exact .stay (h.enterable_eq _ ▸ enterable) (ih hlinks hf)
  | up enterable next ih => exact .up (h.enterable_eq _ ▸ enterable) (ih hlinks hf)
  | missing enterable short node => cases hf
  | kept enterable short node kind follows =>
    rw [h.enterable_eq] at enterable
    obtain ⟨y, hy, hxy⟩ := h.exists_node node
    cases hxy with
    | same => exact .kept enterable short hy kind follows
    | links left right => exact .kept enterable short hy right follows
  | @link links l n rest f x target enterable short node kind follows next ih =>
    rw [h.enterable_eq] at enterable
    obtain ⟨y, hy, hxy⟩ := h.exists_node node
    cases hxy with
    | same => exact .link enterable short hy kind follows (ih (by omega) hf)
    | links left right others dangles =>
      obtain rfl := NodeKind.symlink.inj (kind.symm.trans left)
      -- The walk along the target would have to lead somewhere, at its end or on the way.
      obtain ⟨k', hk'⟩ : ∃ k', fs.Leads .target links (linkStart l target) target.steps
          (.existing k') := by
        by_cases hrest : rest = []
        · have hgoal : goal.follows = true := follows.resolve_left (absurd hrest)
          rw [hrest, List.append_nil, hf] at next
          exact ⟨k, next.of_follows_eq .target hgoal.symm⟩
        · obtain ⟨k', -, hfirst, -⟩ := next.split hrest
          exact ⟨k', hfirst⟩
      exact absurd (hk'.found_walk (by decide)) (dangles links k' (by omega))
  | enter enterable short node kind next ih =>
    rw [h.enterable_eq] at enterable
    obtain ⟨y, hy, hxy⟩ := h.exists_node node
    cases hxy with
    | same => exact .enter enterable short hy kind (ih hlinks hf)
    | links left => exact absurd left (kind _)

theorem find (hgoal : goal ≠ .file) (hp : fs.find goal p = .ok (.existing k)) :
    fs'.find goal p = .ok (.existing k) := by
  obtain ⟨hcheck, s, hstart, hleads⟩ := (find_eq_ok_iff hgoal).1 hp
  have hstart' : fs'.start p = .ok s := by
    unfold start at hstart ⊢
    rw [← h.cwd]
    exact hstart
  exact (find_eq_ok_iff hgoal).2 ⟨hcheck, s, hstart', h.leads (Nat.le_refl _) hleads rfl⟩

/-- **Paths lead to nodes that pass for one.** -/
theorem exists_lookup (hgoal : goal ≠ .file) (hp : fs.lookup goal p = .ok (l, x)) :
    ∃ y, fs'.lookup goal p = .ok (l, y) ∧ PassForOne fs fs' l x y := by
  obtain ⟨hfind, hx⟩ := lookup_eq_ok_iff.1 hp
  obtain ⟨y, hy, hxy⟩ := h.exists_node hx
  exact ⟨y, lookup_eq_ok_iff.2 ⟨h.find hgoal hfind, hy⟩, hxy⟩

/-! ### Answers -/

theorem children_eq (l : Location) : fs.children l = fs'.children l := by
  unfold children
  rw [h.names]

theorem linkCount_eq (l : Location) : fs.linkCount l = fs'.linkCount l := by
  unfold linkCount index?
  simp only [h.isDirectoryAt_eq, h.children_eq, h.names]

theorem metaAt_eq (hxy : PassForOne fs fs' l x y) : fs.metaAt l x = fs'.metaAt l y := by
  have htype := hxy.congr_kind NodeKind.typeBits fun _ _ => rfl
  have hrdev := hxy.congr_kind NodeKind.deviceNumber fun _ _ => rfl
  have hpermissions : x.permissions = y.permissions :=
    hxy.congr_others Node.permissions fun _ _ => rfl
  have huid : x.uid = y.uid := hxy.congr_others Node.uid fun _ _ => rfl
  have hgid : x.gid = y.gid := hxy.congr_others Node.gid fun _ _ => rfl
  have hdevice : x.device = y.device := hxy.congr_others Node.device fun _ _ => rfl
  have hmodified : x.modified = y.modified := hxy.congr_others Node.modified fun _ _ => rfl
  unfold metaAt Node.mode
  rw [htype, hrdev, hpermissions, huid, hgid, hdevice, hmodified, h.linkCount_eq]

theorem list {names : List Name} (hp : fs.list p = .ok names) : fs'.list p = .ok names := by
  obtain ⟨l, x, hlookup, hdirectory, hgrants, hnames⟩ := list_eq_ok_iff.1 hp
  obtain ⟨y, hy, hxy⟩ := h.exists_lookup (by decide) hlookup
  exact list_eq_ok_iff.2 ⟨l, y, hy, hxy.isDirectory_eq ▸ hdirectory, hxy.grants_eq _ ▸ hgrants,
    (h.children_eq l).symm.trans hnames⟩

theorem status {m : Meta} (hp : fs.status p = .ok m) : fs'.status p = .ok m := by
  obtain ⟨l, x, hlookup, rfl⟩ := exists_lookup_of_status hp
  obtain ⟨y, hy, hxy⟩ := h.exists_lookup (by decide) hlookup
  unfold FileSystem.status
  rw [hy, h.metaAt_eq hxy]

/-- A path that leads to a link, and not on, leads to something that is no file either way. -/
theorem target {t : Target} (hp : fs.target p = .ok t) : fs'.target p = .ok t := by
  unfold FileSystem.target at hp ⊢
  cases hlookup : fs.lookup .target p with
  | error f =>
    rw [hlookup] at hp
    cases hp
  | ok r =>
    obtain ⟨y, hy, hxy⟩ := h.exists_lookup (by decide) hlookup
    rw [hlookup] at hp
    rw [hy]
    dsimp only at hp ⊢
    cases hxy with
    | same => exact hp
    | links left right =>
      rw [left] at hp
      rw [right]
      exact hp

theorem content {s : Stream} (hp : fs.content p = .ok s) : fs'.content p = .ok s := by
  unfold FileSystem.content at hp ⊢
  cases hlookup : fs.lookup .target p with
  | error f =>
    rw [hlookup] at hp
    cases hp
  | ok r =>
    obtain ⟨y, hy, hxy⟩ := h.exists_lookup (by decide) hlookup
    rw [hlookup] at hp
    rw [hy]
    dsimp only at hp ⊢
    rw [← hxy.grants_eq]
    cases hxy with
    | same => exact hp
    | links left right =>
      rw [left] at hp
      rw [right]
      exact hp

theorem xattrs {s : Xattrs} (hp : fs.xattrs p = .ok s) : fs'.xattrs p = .ok s := by
  unfold FileSystem.xattrs at hp ⊢
  cases hlookup : fs.lookup .entry p with
  | error f =>
    rw [hlookup] at hp
    cases f <;> cases hp
  | ok r =>
    obtain ⟨y, hy, hxy⟩ := h.exists_lookup (by decide) hlookup
    have hxattrs : r.2.xattrs = y.xattrs := hxy.congr_others Node.xattrs fun _ _ => rfl
    rw [hlookup] at hp
    rw [hy]
    dsimp only at hp ⊢
    rw [← hxy.grants_eq, ← hxattrs]
    exact hp

theorem flags_eq {m : Meta} (hp : fs.status p = .ok m) : fs.flags p = fs'.flags p := by
  obtain ⟨l, x, hlookup, -⟩ := exists_lookup_of_status hp
  obtain ⟨y, hy, hxy⟩ := h.exists_lookup (by decide) hlookup
  unfold FileSystem.flags
  rw [hlookup, hy]
  dsimp only
  cases hxy with
  | same => rfl
  | links left right => rw [left, right]

/-- **The targets of links that lead nowhere** are in no answer that a comparison asks for. -/
theorem sameAnswers : fs.view.SameAnswers fs'.view where
  list _ _ := ⟨h.list, h.symm.list⟩
  status _ _ := ⟨h.status, h.symm.status⟩
  target _ _ := ⟨h.target, h.symm.target⟩
  content _ _ := ⟨h.content, h.symm.content⟩

end Retargeted

/-! ### Another target -/

/-- The file system with another target of the link with an index. -/
def retarget (fs : FileSystem) (i : Nat) (target : Path) : FileSystem :=
  fs.modifyNode i fun x => { x with kind := .symlink target }

theorem node?_retarget {t : Path} (h : fs.index? l = some i) :
    (fs.retarget i t).node? l = (fs.node? l).map fun x => { x with kind := .symlink t } := by
  show (fs.index? l).bind _ = ((fs.index? l).bind _).map _
  rw [h]
  show (fs.nodes.modify i _)[i]? = fs.nodes[i]?.map _
  rw [Array.getElem?_modify, if_pos rfl]

theorem node?_retarget_of_ne {t : Path} (h : fs.index? l ≠ some i) :
    (fs.retarget i t).node? l = fs.node? l := by
  show (fs.index? l).bind _ = (fs.index? l).bind _
  cases hl : fs.index? l with
  | none => rfl
  | some j =>
    have hj : i ≠ j := by
      rintro rfl
      exact h hl
    show (fs.nodes.modify i _)[j]? = fs.nodes[j]?
    rw [Array.getElem?_modify, if_neg hj]

/-- **A link gets another target**, and dangles before and after that wherever it stands. -/
theorem retargeted_retarget {s t : Path} (hx : fs.nodes[i]? = some x) (hkind : x.kind = .symlink s)
    (hdangles : ∀ l, fs.index? l = some i → fs.Dangles l s)
    (hdangles' : ∀ l, fs.index? l = some i → (fs.retarget i t).Dangles l t) :
    fs.Retargeted (fs.retarget i t) where
  names := rfl
  cwd := rfl
  nodes l := by
    by_cases hl : fs.index? l = some i
    · have hnode : fs.node? l = some x := by
        unfold node?
        rw [hl]
        exact hx
      rw [node?_retarget hl, hnode]
      exact .some (.links hkind rfl rfl (hdangles l hl) (hdangles' l hl))
    · rw [node?_retarget_of_ne hl]
      cases fs.node? l with
      | none => exact .none
      | some x => exact .some (.same x)

/-- **The link that got another target** has that one, under every path. -/
theorem readLink_retarget {t : Path} (h : fs.Retargeted (fs.retarget i t))
    (hl : fs.index? l = some i) (hp : fs.lookup .entry p = .ok (l, x)) :
    (fs.retarget i t).readLink p = .ok t := by
  obtain ⟨hfind, hx⟩ := lookup_eq_ok_iff.1 hp
  have hnode := node?_retarget hl (t := t)
  rw [hx] at hnode
  exact readLink_eq_ok_iff.2 ⟨l, _, lookup_eq_ok_iff.2 ⟨h.find (by decide) hfind, hnode⟩, rfl⟩

theorem readLink_retarget_of_ne {s t : Path} (h : fs.Retargeted (fs.retarget i t))
    (hl : fs.index? l ≠ some i) (hp : fs.lookup .entry p = .ok (l, x))
    (hkind : x.kind = .symlink s) : (fs.retarget i t).readLink p = .ok s := by
  obtain ⟨hfind, hx⟩ := lookup_eq_ok_iff.1 hp
  have hnode := (node?_retarget_of_ne hl (t := t)).trans hx
  exact readLink_eq_ok_iff.2
    ⟨l, x, lookup_eq_ok_iff.2 ⟨h.find (by decide) hfind, hnode⟩, hkind⟩

end FileSystem

end RestoreCheck
