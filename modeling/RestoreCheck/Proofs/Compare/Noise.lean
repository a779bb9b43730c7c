import Mathlib.Data.List.Basic
import RestoreCheck.Proofs.Compare.FirstFailure

/-!
# Noise

Two worlds that have the same files differ in noise (`World.DifferInNoise`) if for each pair of
entries that a comparison may come to, what is seen of either entry is alike in both worlds: the
security label, the number of the device that something else than a device stands for, the number of
links to directories of a mounted view, times that pass for one, and all that is ignored may differ.
Such worlds have one traversal (`World.traversal_eq_of_noise`), so that comparisons in them end in
the same way, failures and all.
-/

namespace RestoreCheck

/-! ### The same files -/

/-- Two statuses have the same mode, owners and device. -/
structure Meta.SameFile (m n : Meta) : Prop where
  /-- they have one mode -/
  mode : m.mode = n.mode
  /-- they have one owner -/
  uid : m.uid = n.uid
  /-- they have one group -/
  gid : m.gid = n.gid
  /-- they are held by one device -/
  device : m.device = n.device

/-- **Two views show the same files**, as far as names, links, contents, modes, owners and devices
go. -/
structure View.SameFiles (v v' : View) : Prop where
  /-- directories hold the same names -/
  list : ∀ p, Agree (fun names names' => ∀ n, n ∈ names ↔ n ∈ names') (v.list p) (v'.list p)
  /-- entries have the same mode, owners and device -/
  status : ∀ p, Agree Meta.SameFile (v.status p) (v'.status p)
  /-- paths lead to the same -/
  target : ∀ p, v.target p = v'.target p
  /-- files have the same content -/
  content : ∀ p, v.content p = v'.content p

namespace View.SameFiles

variable {v v' : View} (h : v.SameFiles v') {left right : Path}
include h

theorem isDirectory_eq (p : Path) : v.isDirectory p = v'.isDirectory p := by
  have hstatus := h.status p
  unfold View.isDirectory
  generalize v.status p = r at hstatus ⊢
  generalize v'.status p = r' at hstatus ⊢
  cases hstatus with
  | fault cause => rfl
  | value hsame =>
    unfold Meta.isDirectory Meta.type
    dsimp only
    rw [hsame.mode]

theorem entryVerdict_eq (a b : Path) : entryVerdict v a b = entryVerdict v' a b := by
  unfold entryVerdict compareFiles
  simp only [h.target, h.content]

theorem level_eq : Level.of v left right = Level.of v' left right := by
  have hleft := h.list left
  have hright := h.list right
  have hofNames : Level.ofNames v left right = Level.ofNames v' left right := by
    unfold Level.ofNames
    simp only [h.entryVerdict_eq, h.isDirectory_eq]
  unfold Level.of
  generalize v.list left = l at hleft ⊢
  generalize v'.list left = l' at hleft ⊢
  generalize v.list right = r at hright ⊢
  generalize v'.list right = r' at hright ⊢
  cases hleft with
  | fault cause => rfl
  | value hl =>
    cases hright with
    | fault cause => rfl
    | value hr =>
      dsimp only
      rw [hofNames, Name.ascending_congr hl, Name.ascending_congr hr]

theorem faultOf?_list_eq (p : Path) : faultOf? (v.list p) = faultOf? (v'.list p) :=
  (h.list p).faultOf?_eq

end View.SameFiles

/-! ### Noise -/

namespace World

variable {w w' : World} {o : Options} {k : Capabilities} {left right a b : Path}

/-- **What is seen of two entries of one name is alike in two worlds**, by the rules that hold for
the pair. -/
structure SeenAlike (w w' : World) (o : Options) (k : Capabilities) (a b : Path) : Prop where
  /-- what is seen on the left -/
  left : ∀ {m n u}, w.view.status a = .ok m → w.view.status b = .ok n →
    w'.view.status a = .ok u →
    (w.seen a m).Alike o k (o.mountedView.applies m n) (w'.seen a u)
  /-- what is seen on the right -/
  right : ∀ {m n u}, w.view.status a = .ok m → w.view.status b = .ok n →
    w'.view.status b = .ok u →
    (w.seen b n).Alike o k (o.mountedView.applies m n) (w'.seen b u)

/-- **Two worlds differ in noise** below two roots: they have the same files, and what is seen of
entries of one name is alike in both. -/
structure DifferInNoise (w w' : World) (o : Options) (k : Capabilities) (left right : Path) :
    Prop where
  /-- the files are the same -/
  files : w.view.SameFiles w'.view
  /-- what is seen of entries of one name is alike -/
  seen : ∀ {a b n}, w.view.Entered left right a b → w.view.Holds a n → w.view.Holds b n →
    SeenAlike w w' o k (a.join n.bytes) (b.join n.bytes)

theorem DifferInNoise.below {n : Name} (h : DifferInNoise w w' o k left right)
    (hn : w.view.Descends left right n) :
    DifferInNoise w w' o k (left.join n.bytes) (right.join n.bytes) where
  files := h.files
  seen hab := h.seen (.of_below hn hab)

/-! ### One traversal -/

theorem inspection_eq_of_alike {path : Path} {m u : Meta} {mounted : Bool}
    (h : (w.seen path m).Alike o k mounted (w'.seen path u)) :
    w.inspection o path = w'.inspection o path := by
  unfold inspection
  cases hignore : o.ignoreXattrs with
  | true => rfl
  | false =>
    have hxattrs : Seen.SameXattrs (w.xattrs path) (w'.xattrs path) := h.xattrs hignore
    rw [hxattrs.faultOf?_eq]

theorem pairEvents_eq_of_alike {name : Bytes} {m n u v : Meta}
    (hmounted : o.mountedView.applies m n = o.mountedView.applies u v)
    (hleft : (w.seen a m).Alike o k (o.mountedView.applies m n) (w'.seen a u))
    (hright : (w.seen b n).Alike o k (o.mountedView.applies m n) (w'.seen b v)) :
    w.pairEvents o k name a b m n = w'.pairEvents o k name a b u v := by
  unfold pairEvents
  dsimp only
  rw [inspection_eq_of_alike hleft, inspection_eq_of_alike hright,
    Seen.attributes_eq_of_alike hleft, Seen.attributes_eq_of_alike hright, hmounted]

theorem entryEvents_eq_of_noise {n : Name} (hfiles : w.view.SameFiles w'.view)
    (hseen : SeenAlike w w' o k (left.join n.bytes) (right.join n.bytes)) :
    w.entryEvents o k left right n = w'.entryEvents o k left right n := by
  have hl := hfiles.status (left.join n.bytes)
  have hr := hfiles.status (right.join n.bytes)
  unfold entryEvents
  dsimp only
  rw [hl.faultOf?_eq, hr.faultOf?_eq]
  congr 2
  -- Where a status cannot be read, it cannot be read in either world.
  generalize hm : w.view.status (left.join n.bytes) = rm at hl ⊢
  generalize hu : w'.view.status (left.join n.bytes) = ru at hl ⊢
  generalize hm' : w.view.status (right.join n.bytes) = rm' at hr ⊢
  generalize hu' : w'.view.status (right.join n.bytes) = ru' at hr ⊢
  cases hl with
  | fault cause => rfl
  | value hsame =>
    cases hr with
    | fault cause => rfl
    | value hsame' =>
      -- The verdict on the pair is that of the other world, whose devices are the same.
      refine pairEvents_eq_of_alike ?_ (hseen.left hm hm' hu) (hseen.right hm hm' hu')
      unfold ViewRule.applies
      rw [hsame.device, hsame'.device]

/-- **Worlds that differ in noise have one traversal.**  The induction follows the descent. -/
theorem traversal_eq_of_noise (h : DifferInNoise w w' o k left right) :
    w.traversal o k left right = w'.traversal o k left right := by
  induction left, right using traversal.induct w with
  | case1 left right ih =>
    cases hlevel : Level.of w.view left right with
    | error failure =>
      rw [(traversal_of_error hlevel).1, (traversal_of_error (h.files.level_eq ▸ hlevel)).1,
        h.files.faultOf?_list_eq, h.files.faultOf?_list_eq]
    | ok found =>
      obtain ⟨leftNames, rightNames, hleft, -⟩ := Level.of_eq_ok_iff.1 hlevel
      have hentries : found.common.flatMap (w.entryEvents o k left right) =
          found.common.flatMap (w'.entryEvents o k left right) := by
        refine List.flatMap_congr fun n hn => ?_
        obtain ⟨hl, hr⟩ := (Level.mem_common_iff hlevel).1 hn
        exact entryEvents_eq_of_noise h.files (h.seen .root hl hr)
      have hbelow : (found.subdirectories.flatMap fun n =>
            w.traversal o k (left.join n.bytes) (right.join n.bytes)) =
          found.subdirectories.flatMap fun n =>
            w'.traversal o k (left.join n.bytes) (right.join n.bytes) := by
        refine List.flatMap_congr fun n hn => ?_
        exact ih leftNames hleft n (h.below ((Level.mem_subdirectories_iff hlevel).1 hn))
      rw [traversal_of_ok hlevel, traversal_of_ok (h.files.level_eq ▸ hlevel), hentries, hbelow]

/-! ### A noisy world -/

/-- The world with noise on every entry: times, flags, the numbers of what are no devices and the
links of directories are others, and the security label is gone. -/
def disturbed (w : World) : World where
  view :=
    { w.view with
      status p := (w.view.status p).map fun m =>
        { m with
          mtime := .zero
          rdev := if m.isDevice then m.rdev else 7
          nlink := if m.isDirectory then 7 else m.nlink } }
  flags _ _ := 7
  xattrs p := (w.xattrs p).map dropLabel

theorem alike_disturbed {p : Path} {m u : Meta} (hflags : o.ignoreFlags = true)
    (htimes : k.utime = false) (hm : w.view.status p = .ok m)
    (hu : w.disturbed.view.status p = .ok u) :
    (w.seen p m).Alike o k true (w.disturbed.seen p u) := by
  change (w.view.status p).map _ = .ok u at hu
  rw [hm] at hu
  obtain rfl := Except.ok.inj hu
  refine ⟨⟨rfl, rfl, rfl, ?_, ?_, ?_, ?_⟩, ?_⟩
  · intro hdevice
    exact (if_pos hdevice).symm
  · intro hdirectory
    have hd : m.isDirectory ≠ true := by
      intro heq
      exact absurd (hdirectory.symm.trans heq) nofun
    exact (if_neg hd).symm
  · intro hignore
    exact absurd (hflags.symm.trans hignore) nofun
  · intro hutime
    exact absurd (htimes.symm.trans hutime) nofun
  · intro _
    show Agree _ (w.xattrs p) ((w.xattrs p).map dropLabel)
    cases w.xattrs p with
    | error cause => exact .fault cause
    | ok x =>
      refine .value fun key hkey => ?_
      show x.get? key = (x.erase securityLabel).get? key
      rw [Xattrs.get?_erase, if_neg hkey]

theorem differInNoise_disturbed (hflags : o.ignoreFlags = true) (hview : o.mountedView = .right)
    (htimes : k.utime = false) : DifferInNoise w w.disturbed o k left right where
  files :=
    { list := fun p => by
        show Agree _ (w.view.list p) (w.view.list p)
        cases w.view.list p with
        | error cause => exact .fault cause
        | ok names => exact .value fun n => Iff.rfl
      status := fun p => by
        show Agree _ (w.view.status p) ((w.view.status p).map _)
        cases w.view.status p with
        | error cause => exact .fault cause
        | ok m => exact .value ⟨rfl, rfl, rfl, rfl⟩
      target := fun _ => rfl
      content := fun _ => rfl }
  seen _ _ _ := by
    refine ⟨fun hm _ hu => ?_, fun _ hn hu => ?_⟩
    · rw [hview]
      exact alike_disturbed hflags htimes hm hu
    · rw [hview]
      exact alike_disturbed hflags htimes hn hu

end World

/-- **Noise never influences a comparison.**  In two worlds that differ in noise a comparison ends
in the same way, with the same failure if there is one, and asks the same questions. -/
theorem Comparator.run_eq_of_noise {σ τ : Type} (o : Options) (k : Capabilities) (i : Inspector σ)
    (j : Inspector τ) (hi : i.IsSteady) (hj : j.IsSteady) (left right : Path) (s : σ) (t : τ)
    (h : World.DifferInNoise (i.world s) (j.world t) o k left right) :
    (Comparator.run ⟨o, k, i⟩ left right s).1 = (Comparator.run ⟨o, k, j⟩ left right t).1 ∧
      (Comparator.run ⟨o, k, i⟩ left right s).2.queries =
        (Comparator.run ⟨o, k, j⟩ left right t).2.queries := by
  rw [Comparator.run_eq_traversal hi, Comparator.run_eq_traversal hj]
  show Event.outcome ((i.world s).traversal o k left right) =
      Event.outcome ((j.world t).traversal o k left right) ∧
    Event.asked ((i.world s).traversal o k left right) =
      Event.asked ((j.world t).traversal o k left right)
  rw [World.traversal_eq_of_noise h]
  exact ⟨rfl, rfl⟩

theorem Comparator.run_disturbed_twoLinks :
    let s := FileSystem.twoLinks [0x78] [0x79]
    let w := Inspector.ofFiles.world s
    let o : Options := { Options.default with ignoreFlags := true, mountedView := .right }
    let k : Capabilities := { Comparator.strict.capabilities with utime := false }
    Inspector.ofFiles.IsSteady ∧ w.disturbed.inspector.IsSteady ∧
      World.DifferInNoise w (w.disturbed.inspector.world ()) o k [0x61] [0x62] ∧
      (Comparator.run ⟨o, k, .ofFiles⟩ [0x61] [0x62] s).1 =
        (Comparator.run ⟨o, k, w.disturbed.inspector⟩ [0x61] [0x62] ()).1 ∧
      (Comparator.run ⟨o, k, .ofFiles⟩ [0x61] [0x62] s).2.queries =
        (Comparator.run ⟨o, k, w.disturbed.inspector⟩ [0x61] [0x62] ()).2.queries := by
  intro s w o k
  have hnoise : World.DifferInNoise w (w.disturbed.inspector.world ()) o k [0x61] [0x62] := by
    rw [World.world_inspector]
    exact World.differInNoise_disturbed rfl rfl rfl
  exact ⟨Inspector.isSteady_ofFiles, w.disturbed.isSteady_inspector, hnoise,
    Comparator.run_eq_of_noise o k .ofFiles w.disturbed.inspector Inspector.isSteady_ofFiles
      w.disturbed.isSteady_inspector [0x61] [0x62] s () hnoise⟩

end RestoreCheck
