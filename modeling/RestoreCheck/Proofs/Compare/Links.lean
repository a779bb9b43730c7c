import Mathlib
import RestoreCheck.Proofs.Compare.Classes
import RestoreCheck.Proofs.Files.Retargeted

/-!
# Symbolic links

The target of a link is nothing that a comparison looks at: the attributes of two links do not hold
it, and links are followed to see what they lead to.  So a comparison that ends well says that links
at one place lead to the same thing, and no more.  That they have the same target follows only where
something else tells the two trees apart, or where links to things of one kind have one target
(`Comparator.seesLinks`).

Where links lead nowhere, their targets could be any others that lead nowhere either
(`Comparator.run_eq_ok_iff_of_retargeted`).  So two trees that differ in nothing else are accepted
(`Comparator.accepts_other_targets`).
-/

namespace RestoreCheck

namespace FileSystem

variable (fs : FileSystem)

/-- Two links at one place in two trees, with their targets. -/
inductive LinkPair (left right : Path) : Path → Path → Path → Path → Prop where
  /-- they have one name in two directories that are reached through directories -/
  | intro {a b : Path} {n : Name} {x y : Path} (entered : fs.view.Entered left right a b)
      (holds_left : fs.view.Holds a n) (holds_right : fs.view.Holds b n)
      (left_target : fs.readLink (a.join n.bytes) = .ok x)
      (right_target : fs.readLink (b.join n.bytes) = .ok y) :
      LinkPair left right (a.join n.bytes) (b.join n.bytes) x y

/-- **Links are kept** from one tree to another: two at one place have one target. -/
def LinksKept (left right : Path) : Prop :=
  ∀ p q x y, fs.LinkPair left right p q x y → x = y

variable {fs} {left right p q s t : Path} {k l : Location}

/-- A name that is too long for anything to have it. -/
def longName (more : Nat) : Name where
  bytes := List.replicate (nameLimit + 1 + more) 0x78
  bytes_ne_nil h := by simpa using congrArg List.length h
  slash_notMem h := absurd (List.eq_of_mem_replicate h) (by decide)

/-- **A link that dangles, and has no other name,** can have another target than the one at its
place in the other tree. -/
theorem exists_retargeted_not_linksKept (hpair : fs.LinkPair left right p q s t)
    (hp : fs.locate .entry p = .ok k) (hq : fs.locate .entry q = .ok l) (hne : k ≠ l)
    (hlone : ∀ j, fs.index? j = fs.index? l → j = l) (hdangles : fs.Dangles l t) :
    ∃ fs', fs.Retargeted fs' ∧ ¬ fs'.LinksKept left right := by
  obtain @⟨a, b, n, s, t, hentered, hleft, hright, hs, ht⟩ := hpair
  obtain ⟨k', x, hx, hxs⟩ := readLink_eq_ok_iff.1 hs
  obtain ⟨l', y, hy, hyt⟩ := readLink_eq_ok_iff.1 ht
  obtain rfl : k = k' :=
    Except.ok.inj (hp.symm.trans (locate_eq_ok_iff.2 (lookup_eq_ok_iff.1 hx).1))
  obtain rfl : l = l' :=
    Except.ok.inj (hq.symm.trans (locate_eq_ok_iff.2 (lookup_eq_ok_iff.1 hy).1))
  obtain ⟨i, hi, hnode⟩ := Option.bind_eq_some_iff.1 (lookup_eq_ok_iff.1 hy).2
  -- The new target leads nowhere, and is longer than that of the other link.
  let long := longName s.length
  have hlength : long.bytes.length = nameLimit + 1 + s.length := List.length_replicate
  have hretargeted : fs.Retargeted (fs.retarget i long.bytes) :=
    retargeted_retarget hnode hyt (fun j hj => hlone j (hj.trans hi.symm) ▸ hdangles)
      fun j _ => dangles_of_long (by omega)
  have hk : fs.index? k ≠ some i := fun hk => hne (hlone k (hk.trans hi.symm))
  refine ⟨_, hretargeted, fun hkept => ?_⟩
  have hsame := hretargeted.sameAnswers
  have htargets := hkept _ _ _ _
    (.intro (hsame.entered hentered) (hsame.holds hleft) (hsame.holds hright)
      (readLink_retarget_of_ne hretargeted hk hx hxs) (readLink_retarget hretargeted hi hy))
  have hlengths := congrArg List.length htargets
  omega

end FileSystem

/-- **An inspector also shows a file system** in another state, with the flags and extended
attributes of the first. -/
structure Inspector.AlsoShows {σ : Type} (i : Inspector σ) (s s' : σ) (fs : FileSystem) :
    Prop where
  view : i.view s' = fs.view
  flags : ∀ p m, fs.status p = .ok m → (i.flags p m s).1 = (i.flags p m s').1
  xattrs : ∀ p x, (i.xattrs p s).1 = .ok x ↔ (i.xattrs p s').1 = .ok x

/-- The inspector of a file system shows it with other targets of links that lead nowhere. -/
theorem Inspector.alsoShows_ofFiles {fs fs' : FileSystem} (h : fs.Retargeted fs') :
    Inspector.ofFiles.AlsoShows fs fs' fs' where
  view := rfl
  flags _ _ hm := (h.symm.flags_eq hm).symm
  xattrs _ _ := ⟨h.xattrs, h.symm.xattrs⟩

namespace Comparator

variable {σ : Type}

theorem run_eq_ok_iff_forall_entered (c : Comparator σ) (h : c.inspector.IsSteady)
    (left right : Path) (s : σ) :
    (c.run left right s).1 = .ok () ↔ ∀ a b, (c.inspector.view s).Entered left right a b →
      (c.inspector.world s).SameLevel c.options c.capabilities a b := by
  rw [c.run_eq_traversal h]
  show Event.outcome _ = .ok () ↔ _
  rw [World.outcome_traversal_eq_ok_iff_equivalent, World.equivalent_iff_forall_entered]
  rfl

/-- **What a comparison sees of links.** -/
structure SeesLinks (c : Comparator σ) (fs : FileSystem) (left right : Path) (s : σ) : Prop where
  /-- That it ends well means that links are kept exactly if they are, or if the trees differ in
  something else that is looked at. -/
  kept_iff : ((c.run left right s).1 = .ok () → fs.LinksKept left right) ↔
    fs.LinksKept left right ∨ ∃ a b, fs.view.Entered left right a b ∧
      ¬ (c.inspector.world s).SameLevel c.options c.capabilities a b
  /-- All that it means of links is that two at one place lead to the same thing. -/
  lead : (c.run left right s).1 = .ok () →
    ∀ p q x y, fs.LinkPair left right p q x y → fs.view.LeadAlike p q
  /-- So they are kept if those have one target that lead both nowhere, or to things of one kind. -/
  kept_of_kind : (∀ p q x y, fs.LinkPair left right p q x y →
      fs.view.kind? p = fs.view.kind? q → x = y) →
    (c.run left right s).1 = .ok () → fs.LinksKept left right
  /-- The targets of links that lead nowhere make no difference. -/
  unseen : ∀ fs' s', fs.Retargeted fs' → c.inspector.AlsoShows s s' fs' →
    ((c.run left right s).1 = .ok () ↔ (c.run left right s').1 = .ok ())
  /-- So if a link dangles that has no other name, with another target it is not kept, and that
  makes no difference. -/
  unkept : ∀ p q x y k l, fs.LinkPair left right p q x y → fs.locate .entry p = .ok k →
    fs.locate .entry q = .ok l → k ≠ l → (∀ j, fs.index? j = fs.index? l → j = l) →
    fs.Dangles l y → ∃ fs', fs.Retargeted fs' ∧ ¬ fs'.LinksKept left right ∧
      ∀ s', c.inspector.AlsoShows s s' fs' →
        ((c.run left right s).1 = .ok () ↔ (c.run left right s').1 = .ok ())

/-- A comparison that ends well does so with other targets of links that lead nowhere. -/
theorem run_eq_ok_iff_of_retargeted (c : Comparator σ) (h : c.inspector.IsSteady)
    {fs fs' : FileSystem} {s s' : σ} (hview : c.inspector.view s = fs.view)
    (hretargeted : fs.Retargeted fs') (hshows : c.inspector.AlsoShows s s' fs')
    (left right : Path) :
    (c.run left right s).1 = .ok () ↔ (c.run left right s').1 = .ok () := by
  have hsame : (c.inspector.view s).SameAnswers (c.inspector.view s') := by
    rw [hview, hshows.view]
    exact hretargeted.sameAnswers
  refine c.run_eq_ok_iff_of_sameAnswers h ⟨hsame, fun p m hm => ?_, hshows.xattrs⟩ left right
  refine hshows.flags p m ?_
  have hm' := (hsame.status p m).1 hm
  rw [hshows.view] at hm'
  exact hm'

/-- Links at one place in two trees that compare well lead to the same thing. -/
theorem leadAlike_of_linkPair (c : Comparator σ) (h : c.inspector.IsSteady) {fs : FileSystem}
    {left right p q x y : Path} {s : σ} (hview : c.inspector.view s = fs.view)
    (hok : (c.run left right s).1 = .ok ()) (hpair : fs.LinkPair left right p q x y) :
    fs.view.LeadAlike p q := by
  obtain ⟨hentered, hleft, hright, -, -⟩ := hpair
  rw [← hview] at hentered hleft hright ⊢
  have hsame := (c.run_eq_ok_iff_forall_entered h left right s).1 hok _ _ hentered
  exact (hsame.entries _ hleft hright).lead

/-- **Every comparison sees of links** what they lead to, and not what their targets are. -/
theorem seesLinks (c : Comparator σ) (h : c.inspector.IsSteady) (fs : FileSystem)
    (left right : Path) (s : σ) (hview : c.inspector.view s = fs.view) :
    c.SeesLinks fs left right s where
  kept_iff := by
    have hrun := c.run_eq_ok_iff_forall_entered h left right s
    rw [hview] at hrun
    constructor
    · intro hkept
      by_cases hsame : ∀ a b, fs.view.Entered left right a b →
          (c.inspector.world s).SameLevel c.options c.capabilities a b
      · exact .inl (hkept (hrun.2 hsame))
      · right
        simp only [Classical.not_forall] at hsame
        obtain ⟨a, b, hab, hdiffer⟩ := hsame
        exact ⟨a, b, hab, hdiffer⟩
    · rintro (hkept | ⟨a, b, hab, hdiffer⟩) hok
      · exact hkept
      · exact absurd (hrun.1 hok a b hab) hdiffer
  lead hok _ _ _ _ := c.leadAlike_of_linkPair h hview hok
  kept_of_kind hkind hok p q x y hpair :=
    hkind p q x y hpair (c.leadAlike_of_linkPair h hview hok hpair).kind?_eq
  unseen _ _ hretargeted hshows :=
    c.run_eq_ok_iff_of_retargeted h hview hretargeted hshows left right
  unkept p q x y k l hpair hp hq hne hlone hdangles := by
    obtain ⟨fs', hretargeted, hunkept⟩ :=
      FileSystem.exists_retargeted_not_linksKept hpair hp hq hne hlone hdangles
    exact ⟨fs', hretargeted, hunkept, fun s' hshows =>
      c.run_eq_ok_iff_of_retargeted h hview hretargeted hshows left right⟩

/-- Of two links with one target that leads nowhere one gets another. -/
theorem strict_seesLinks :
    let fs := FileSystem.twoLinks [0x78] [0x78]
    strict.inspector.IsSteady ∧ strict.inspector.view fs = fs.view ∧
      strict.SeesLinks fs [0x61] [0x62] fs ∧
      ∃ fs', fs.Retargeted fs' ∧ ¬ fs'.LinksKept [0x61] [0x62] ∧
        ((strict.run [0x61] [0x62] fs).1 = .ok () ↔ (strict.run [0x61] [0x62] fs').1 = .ok ()) := by
  intro fs
  let a : Name := ⟨[0x61], by decide, by decide⟩
  let b : Name := ⟨[0x62], by decide, by decide⟩
  let l : Name := ⟨[0x6C], by decide, by decide⟩
  have hsees := strict.seesLinks Inspector.isSteady_ofFiles fs [0x61] [0x62] fs rfl
  have hleft : fs.view.Holds [0x61] l := ⟨[l], by cbv, List.mem_singleton_self l⟩
  have hright : fs.view.Holds [0x62] l := ⟨[l], by cbv, List.mem_singleton_self l⟩
  have hpair := FileSystem.LinkPair.intro (x := [0x78]) (y := [0x78]) .root hleft hright (by cbv)
    (by cbv)
  have hlone (j : Location) (hj : fs.index? j = fs.index? [l, b]) : j = [l, b] := by
    have hindex : fs.index? [l, b] = some 4 := by cbv
    have hmem := FileSystem.mem_names_of_index? (hj.trans hindex)
    simpa [fs, FileSystem.twoLinks] using hmem
  have hdangles : fs.Dangles [l, b] [0x78] :=
    FileSystem.dangles_of_missing (n := ⟨[0x78], by decide, by decide⟩) (by cbv) (by cbv)
      (by decide) (by cbv)
  obtain ⟨fs', hretargeted, hunkept, hsame⟩ :=
    hsees.unkept _ _ _ _ [l, a] [l, b] hpair (by cbv) (by cbv) (by decide) hlone hdangles
  exact ⟨Inspector.isSteady_ofFiles, rfl, hsees, fs', hretargeted, hunkept,
    hsame fs' (Inspector.alsoShows_ofFiles hretargeted)⟩

/-- **Two trees that differ only in where a link points are accepted**, if both links lead
nowhere. -/
theorem accepts_other_targets :
    (strict.run [0x61] [0x62] (.twoLinks [0x78] [0x79])).1 = .ok () ∧
      ¬ (FileSystem.twoLinks [0x78] [0x79]).LinksKept [0x61] [0x62] := by
  let l : Name := ⟨[0x6C], by decide, by decide⟩
  have hleft : (FileSystem.twoLinks [0x78] [0x79]).view.Holds [0x61] l :=
    ⟨[l], by cbv, List.mem_singleton_self l⟩
  have hright : (FileSystem.twoLinks [0x78] [0x79]).view.Holds [0x62] l :=
    ⟨[l], by cbv, List.mem_singleton_self l⟩
  -- Neither `a/x` nor `b/y` exists, and the vectors of the two links are equal.
  refine ⟨by cbv, ?_⟩
  intro hkept
  have htargets := hkept _ _ [0x78] [0x79] (.intro .root hleft hright (by cbv) (by cbv))
  revert htargets
  decide

end Comparator

end RestoreCheck
