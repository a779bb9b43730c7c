import RestoreCheck.Proofs.Compare.Equivalence

/-!
# Worlds that give the same answers

Two worlds give the same answers (`World.SameAnswers`) if whatever can be learned in one can be
learned in the other.  What cannot be learned may fail for one reason here and for another there.
That is as good as one world to a comparison that ends well, which has met no failure but those of
links that lead nowhere (`Comparator.run_eq_ok_iff_of_sameAnswers`).
-/

namespace RestoreCheck

namespace View

variable {v v' : View} {left right a b p : Path} {n : Name}

/-- **Two views give the same answers**, but for the reasons of failures. -/
structure SameAnswers (v v' : View) : Prop where
  list : ∀ p names, v.list p = .ok names ↔ v'.list p = .ok names
  status : ∀ p m, v.status p = .ok m ↔ v'.status p = .ok m
  target : ∀ p t, v.target p = .ok t ↔ v'.target p = .ok t
  content : ∀ p x, v.content p = .ok x ↔ v'.content p = .ok x

namespace SameAnswers

theorem symm (h : v.SameAnswers v') : v'.SameAnswers v where
  list p names := (h.list p names).symm
  status p m := (h.status p m).symm
  target p t := (h.target p t).symm
  content p x := (h.content p x).symm

variable (h : v.SameAnswers v')
include h

theorem holds (hn : v.Holds p n) : v'.Holds p n := by
  obtain ⟨names, hnames, hmem⟩ := hn
  exact ⟨names, (h.list p names).1 hnames, hmem⟩

theorem isDirectory (hp : v.isDirectory p = true) : v'.isDirectory p = true := by
  unfold View.isDirectory at hp ⊢
  cases hm : v.status p with
  | error cause =>
    rw [hm] at hp
    cases hp
  | ok m =>
    rw [hm] at hp
    rw [(h.status p m).1 hm]
    exact hp

theorem entered (hab : v.Entered left right a b) : v'.Entered left right a b := by
  induction hab with
  | root => exact .root
  | descend above step ih =>
    exact .descend ih ⟨h.holds step.holds_left, h.holds step.holds_right,
      h.isDirectory step.isDirectory_left, h.isDirectory step.isDirectory_right⟩

/-- What leads nowhere in one view leads nowhere in the other. -/
theorem nowhere {f : Fault} (hp : v.target p = .error f) : ∃ g, v'.target p = .error g := by
  cases ht : v'.target p with
  | error g => exact ⟨g, rfl⟩
  | ok t =>
    rw [(h.target p t).2 ht] at hp
    cases hp

theorem leadAlike (hab : v.LeadAlike a b) : v'.LeadAlike a b := by
  cases hab with
  | directories ha hb => exact .directories ((h.target _ _).1 ha) ((h.target _ _).1 hb)
  | files ha hb content =>
    obtain ⟨x, y, hx, hy, hfailures⟩ := content
    exact .files ((h.target _ _).1 ha) ((h.target _ _).1 hb)
      ⟨x, y, (h.content _ _).1 hx, (h.content _ _).1 hy, hfailures⟩
  | specials ha hb => exact .specials ((h.target _ _).1 ha) ((h.target _ _).1 hb)
  | nowhere ha hb =>
    obtain ⟨f, hf⟩ := h.nowhere ha
    obtain ⟨g, hg⟩ := h.nowhere hb
    exact .nowhere hf hg

end SameAnswers

end View

namespace World

variable {w w' : World} {o : Options} {k : Capabilities} {left right a b : Path}

/-- **Two worlds give the same answers**, but for the reasons of failures. -/
structure SameAnswers (w w' : World) : Prop where
  view : w.view.SameAnswers w'.view
  flags : ∀ p m, w.view.status p = .ok m → w.flags p m = w'.flags p m
  xattrs : ∀ p x, w.xattrs p = .ok x ↔ w'.xattrs p = .ok x

namespace SameAnswers

theorem symm (h : w.SameAnswers w') : w'.SameAnswers w where
  view := h.view.symm
  flags p m hm := (h.flags p m ((h.view.status p m).2 hm)).symm
  xattrs p x := (h.xattrs p x).symm

variable (h : w.SameAnswers w')
include h

theorem readable {m : Meta} (hread : (w.seen a m).Readable o) : (w'.seen a m).Readable o := by
  intro hignore
  obtain ⟨x, hx⟩ := hread hignore
  exact ⟨x, (h.xattrs a x).1 hx⟩

theorem matching (hab : w.Matching o k a b) : w'.Matching o k a b := by
  refine ⟨h.view.leadAlike hab.lead, ?_⟩
  obtain ⟨m, m', hm, hm', hread, hread', halike⟩ := hab.seen
  refine ⟨m, m', (h.view.status a m).1 hm, (h.view.status b m').1 hm', h.readable hread,
    h.readable hread', ?_⟩
  have hflags : (w'.seen a m).flags = (w.seen a m).flags := (h.flags a m hm).symm
  have hflags' : (w'.seen b m').flags = (w.seen b m').flags := (h.flags b m' hm').symm
  refine ⟨⟨halike.mode, halike.uid, halike.gid, halike.rdev, halike.nlink, ?_, halike.mtime⟩, ?_⟩
  · intro hignore
    rw [hflags, hflags']
    exact halike.flags hignore
  · intro hignore
    obtain ⟨x, hx⟩ := hread hignore
    obtain ⟨y, hy⟩ := hread' hignore
    have hxattrs := halike.xattrs hignore
    rw [hx, hy] at hxattrs
    have hx' : (w'.seen a m).xattrs = .ok x := (h.xattrs a x).1 hx
    have hy' : (w'.seen b m').xattrs = .ok y := (h.xattrs b y).1 hy
    rw [hx', hy']
    exact hxattrs

theorem sameLevel (hab : w.SameLevel o k a b) : w'.SameLevel o k a b where
  list_left := hab.list_left.imp fun names => (h.view.list a names).1
  list_right := hab.list_right.imp fun names => (h.view.list b names).1
  names n := by
    have hholds (p : Path) : w'.view.Holds p n ↔ w.view.Holds p n :=
      ⟨h.view.symm.holds, h.view.holds⟩
    rw [hholds, hholds]
    exact hab.names n
  entries n hl hr := h.matching (hab.entries n (h.view.symm.holds hl) (h.view.symm.holds hr))

theorem equivalent (hequivalent : w.Equivalent o k left right) :
    w'.Equivalent o k left right := by
  rw [equivalent_iff_forall_entered] at hequivalent ⊢
  intro a b hab
  exact h.sameLevel (hequivalent a b (h.view.symm.entered hab))

end SameAnswers

end World

/-- **A comparison ends well in one world** exactly if it does in another that gives the same
answers. -/
theorem Comparator.run_eq_ok_iff_of_sameAnswers {σ : Type} (c : Comparator σ)
    (hsteady : c.inspector.IsSteady) {s t : σ}
    (h : (c.inspector.world s).SameAnswers (c.inspector.world t)) (left right : Path) :
    (c.run left right s).1 = .ok () ↔ (c.run left right t).1 = .ok () := by
  have hrun (s : σ) : (c.run left right s).1 = .ok () ↔
      (c.inspector.world s).Equivalent c.options c.capabilities left right := by
    rw [c.run_eq_traversal hsteady]
    exact World.outcome_traversal_eq_ok_iff_equivalent
  rw [hrun, hrun]
  exact ⟨h.equivalent, h.symm.equivalent⟩

end RestoreCheck
