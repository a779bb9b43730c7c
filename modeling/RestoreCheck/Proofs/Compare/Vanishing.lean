import Mathlib
import RestoreCheck.Proofs.Compare.Disturbed
import RestoreCheck.Proofs.Compare.EqualTrees
import RestoreCheck.Proofs.Files.Entries

/-!
# Entries that vanish while trees are compared

An entry that is removed while two trees are compared is never passed over in silence: if its status
was not read before, the comparison fails (`Comparator.fails_of_vanishing`).
-/

namespace RestoreCheck

namespace FileSystem

variable {fs : FileSystem} {left right a b d : Path} {n : Name} {kl kr l : Location}

/-- **Two trees have nothing in common**: neither root stands at or below the other. -/
def Apart (fs : FileSystem) (left right : Path) : Prop :=
  ∀ kl kr, fs.locate .target left = .ok kl → fs.locate .target right = .ok kr →
    ¬ kl <:+ kr ∧ ¬ kr <:+ kl

/-- What stands below one of two places that have nothing in common is not above anything below the
other, nor above anything that is higher below its own. -/
theorem not_suffix_of_apart {names names' : List Name} (h : ¬ kl <:+ kr ∧ ¬ kr <:+ kl)
    (hlength : names'.length ≤ names.length) :
    ¬ n :: (names ++ kl) <:+ names' ++ kl ∧ ∀ names', ¬ n :: (names ++ kl) <:+ names' ++ kr := by
  constructor
  · intro hsuffix
    have := hsuffix.length_le
    simp only [List.length_cons, List.length_append] at this
    omega
  · intro names' hsuffix
    have hkl : kl <:+ names' ++ kr := (List.suffix_append (n :: names) kl).trans hsuffix
    rcases List.suffix_or_suffix_of_suffix hkl (List.suffix_append names' kr) with hlr | hrl
    · exact h.1 hlr
    · exact h.2 hrl

/-- **An entry that is removed is lost**, if the two trees have nothing in common. -/
theorem loses_removeNames (htree : fs.IsTree) (hleft : fs.locate .target left = .ok kl)
    (hright : fs.locate .target right = .ok kr) (hapart : ¬ kl <:+ kr ∧ ¬ kr <:+ kl)
    (hab : fs.view.Entered left right a b) (hna : fs.view.Holds a n) (hnb : fs.view.Holds b n)
    (hl : fs.locate .entry (a.join n.bytes) = .ok l ∨ fs.locate .entry (b.join n.bytes) = .ok l) :
    fs.view.Loses (fs.removeNames l).view left right a b n := by
  obtain ⟨names, ha, hb⟩ := exists_locate_of_entered htree hleft hright hab
  have hchild := mem_children_of_holds ha hna
  have hchild' := mem_children_of_holds hb hnb
  have hname := htree.ofName_of_mem_children hchild
  have habove (m : Name) {names' : List Name} (hlength : names'.length < names.length) :
      (m :: names').length ≤ names.length := hlength
  -- Of the two entries one goes, and everything above them stays.
  have hgoes : l ≠ [] ∧ (l <:+ n :: (names ++ kl) ↔ ¬ l <:+ n :: (names ++ kr)) ∧
      ∀ m names', names'.length < names.length →
        ¬ l <:+ m :: (names' ++ kl) ∧ ¬ l <:+ m :: (names' ++ kr) := by
    rcases hl with hl | hl
    · obtain rfl := eq_of_locate_join ha hname hl
      refine ⟨List.cons_ne_nil _ _, iff_of_true List.suffix_rfl ?_, fun m names' hlength => ?_⟩
      · exact (not_suffix_of_apart hapart (Nat.le_refl _)).2 (n :: names)
      · have hspared := not_suffix_of_apart (n := n) hapart (habove m hlength)
        exact ⟨hspared.1, hspared.2 (m :: names')⟩
    · obtain rfl := eq_of_locate_join hb hname hl
      refine ⟨List.cons_ne_nil _ _, iff_of_false ?_ (not_not_intro List.suffix_rfl),
        fun m names' hlength => ?_⟩
      · exact (not_suffix_of_apart hapart.symm (Nat.le_refl _)).2 (n :: names)
      · have hspared := not_suffix_of_apart (n := n) hapart.symm (habove m hlength)
        exact ⟨hspared.2 (m :: names'), hspared.1⟩
  obtain ⟨hne, hone, hspared⟩ := hgoes
  refine ⟨fun m m' hm hm' => ?_, fun found hfound => ?_, fun hxy hm hbelow hfound => ?_,
    fun hp hm => isDirectory_removeNames hne hp hm⟩
  · rcases hl with hl | hl
    · exact status_removeNames_of_locate hne hl m hm
    · exact status_removeNames_of_locate hne hl m' hm'
  · obtain ⟨_, _, hlistl, hlistr, -⟩ := Level.of_eq_ok_iff.1 hfound
    cases hagrees : found.agrees with
    | false => rfl
    | true =>
      have hsame := ((Level.agrees_iff hfound).1 hagrees).1 n
      rw [holds_removeNames_iff hne ha hlistl, holds_removeNames_iff hne hb hlistr] at hsame
      simp only [hchild, hchild', true_and, hone, not_not] at hsame
      exact absurd hsame (by simp)
  · obtain ⟨_, _, hlistl, hlistr, -⟩ := Level.of_eq_ok_iff.1 hfound
    obtain ⟨names', hx, hy⟩ := exists_locate_of_entered htree hleft hright hxy
    obtain ⟨names'', hbelowx, -⟩ := exists_locate_of_entered htree
      (locate_join_of_isDirectory htree hx hm.holds_left hm.isDirectory_left)
      (locate_join_of_isDirectory htree hy hm.holds_right hm.isDirectory_right) hbelow
    have hlength : names'.length < names.length := by
      have hsame := congrArg List.length (Except.ok.inj (ha.symm.trans hbelowx))
      simp only [List.length_append, List.length_cons] at hsame
      omega
    rw [holds_removeNames_iff hne hx hlistl, holds_removeNames_iff hne hy hlistr]
    exact ⟨⟨mem_children_of_holds hx hm.holds_left, (hspared _ _ hlength).1⟩,
      mem_children_of_holds hy hm.holds_right, (hspared _ _ hlength).2⟩

/-- **An entry vanishes** while flags are asked for: it stands in one of two trees, and what may
happen, once, is that it is removed from there, with all that is in it. -/
structure Vanishes (fs : FileSystem) (left right d : Path) (n : Name) (l : Location)
    (event : Path → FileSystem → FileSystem) : Prop where
  /-- it stands in a directory of one of the trees -/
  within : fs.view.Within left d ∨ fs.view.Within right d
  /-- it stands there under its name -/
  holds : fs.view.Holds d n
  /-- this is its place -/
  locate : fs.locate .entry (d.join n.bytes) = .ok l
  /-- it is removed, or not yet -/
  once : Once event fs (fs.removeNames l)

end FileSystem

namespace World

variable {w : World} {o : Options} {k : Capabilities} {left right a b d : Path}

theorem SameLevel.exists_level (h : w.SameLevel o k a b) :
    ∃ found, Level.of w.view a b = .ok found := by
  obtain ⟨leftNames, hleft⟩ := h.list_left
  obtain ⟨rightNames, hright⟩ := h.list_right
  exact ⟨_, Level.of_eq_ok_iff.2 ⟨leftNames, rightNames, hleft, hright, rfl⟩⟩

variable (hsame : ∀ a b, w.view.Entered left right a b → w.SameLevel o k a b)
include hsame

/-- A directory of one of two trees that hold the same stands beside one of the other. -/
theorem exists_entered_of_within_left (h : w.view.Within left d) :
    ∃ b, w.view.Entered left right d b := by
  induction h with
  | root => exact ⟨right, .root⟩
  | @descend a n above holds directory ih =>
    obtain ⟨b, hab⟩ := ih
    have hb := ((hsame a b hab).names n).1 holds
    have hdirectory := ((hsame a b hab).entries n holds hb).isDirectory_eq
    exact ⟨_, .descend hab ⟨holds, hb, directory, hdirectory ▸ directory⟩⟩

theorem exists_entered_of_within_right (h : w.view.Within right d) :
    ∃ a, w.view.Entered left right a d := by
  induction h with
  | root => exact ⟨left, .root⟩
  | @descend b n above holds directory ih =>
    obtain ⟨a, hab⟩ := ih
    have ha := ((hsame a b hab).names n).2 holds
    have hdirectory := ((hsame a b hab).entries n ha holds).isDirectory_eq
    exact ⟨_, .descend hab ⟨ha, holds, hdirectory ▸ directory, directory⟩⟩

theorem exists_entered_of_within (h : w.view.Within left d ∨ w.view.Within right d) :
    ∃ a b, w.view.Entered left right a b ∧ (d = a ∨ d = b) := by
  rcases h with h | h
  · obtain ⟨b, hab⟩ := exists_entered_of_within_left hsame h
    exact ⟨d, b, hab, .inl rfl⟩
  · obtain ⟨a, hab⟩ := exists_entered_of_within_right hsame h
    exact ⟨a, d, hab, .inr rfl⟩

end World

theorem removalAt_self (path victim : Path) (fs : FileSystem) :
    removalAt path victim path fs = fs.discard victim :=
  if_pos (decide_eq_true rfl)

theorem once_removalAt {fs : FileSystem} {path victim : Path} {l : Location} {x : Node}
    (h : fs.removable victim = .ok (l, x)) (hl : l ≠ []) :
    Once (removalAt path victim) fs (fs.removeNames l) := by
  constructor
  · intro asked
    unfold removalAt
    split
    · exact .inr (FileSystem.discard_eq_removeNames h)
    · exact .inl rfl
  · intro asked
    unfold removalAt
    split
    · have hfind := (FileSystem.removable_eq_ok_iff.1 h).1
      exact FileSystem.discard_removeNames hl (FileSystem.locate_eq_ok_iff.2 hfind)
    · rfl

/-- The first flags are asked for before the status of any entry but that one is read. -/
theorem World.flagsBeforeStatus_of_first {w : World} {o : Options} {k : Capabilities}
    {left right path : Path} {n : Name} {names : List Name} (hflags : o.ignoreFlags = false)
    (hcommon : (Level.of w.view left right).map Level.common = .ok (n :: names))
    (hleft : faultOf? (w.view.status (left.join n.bytes)) = none)
    (hright : faultOf? (w.view.status (right.join n.bytes)) = none)
    (hpath : path ≠ left.join n.bytes ∧ path ≠ right.join n.bytes) :
    Event.FlagsBeforeStatus (left.join n.bytes) path (w.traversal o k left right) := by
  cases hlevel : Level.of w.view left right with
  | error failure =>
    rw [hlevel] at hcommon
    cases hcommon
  | ok found =>
    rw [hlevel] at hcommon
    have hfirst : found.common = n :: names := Except.ok.inj hcommon
    obtain ⟨rest, hentry⟩ : ∃ rest, w.entryEvents o k left right n =
        .status (left.join n.bytes) none :: .status (right.join n.bytes) none ::
          .flags (left.join n.bytes) :: rest := by
      unfold entryEvents
      dsimp only
      rw [hleft, hright]
      cases hm : w.view.status (left.join n.bytes) with
      | error cause => simp [hm, faultOf?] at hleft
      | ok m =>
        cases hm' : w.view.status (right.join n.bytes) with
        | error cause => simp [hm', faultOf?] at hright
        | ok m' =>
          unfold pairEvents inspection
          rw [hflags]
          exact ⟨_, rfl⟩
    rw [traversal_of_ok hlevel, hfirst, List.flatMap_cons, hentry]
    refine ⟨[.listing left none, .listing right none, .level left right found,
      .status (left.join n.bytes) none, .status (right.join n.bytes) none], _, rfl, ?_⟩
    simp [hpath]

/-- **An entry that vanishes is never passed over in silence.**  Two trees that have nothing in
common compare equal as long as nothing happens.  If an entry below one of the roots is removed
while the inspector is asked for the flags of some entry, before the status of that entry itself was
read, then the comparison fails. -/
theorem Comparator.fails_of_vanishing (o : Options) (k : Capabilities) (i : Inspector FileSystem)
    (hi : i.IsSteady) (hview : i.view = FileSystem.view) (hflags : o.ignoreFlags = false)
    {fs : FileSystem} (htree : fs.IsTree) {left right d : Path} (hapart : fs.Apart left right)
    (halone : (Comparator.run ⟨o, k, i⟩ left right fs).1 = .ok ()) {n : Name} {l : Location}
    {event : Path → FileSystem → FileSystem} (hvanishes : fs.Vanishes left right d n l event)
    {asked : Path} (hasked : event asked fs = fs.removeNames l)
    (htime : Event.FlagsBeforeStatus asked (d.join n.bytes)
      ((i.world fs).traversal o k left right)) :
    ∃ failure, (Comparator.run ⟨o, k, i.during event⟩ left right fs).1 = .error failure := by
  obtain ⟨view, flags, xattrs⟩ := i
  obtain rfl : view = FileSystem.view := hview
  let w : World := Inspector.world ⟨FileSystem.view, flags, xattrs⟩ fs
  have hsame : ∀ a b, fs.view.Entered left right a b → w.SameLevel o k a b := by
    rw [Comparator.run_eq_traversal hi] at halone
    have hequivalent := World.outcome_traversal_eq_ok_iff_equivalent.1 halone
    exact World.equivalent_iff_forall_entered.1 hequivalent
  obtain ⟨kl, hleft, -⟩ : ∃ kl, fs.locate .target left = .ok kl ∧ _ :=
    FileSystem.exists_locate_of_list (hsame left right .root).list_left.choose_spec
  obtain ⟨kr, hright, -⟩ : ∃ kr, fs.locate .target right = .ok kr ∧ _ :=
    FileSystem.exists_locate_of_list (hsame left right .root).list_right.choose_spec
  -- The directory of the entry stands beside one of the other tree, which holds its name too.
  obtain ⟨a, b, hab, hd⟩ := World.exists_entered_of_within (w := w) hsame hvanishes.within
  have hnames : fs.view.Holds a n ↔ fs.view.Holds b n := (hsame a b hab).names n
  have hna : fs.view.Holds a n := by
    rcases hd with rfl | rfl
    · exact hvanishes.holds
    · exact hnames.2 hvanishes.holds
  have hnb := hnames.1 hna
  have hl : fs.locate .entry (a.join n.bytes) = .ok l ∨
      fs.locate .entry (b.join n.bytes) = .ok l := by
    rcases hd with rfl | rfl
    · exact .inl hvanishes.locate
    · exact .inr hvanishes.locate
  have hloses := FileSystem.loses_removeNames htree hleft hright (hapart kl kr hleft hright) hab
    hna hnb hl
  -- Both entries could be described before, so the removal did change something.
  have hne : fs ≠ fs.removeNames l := by
    intro heq
    obtain ⟨m, m', hm, hm', -⟩ := ((hsame a b hab).entries n hna hnb).seen
    rw [← heq] at hloses
    exact hloses.undescribed m m' hm hm'
  have hends (t : FileSystem) : ¬ Ends (Comparator.compare ⟨o, k, _⟩ left right) fs t :=
    not_ends_compare_of_flagsBeforeStatus hi hflags hvanishes.once hloses hne hasked
      (hd.imp (congrArg (Path.join · n.bytes)) (congrArg (Path.join · n.bytes)))
      (fun x y hxy => (hsame x y hxy).exists_level) hna hnb .root hab htime
  cases hrun : Comparator.run ⟨o, k, _⟩ left right fs with
  | mk r p =>
    cases r with
    | ok u => exact absurd ⟨u, [], p.queries, hrun⟩ (hends p.state)
    | error failure => exact ⟨failure, rfl⟩

/-- The directories `a` and `b`, each with an empty file `f` and a directory `s` in which there is
one more, `g`. -/
def FileSystem.twins : FileSystem :=
  let a := Name.letter 0x61 (by decide)
  let b := Name.letter 0x62 (by decide)
  let f := Name.letter 0x66 (by decide)
  let g := Name.letter 0x67 (by decide)
  let s := Name.letter 0x73 (by decide)
  let file := plain (.file 0 (.ok []))
  { names := [([], 0), ([a], 1), ([f, a], 2), ([s, a], 3), ([g, s, a], 4), ([b], 5), ([f, b], 6),
      ([s, b], 7), ([g, s, b], 8)]
    nodes := #[plain .directory, plain .directory, file, plain .directory, file, plain .directory,
      file, plain .directory, file]
    cwd := some []
    now := ⟨0, 0⟩
    earliest := [] }

/-- The file `b/s/g` is removed while the flags of `a/f` are asked for. -/
theorem Comparator.run_twins_vanishing :
    let fs := FileSystem.twins
    let f := Name.letter 0x66 (by decide)
    let g := Name.letter 0x67 (by decide)
    let s := Name.letter 0x73 (by decide)
    let a : Path := [0x61]
    let b : Path := [0x62]
    let d := b.join s.bytes
    let l := [g, s, Name.letter 0x62 (by decide)]
    let event := removalAt (a.join f.bytes) (d.join g.bytes)
    let still := Inspector.scripted [] fun _ fs => fs
    let c : Comparator FileSystem := { Comparator.strict with inspector := still }
    still.IsSteady ∧ fs.IsTree ∧ fs.Apart a b ∧ (c.run a b fs).1 = .ok () ∧
      fs.Vanishes a b d g l event ∧ event (a.join f.bytes) fs = fs.removeNames l ∧
      Event.FlagsBeforeStatus (a.join f.bytes) (d.join g.bytes)
        ((still.world fs).traversal c.options c.capabilities a b) ∧
      ∃ failure, (Comparator.run { c with inspector := .scripted [] event } a b fs).1 =
        .error failure := by
  intro fs f g s a b d l event still c
  have hsteady : still.IsSteady := ⟨fun _ _ _ => rfl, fun _ _ => rfl⟩
  have htree : fs.IsTree := .of_names (by cbv)
  have hapart : fs.Apart a b := by
    have ha : fs.locate .target a = .ok [Name.letter 0x61 (by decide)] := by cbv
    have hb : fs.locate .target b = .ok [Name.letter 0x62 (by decide)] := by cbv
    intro kl kr hkl hkr
    rw [ha] at hkl
    rw [hb] at hkr
    cases hkl
    cases hkr
    decide
  have halone : (c.run a b fs).1 = .ok () := by cbv
  have hremovable : fs.removable (d.join g.bytes) =
      .ok (l, FileSystem.plain (.file 0 (.ok []))) := by cbv
  have hvanishes : fs.Vanishes a b d g l event := by
    refine ⟨.inr ?_, ?_, ?_, once_removalAt hremovable (List.cons_ne_nil _ _)⟩
    · exact .descend .root ⟨[f, s], by cbv, by simp⟩ (by cbv)
    · exact ⟨[g], by cbv, by simp⟩
    · cbv
  have hremove : event (a.join f.bytes) fs = fs.removeNames l := by
    show removalAt _ _ _ _ = _
    rw [removalAt_self, FileSystem.discard_eq_removeNames hremovable]
  have htime : Event.FlagsBeforeStatus (a.join f.bytes) (d.join g.bytes)
      ((still.world fs).traversal c.options c.capabilities a b) := by
    have hcommon : (Level.of fs.view a b).map Level.common = .ok [f, s] := by cbv
    exact World.flagsBeforeStatus_of_first rfl hcommon (by cbv) (by cbv) (by decide)
  exact ⟨hsteady, htree, hapart, halone, hvanishes, hremove, htime,
    Comparator.fails_of_vanishing c.options c.capabilities still hsteady rfl rfl htree hapart
      halone hvanishes hremove htime⟩

end RestoreCheck
